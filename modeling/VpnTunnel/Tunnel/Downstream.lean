import VpnTunnel.Server.RelayReplies
import VpnTunnel.Tunnel.BrowserRelay

namespace VpnTunnel.Tunnel

open VpnTunnel.Crypto
open VpnTunnel.Foundation
open VpnTunnel.Server

/-! `_handle_connect` of the proxy for one browser, over a tunnel that does not
fail: each `send_request` is one `forward_request`, and gives its response. -/

/-- Where the thread stands; `writing` is `browser_sock.sendall` of the body. -/
inductive ConnectPoint
  | starting
  | connecting (task : ℕ)
  | polling
  | relaying (task : ℕ)
  | writing (response : CanonicalResponse)
  | left
  deriving DecidableEq, Repr

inductive LoopAction
  /-- The 200 Connection Established line, all of it. -/
  | greeted
  | sent (request : CanonicalRequest)
  /-- The response to a RELAY. -/
  | answered (response : CanonicalResponse)
  | wrote (bytes : Bytes)
  /-- `sendall` raised `BlockingIOError`. -/
  | blocked
  deriving DecidableEq, Repr

def LoopAction.bytes : LoopAction → Bytes
  | .wrote bytes => bytes
  | _ => []

structure Downstream where
  target : String
  browser : Browser
  forwarder : Forwarder
  point : ConnectPoint
  /-- What `recv` gave, at whichever target's socket. -/
  chunks : List (ℕ × Bytes)
  log : List LoopAction

inductive DownstreamEvent
  /-- A step of `forward_request`, for this browser or any other. -/
  | forwarder (event : ForwarderEvent)
  | greeted
  | greetFailed
  | answered
  | read (data : Bytes)
  | readEnd
  /-- `recv` raises `BlockingIOError`. -/
  | readBlocked
  | readFailed
  | wrote
  | writeBlocked (count : ℕ)
  | writeFailed (count : ℕ)

namespace Downstream

def start (target : String) (browser : Browser) : Downstream :=
  { target, browser, forwarder := .empty, point := .starting, chunks := [],
    log := [] }

def send (s : Downstream) (request : CanonicalRequest)
    (point : ℕ → ConnectPoint) (actions : List LoopAction) : Option Downstream :=
  (forwarderStep s.forwarder (.request s.browser request)).map fun forwarder =>
    { s with
      forwarder
      point := point s.forwarder.tasks.length
      log := s.log ++ actions }

def response (s : Downstream) (task : ℕ) : Option CanonicalResponse :=
  match s.forwarder.tasks[task]?.map RelayTask.point with
  | some (.done response) => some response
  | _ => none

/-- `if rr.get("closed"): break`. -/
def afterWrite (response : CanonicalResponse) : ConnectPoint :=
  if response.closed = some true then .left else .polling

def connectAnswered (s : Downstream) (response : CanonicalResponse) : Downstream :=
  { s with point := if response.statusCode = 200 then .polling else .left }

def relayAnswered (s : Downstream) (response : CanonicalResponse) : Downstream :=
  { s with
    point := if response.body = [] then afterWrite response else .writing response
    log := s.log ++ [.answered response] }

/-- What the browser has been sent after the 200 line. -/
def received (s : Downstream) : Bytes := s.log.flatMap LoopAction.bytes

end Downstream

def downstreamStep (s : Downstream) (event : DownstreamEvent) :
    Option Downstream :=
  match s.point, event with
  | _, .forwarder event =>
      (forwarderStep s.forwarder event).map fun forwarder =>
        { s with forwarder, chunks := s.chunks ++ s.forwarder.chunksOf event }
  | .starting, .greeted =>
      s.send (Proxied.connectRequest s.target) .connecting
        [.greeted, .sent (Proxied.connectRequest s.target)]
  | .starting, .greetFailed => some { s with point := .left }
  | .connecting task, .answered => (s.response task).map s.connectAnswered
  | .polling, .read data =>
      if data = [] ∨ 65536 < data.length then none
      else
        s.send (Proxied.relayRequest s.target data) .relaying
          [.sent (Proxied.relayRequest s.target data)]
  | .polling, .readEnd => some { s with point := .left }
  | .polling, .readBlocked => some s
  | .polling, .readFailed => some { s with point := .left }
  | .relaying task, .answered => (s.response task).map s.relayAnswered
  | .writing response, .wrote =>
      some { s with
        point := Downstream.afterWrite response
        log := s.log ++ [.wrote response.body] }
  -- `except BlockingIOError: pass` goes past the test of `closed`, too.
  | .writing response, .writeBlocked count =>
      if count < response.body.length then
        some { s with
          point := .polling
          log := s.log ++ [.wrote (response.body.take count), .blocked] }
      else none
  | .writing response, .writeFailed count =>
      some { s with
        point := .left
        log := s.log ++ [.wrote (response.body.take count)] }
  | _, _ => none

def LoopAction.closes : LoopAction → Bool
  | .answered response => decide (response.closed = some true)
  | _ => false

def LoopAction.sends : LoopAction → Bool
  | .sent _ => true
  | _ => false

/-- No request follows on a response that reports the target closed. -/
def QuietAfterClose (log : List LoopAction) : Prop :=
  log.Pairwise fun earlier later => earlier.closes = true → later.sends = false

namespace Downstream

/-- The browser has the first bytes of what the target socket produced. -/
def Faithful (s : Downstream) : Prop :=
  s.received = [] ∨
    ∃ sock, s.forwarder.Opened sock s.target s.browser ∧
      s.received <+: bytesOf sock s.chunks

/-- The target is this browser's own. -/
def OwnTarget (s : Downstream) : DownstreamEvent → Prop
  | .forwarder (.request _ request) => request.dispatch.target ≠ some s.target
  | _ => True

instance (s : Downstream) (event : DownstreamEvent) :
    Decidable (s.OwnTarget event) := by
  unfold OwnTarget
  split <;> infer_instance

/-- `sendall` to the target does not raise, and nothing is read from the browser
after a `sendall` to it that raised `BlockingIOError`. -/
def Unbroken (s : Downstream) : DownstreamEvent → Prop
  | .forwarder (.sendFailed task _ _) =>
      ∀ self ∈ s.forwarder.tasks[task]?, self.target ≠ s.target
  | .read _ => .blocked ∉ s.log
  | _ => True

instance (s : Downstream) (event : DownstreamEvent) :
    Decidable (s.Unbroken event) := by
  unfold Unbroken
  split <;> infer_instance

/-! What holds of the thread wherever it stands. -/

def Reported (s : Downstream) : Prop := ∃ action ∈ s.log, action.closes = true

/-- The thread will send nothing more. -/
def Over (s : Downstream) : Prop :=
  match s.point with
  | .writing response => response.closed = some true
  | .polling => .blocked ∈ s.log
  | .left => True
  | .starting | .connecting _ | .relaying _ => False

/-- The thread's call of `forward_request`. -/
def Running (s : Downstream) (task : ℕ) (holds : RelayPoint → Prop) : Prop :=
  ∃ self, s.forwarder.tasks[task]? = some self ∧ self.target = s.target ∧
    self.browser = s.browser ∧ holds self.point

def Dials (s : Downstream) (task : ℕ) : Prop :=
  s.Running task (s.forwarder.Dialing s.chunks s.target s.browser)

def Relays (s : Downstream) (task : ℕ) : Prop :=
  s.Running task (s.forwarder.Relaying s.chunks s.target s.browser s.received)

def Stage (s : Downstream) : Prop :=
  match s.point with
  | .starting => s.received = []
  | .connecting task => s.received = [] ∧ s.Dials task
  | .polling => .blocked ∉ s.log →
      ∃ sock, s.forwarder.Holds s.chunks s.target s.browser sock s.received
  | .relaying task => s.Relays task
  | .writing response =>
      ∃ sock, s.forwarder.Replies s.chunks s.target s.browser s.received response
        sock
  | .left => True

/-- The calls of `forward_request` that the target has had are over, up to the one
that the thread waits for. -/
structure Synced (s : Downstream) : Prop where
  targeted : s.forwarder.Targeted
  known : ∀ entry ∈ s.chunks, ∃ host opener,
    s.forwarder.Opened entry.1 host opener
  alone : ∀ index task, s.forwarder.tasks[index]? = some task →
    task.target = s.target → task.point.finished = false →
      s.point = .connecting index ∨ s.point = .relaying index
  faithful : s.Faithful
  quiet : QuietAfterClose s.log
  isOver : s.Reported → s.Over
  stage : s.Stage

theorem synced_start (target : String) (browser : Browser) :
    (start target browser).Synced where
  targeted := Forwarder.targeted_empty
  known := nofun
  alone := by
    intro index task found
    cases found
  faithful := .inl rfl
  quiet := .nil
  isOver := by
    rintro ⟨action, member, -⟩
    cases member
  stage := rfl

section

variable {s next : Downstream} {forwarder : Forwarder} {event : ForwarderEvent}
  {task : ℕ} {self : RelayTask}

theorem Faithful.later (faithful : s.Faithful)
    (opened : ∀ {sock host opener}, s.forwarder.Opened sock host opener →
      forwarder.Opened sock host opener) (more : List (ℕ × Bytes)) :
    ({ s with forwarder, chunks := s.chunks ++ more } : Downstream).Faithful := by
  rcases faithful with nothing | ⟨sock, own, covered⟩
  · exact .inl nothing
  · refine .inr ⟨sock, opened own, covered.trans ?_⟩
    rw [bytesOf_append]
    exact List.prefix_append _ _

/-- What the session rests on is as it was, and the thread's own task stands where
it stood. -/
theorem Stage.undisturbed (stage : s.Stage) {more : List (ℕ × Bytes)}
    (same : Forwarder.Undisturbed s.forwarder forwarder s.chunks more s.target
      s.browser)
    (stays : ∀ (task : ℕ) (self : RelayTask),
      s.forwarder.tasks[task]? = some self → self.target = s.target →
        forwarder.tasks[task]? = some self) :
    ({ s with forwarder, chunks := more } : Downstream).Stage := by
  unfold Stage at stage ⊢
  cases point : s.point with
  | starting =>
      simp only [point] at stage ⊢
      exact stage
  | connecting task =>
      simp only [point] at stage ⊢
      obtain ⟨nothing, self, found, own, opener, dialing⟩ := stage
      exact ⟨nothing, self, stays task self found own, own, opener,
        dialing.undisturbed same⟩
  | polling =>
      simp only [point] at stage ⊢
      intro passed
      obtain ⟨sock, holds⟩ := stage passed
      exact ⟨sock, holds.undisturbed same⟩
  | relaying task =>
      simp only [point] at stage ⊢
      obtain ⟨self, found, own, opener, relaying⟩ := stage
      exact ⟨self, stays task self found own, own, opener,
        relaying.undisturbed same⟩
  | writing response =>
      simp only [point] at stage ⊢
      obtain ⟨sock, replies⟩ := stage
      exact ⟨sock, replies.undisturbed same⟩
  | left => simp only

theorem forwarderStep_of_task (about : event.task = some task)
    {forwarder next : Forwarder}
    (stepped : forwarderStep forwarder event = some next) :
    ∃ self, forwarder.tasks[task]? = some self ∧
      forwarder.taskStep task self self.point event = some next := by
  have bound : forwarderStep forwarder event =
      forwarder.tasks[task]?.bind fun self =>
        forwarder.taskStep task self self.point event := by
    cases event <;> cases about <;> rfl
  rw [bound] at stepped
  exact Option.bind_eq_some_iff.mp stepped

theorem Synced.keep (synced : s.Synced) {more : List (ℕ × Bytes)}
    (targeted : forwarder.Targeted)
    (opened : ∀ {sock host opener}, s.forwarder.Opened sock host opener →
      forwarder.Opened sock host opener)
    (known : ∀ entry ∈ more, ∃ host opener,
      s.forwarder.Opened entry.1 host opener)
    (alone : ∀ index task, forwarder.tasks[index]? = some task →
      task.target = s.target → task.point.finished = false →
        s.point = .connecting index ∨ s.point = .relaying index)
    (stage : ({ s with forwarder, chunks := s.chunks ++ more } :
      Downstream).Stage) :
    ({ s with forwarder, chunks := s.chunks ++ more } : Downstream).Synced where
  targeted := targeted
  known := by
    intro entry member
    rcases List.mem_append.mp member with old | new
    · obtain ⟨host, opener, own⟩ := synced.known entry old
      exact ⟨host, opener, opened own⟩
    · obtain ⟨host, opener, own⟩ := known entry new
      exact ⟨host, opener, opened own⟩
  alone := alone
  faithful := synced.faithful.later opened more
  quiet := synced.quiet
  isOver := synced.isOver
  stage := stage

theorem Synced.ofRequest (synced : s.Synced) {browser : Browser}
    {request : CanonicalRequest}
    (guarded : request.dispatch.target ≠ some s.target)
    (stepped : forwarderStep s.forwarder (.request browser request) =
      some forwarder) :
    ({ s with forwarder, chunks := s.chunks ++ [] } : Downstream).Synced := by
  have move := forwarderStep_move stepped
  obtain ⟨host, data, point, started, rfl⟩ := Forwarder.ForwarderMove.of_request move
  have other : host ≠ s.target := by
    rintro rfl
    exact guarded (startPoint_eq_some started).1
  refine synced.keep (synced.targeted.step move) (fun opened => opened) nofun ?_ ?_
  · intro index task found own busy
    rcases List.getElem?_eq_some_iff.mp found with ⟨bound, here⟩
    by_cases old : index < s.forwarder.tasks.length
    · rw [List.getElem?_append_left old] at found
      exact synced.alone index task found own busy
    · have new : task = { browser, target := host, data, point } := by
        rw [List.getElem_append_right (Nat.not_lt.mp old)] at here
        exact here.symm.trans (List.getElem_singleton _)
      rw [new] at own
      exact absurd own other
  · rw [List.append_nil]
    refine Stage.undisturbed synced.stage ⟨rfl, fun opened => opened, fun _ => rfl⟩ ?_
    intro index self found own
    exact (List.getElem?_append_left
      (List.getElem?_eq_some_iff.mp found).1).trans found

theorem tasks_move_of_ne (move : TaskMove s.forwarder task self event forwarder)
    {index : ℕ} (other : index ≠ task) :
    forwarder.tasks[index]? = s.forwarder.tasks[index]? := by
  obtain ⟨-, point, tasks⟩ := Forwarder.TaskMove.tasks move
  rw [tasks]
  change (s.forwarder.tasks.modify task _)[index]? = _
  rw [List.getElem?_modify]
  simp [Ne.symm other]

theorem getElem?_goto {point : RelayPoint} {forwarder : Forwarder}
    (found : forwarder.tasks[task]? = some self) :
    (forwarder.goto task point).tasks[task]? = some { self with point } := by
  change (forwarder.tasks.modify task _)[task]? = _
  rw [List.getElem?_modify, found]
  simp

theorem Running.advance {holds after : RelayPoint → Prop}
    (found : s.forwarder.tasks[task]? = some self)
    (running : s.Running task holds)
    (advances : Forwarder.Advances s.forwarder forwarder task after)
    (chunks : List (ℕ × Bytes)) :
    ({ s with forwarder, chunks } : Downstream).Running task after := by
  obtain ⟨same, here, own, opener, -⟩ := running
  rw [found] at here
  cases here
  obtain ⟨point, tasks, advanced⟩ := advances
  refine ⟨{ self with point }, ?_, own, opener, advanced⟩
  change forwarder.tasks[task]? = _
  rw [tasks, getElem?_goto found]

theorem Synced.known_lt (synced : s.Synced) :
    ∀ entry ∈ s.chunks, entry.1 < s.forwarder.socks.length := by
  intro entry member
  obtain ⟨host, opener, sock, there, -⟩ := synced.known entry member
  exact (List.getElem?_eq_some_iff.mp there).1

theorem Stage.step (synced : s.Synced)
    (found : s.forwarder.tasks[task]? = some self)
    (about : event.task = some task) (own : self.target = s.target)
    (busy : self.point.finished = false)
    (calm : ∀ index count message, event ≠ .sendFailed index count message)
    (stepped : s.forwarder.taskStep task self self.point event = some forwarder) :
    ({ s with forwarder, chunks := s.chunks ++ s.forwarder.chunksOf event } :
      Downstream).Stage := by
  have stage := synced.stage
  unfold Stage at stage ⊢
  rcases synced.alone task self found own busy with here | here
  · simp only [here] at stage ⊢
    obtain ⟨nothing, running⟩ := stage
    refine ⟨nothing, running.advance found ?_
      (s.chunks ++ s.forwarder.chunksOf event)⟩
    obtain ⟨same, there, -, opener, dialing⟩ := running
    rw [found] at there
    cases there
    exact Forwarder.dialing_step own opener synced.known_lt about dialing stepped
  · simp only [here] at stage ⊢
    refine stage.advance found ?_ (s.chunks ++ s.forwarder.chunksOf event)
    obtain ⟨same, there, -, opener, relaying⟩ := stage
    rw [found] at there
    cases there
    exact Forwarder.relaying_step own found about calm relaying stepped

theorem Synced.ofTask (synced : s.Synced) (about : event.task = some task)
    (guarded : s.Unbroken (.forwarder event))
    (stepped : forwarderStep s.forwarder event = some forwarder) :
    ({ s with forwarder, chunks := s.chunks ++ s.forwarder.chunksOf event } :
      Downstream).Synced := by
  obtain ⟨self, found, taken⟩ := forwarderStep_of_task about stepped
  have move := taskStep_move about taken
  have busy := (Forwarder.TaskMove.tasks move).1
  have elsewhere : ∀ index, index ≠ task →
      forwarder.tasks[index]? = s.forwarder.tasks[index]? :=
    fun index other => tasks_move_of_ne move other
  have known : ∀ entry ∈ s.forwarder.chunksOf event, ∃ host opener,
      s.forwarder.Opened entry.1 host opener := fun entry member =>
    ⟨self.target, Forwarder.chunksOf_opened synced.targeted found about entry member⟩
  have alone : ∀ index other, forwarder.tasks[index]? = some other →
      other.target = s.target → other.point.finished = false →
        s.point = .connecting index ∨ s.point = .relaying index := by
    intro index other there own running
    by_cases moved : index = task
    · obtain ⟨-, point, tasks⟩ := Forwarder.TaskMove.tasks move
      rw [tasks, moved, getElem?_goto found] at there
      cases there
      rw [moved]
      exact synced.alone task self found own busy
    · rw [elsewhere index moved] at there
      exact synced.alone index other there own running
  refine synced.keep (Forwarder.Targeted.move synced.targeted found move)
    (fun opened => Forwarder.opened_move move opened) known alone ?_
  by_cases own : self.target = s.target
  · have calm : ∀ index count message,
        event ≠ .sendFailed index count message := by
      rintro index count message rfl
      cases about
      exact guarded self found own
    exact Stage.step synced found about own busy calm taken
  · apply Stage.undisturbed synced.stage
    · exact Forwarder.undisturbed_of_ne synced.targeted found about own move _ _
    · intro index other there also
      rw [elsewhere index]
      · exact there
      · rintro rfl
        rw [found] at there
        cases there
        exact own also

/-! The thread's own steps. -/

theorem received_of_log {actions : List LoopAction}
    (same : next.log = s.log ++ actions) :
    next.received = s.received ++ actions.flatMap LoopAction.bytes := by
  rw [received, same]
  exact List.flatMap_append

theorem quiet_append {log actions : List LoopAction}
    (quiet : QuietAfterClose log)
    (silent : ∀ action ∈ actions, action.sends = false) :
    QuietAfterClose (log ++ actions) := by
  refine List.pairwise_append.mpr ⟨quiet, ?_, ?_⟩
  · apply List.pairwise_of_forall_mem_list
    intro earlier _ later member _
    exact silent later member
  · intro earlier _ later member _
    exact silent later member

theorem quiet_send {log actions : List LoopAction}
    (quiet : QuietAfterClose log)
    (open_ : ∀ action ∈ log, action.closes = false)
    (plain : ∀ action ∈ actions, action.closes = false) :
    QuietAfterClose (log ++ actions) := by
  refine List.pairwise_append.mpr ⟨quiet, ?_, ?_⟩
  · apply List.pairwise_of_forall_mem_list
    intro earlier member later _ closes
    cases (plain earlier member).symm.trans closes
  · intro earlier member later _ closes
    cases (open_ earlier member).symm.trans closes

theorem Synced.finished (synced : s.Synced)
    (idle : ∀ index, s.point ≠ .connecting index ∧ s.point ≠ .relaying index) :
    ∀ task ∈ s.forwarder.tasks, task.target = s.target →
      task.point.finished = true := by
  intro task member own
  obtain ⟨index, found⟩ := List.mem_iff_getElem?.mp member
  by_contra busy
  rcases synced.alone index task found own (eq_false_of_ne_true busy) with at_ | at_
  · exact (idle index).1 at_
  · exact (idle index).2 at_

theorem send_eq_some {request : CanonicalRequest} {place : ℕ → ConnectPoint}
    {actions : List LoopAction} {data : Bytes} {point : RelayPoint}
    (started : Forwarder.startPoint request.dispatch =
      some (s.target, data, point))
    (stepped : s.send request place actions = some next) :
    next = { s with
      forwarder := { s.forwarder with
        tasks := s.forwarder.tasks ++
          [{ browser := s.browser, target := s.target, data, point }] }
      point := place s.forwarder.tasks.length
      log := s.log ++ actions } := by
  obtain ⟨forwarder, requested, rfl⟩ := Option.map_eq_some_iff.mp stepped
  obtain ⟨host, data', point', started', rfl⟩ :=
    Forwarder.ForwarderMove.of_request (forwarderStep_move requested)
  rw [started] at started'
  cases started'
  rfl

theorem Synced.send (synced : s.Synced) {request : CanonicalRequest}
    {place : ℕ → ConnectPoint} {actions : List LoopAction} {data : Bytes}
    {point : RelayPoint}
    (idle : ∀ index, s.point ≠ .connecting index ∧ s.point ≠ .relaying index)
    (started : Forwarder.startPoint request.dispatch =
      some (s.target, data, point))
    (calls : ∀ index, place index = .connecting index ∨
      place index = .relaying index)
    (plain : ∀ action ∈ actions, action.closes = false)
    (open_ : ¬ s.Reported)
    (received : next.received = s.received)
    (stage : next.Stage)
    (stepped : s.send request place actions = some next) : next.Synced := by
  have unreported : ∀ action ∈ s.log, action.closes = false := by
    intro action member
    by_contra closes
    exact open_ ⟨action, member, eq_true_of_ne_false closes⟩
  have move : ∃ forwarder, forwarderStep s.forwarder (.request s.browser request) =
      some forwarder ∧ next.forwarder = forwarder := by
    obtain ⟨forwarder, requested, rfl⟩ := Option.map_eq_some_iff.mp stepped
    exact ⟨forwarder, requested, rfl⟩
  obtain ⟨forwarder, requested, same⟩ := move
  have targeted := synced.targeted.step (forwarderStep_move requested)
  rw [← same] at targeted
  have after := send_eq_some started stepped
  subst after
  exact
    { targeted
      known := synced.known
      alone := by
        intro index task found own busy
        rcases List.getElem?_eq_some_iff.mp found with ⟨bound, -⟩
        by_cases old : index < s.forwarder.tasks.length
        · have there := (List.getElem?_append_left old).symm.trans found
          have ended := synced.finished idle task (List.mem_of_getElem? there) own
          cases busy.symm.trans ended
        · have last : index = s.forwarder.tasks.length := by
            rw [List.length_append, List.length_singleton] at bound
            omega
          rw [last]
          exact calls _
      faithful := by
        rcases synced.faithful with nothing | ⟨sock, opened, covered⟩
        · exact .inl (received.trans nothing)
        · refine .inr ⟨sock, opened, ?_⟩
          rw [received]
          exact covered
      quiet := quiet_send synced.quiet unreported plain
      isOver := by
        rintro ⟨action, member, closes⟩
        rcases List.mem_append.mp member with old | new
        · cases (unreported action old).symm.trans closes
        · cases (plain action new).symm.trans closes
      stage }

theorem Synced.proceed (synced : s.Synced) {point : ConnectPoint}
    {log : List LoopAction}
    (idle : ∀ task ∈ s.forwarder.tasks, task.target = s.target →
      task.point.finished = true)
    (faithful : ({ s with point, log } : Downstream).Faithful)
    (quiet : QuietAfterClose log)
    (isOver : ({ s with point, log } : Downstream).Reported →
      ({ s with point, log } : Downstream).Over)
    (stage : ({ s with point, log } : Downstream).Stage) :
    ({ s with point, log } : Downstream).Synced where
  targeted := synced.targeted
  known := synced.known
  alone := by
    intro index task found own busy
    cases busy.symm.trans (idle task (List.mem_of_getElem? found) own)
  faithful := faithful
  quiet := quiet
  isOver := isOver
  stage := stage

theorem Synced.leave (synced : s.Synced)
    (idle : ∀ index, s.point ≠ .connecting index ∧ s.point ≠ .relaying index) :
    ({ s with point := .left } : Downstream).Synced :=
  synced.proceed (synced.finished idle) synced.faithful synced.quiet
    (fun _ => trivial) trivial

theorem response_eq_some {response : CanonicalResponse} :
    s.response task = some response ↔
      ∃ self, s.forwarder.tasks[task]? = some self ∧
        self.point = .done response := by
  unfold Downstream.response
  cases s.forwarder.tasks[task]? with
  | none => simp
  | some self =>
      cases here : self.point <;> simp [here]

theorem Synced.ended (synced : s.Synced) {response : CanonicalResponse}
    (waits : s.point = .connecting task ∨ s.point = .relaying task)
    (answered : s.response task = some response) :
    ∀ task ∈ s.forwarder.tasks, task.target = s.target →
      task.point.finished = true := by
  obtain ⟨self, found, done⟩ := response_eq_some.mp answered
  intro other member own
  obtain ⟨index, there⟩ := List.mem_iff_getElem?.mp member
  by_contra busy
  have same : index = task := by
    rcases synced.alone index other there own (eq_false_of_ne_true busy) with
      at_ | at_
    · rcases waits with here | here
      · exact (ConnectPoint.connecting.inj (here.symm.trans at_)).symm
      · cases here.symm.trans at_
    · rcases waits with here | here
      · cases here.symm.trans at_
      · exact (ConnectPoint.relaying.inj (here.symm.trans at_)).symm
  rw [same, found] at there
  cases there
  rw [done] at busy
  exact busy rfl

theorem Synced.connectAnswered (synced : s.Synced) {response : CanonicalResponse}
    (here : s.point = .connecting task)
    (answered : s.response task = some response) :
    (s.connectAnswered response).Synced := by
  have stage := synced.stage
  simp only [Stage, here] at stage
  obtain ⟨nothing, self, found, own, opener, dialing⟩ := stage
  obtain ⟨same, there, done⟩ := response_eq_some.mp answered
  rw [found] at there
  cases there
  rw [done] at dialing
  refine synced.proceed (synced.ended (.inl here) answered) synced.faithful
    synced.quiet ?_ ?_
  · intro reported
    have isOver := synced.isOver reported
    simp only [Over, here] at isOver
  · by_cases accepted : response.statusCode = 200
    · rw [if_pos accepted]
      intro _
      obtain ⟨sock, holds⟩ := dialing accepted
      rw [← nothing] at holds
      exact ⟨sock, holds⟩
    · rw [if_neg accepted]
      trivial

/-- The loop after a reply, all of which the browser has. -/
theorem stage_afterWrite {response : CanonicalResponse} {log : List LoopAction}
    {sock : ℕ}
    (replies : s.forwarder.Replies s.chunks s.target s.browser s.received response
      sock)
    (received : ({ s with point := afterWrite response, log } :
      Downstream).received = s.received ++ response.body) :
    ({ s with point := afterWrite response, log } : Downstream).Stage := by
  by_cases closed : response.closed = some true
  · simp only [Stage, afterWrite, closed, if_true]
  · simp only [Stage, afterWrite, closed, if_false] at received ⊢
    intro _
    rw [received]
    exact ⟨sock, replies.opened, replies.listed closed, replies.produced⟩

theorem over_afterWrite {response : CanonicalResponse} {log : List LoopAction}
    (closed : response.closed = some true) :
    ({ s with point := afterWrite response, log } : Downstream).Over := by
  unfold Over
  simp only [afterWrite, closed, if_true]

theorem closed_of_reported {action : LoopAction} {rest : List LoopAction}
    (open_ : ¬ s.Reported)
    (plain : ∀ other ∈ rest, other.closes = false)
    {point : ConnectPoint}
    (reported : ({ s with point, log := s.log ++ action :: rest } :
      Downstream).Reported) : action.closes = true := by
  obtain ⟨found, member, closes⟩ := reported
  rcases List.mem_append.mp member with old | new
  · exact absurd ⟨found, old, closes⟩ open_
  · rcases List.mem_cons.mp new with rfl | later
    · exact closes
    · cases (plain found later).symm.trans closes

theorem Synced.relayAnswered (synced : s.Synced) {response : CanonicalResponse}
    (here : s.point = .relaying task)
    (answered : s.response task = some response) :
    (s.relayAnswered response).Synced := by
  have stage := synced.stage
  simp only [Stage, here] at stage
  obtain ⟨self, found, own, opener, relaying⟩ := stage
  obtain ⟨same, there, done⟩ := response_eq_some.mp answered
  rw [found] at there
  cases there
  rw [done] at relaying
  obtain ⟨sock, replies⟩ := relaying
  have open_ : ¬ s.Reported := by
    intro reported
    have isOver := synced.isOver reported
    simp only [Over, here] at isOver
  have received : ∀ point, ({ s with
      point, log := s.log ++ [.answered response] } : Downstream).received =
        s.received := by
    intro point
    exact (received_of_log rfl).trans (List.append_nil _)
  have quiet : QuietAfterClose (s.log ++ [.answered response]) :=
    quiet_append synced.quiet (by simp [LoopAction.sends])
  refine synced.proceed (synced.ended (.inr here) answered) ?_ quiet ?_ ?_
  · unfold Faithful
    rw [received]
    exact synced.faithful
  · intro reported
    have closes := closed_of_reported open_ (by simp) reported
    have closed : response.closed = some true := of_decide_eq_true closes
    by_cases empty : response.body = []
    · rw [if_pos empty]
      exact over_afterWrite closed
    · rw [if_neg empty]
      exact closed
  · by_cases empty : response.body = []
    · rw [if_pos empty]
      apply stage_afterWrite replies
      rw [received, empty, List.append_nil]
    · rw [if_neg empty]
      refine ⟨sock, replies.opened, replies.listed, ?_⟩
      rw [received]
      exact replies.produced

/-- The browser takes the first bytes of a reply. -/
theorem Synced.wrote (synced : s.Synced) {response : CanonicalResponse}
    (here : s.point = .writing response) {taken : Bytes}
    (part : taken <+: response.body) {rest : List LoopAction}
    (plain : ∀ action ∈ rest, action = .blocked) {point : ConnectPoint}
    (isOver : response.closed = some true → ({ s with
      point, log := s.log ++ .wrote taken :: rest } : Downstream).Over)
    (stage : ∀ sock, s.forwarder.Replies s.chunks s.target s.browser s.received
      response sock → ({ s with
        point, log := s.log ++ .wrote taken :: rest } : Downstream).Stage) :
    ({ s with point, log := s.log ++ .wrote taken :: rest } :
      Downstream).Synced := by
  have stage' := synced.stage
  simp only [Stage, here] at stage'
  obtain ⟨sock, replies⟩ := stage'
  refine synced.proceed (synced.finished ?_) ?_ ?_ ?_ (stage sock replies)
  · intro index
    rw [here]
    exact ⟨nofun, nofun⟩
  · refine .inr ⟨sock, replies.opened, ?_⟩
    rw [received_of_log rfl, replies.produced, List.flatMap_cons]
    have nothing : rest.flatMap LoopAction.bytes = [] := by
      apply List.flatMap_eq_nil_iff.mpr
      intro action member
      rw [plain action member]
      rfl
    rw [nothing, List.append_nil]
    exact (List.prefix_append_right_inj _).mpr part
  · apply quiet_append synced.quiet
    intro action member
    rcases List.mem_cons.mp member with rfl | later
    · rfl
    · rw [plain action later]
      rfl
  · intro reported
    by_cases before : s.Reported
    · have closed := synced.isOver before
      simp only [Over, here] at closed
      exact isOver closed
    · have silent : ∀ action ∈ rest, action.closes = false := by
        intro action member
        rw [plain action member]
        rfl
      cases closed_of_reported before silent reported

theorem Synced.read (synced : s.Synced) {data : Bytes}
    (here : s.point = .polling) (guarded : .blocked ∉ s.log)
    (stepped : s.send (Proxied.relayRequest s.target data) .relaying
      [.sent (Proxied.relayRequest s.target data)] = some next) : next.Synced := by
  have stage := synced.stage
  simp only [Stage, here] at stage
  obtain ⟨sock, holds⟩ := stage guarded
  have started : Forwarder.startPoint
      (Proxied.relayRequest s.target data).dispatch =
        some (s.target, data, .lookingUp) := by
    rw [relayRequest_dispatch]
    rfl
  have after := send_eq_some started stepped
  have open_ : ¬ s.Reported := by
    intro reported
    have isOver := synced.isOver reported
    simp only [Over, here] at isOver
    exact guarded isOver
  have received : next.received = s.received := by
    refine (received_of_log (congrArg log after)).trans ?_
    exact List.append_nil _
  refine synced.send ?_ started (fun _ => .inr rfl) (by simp [LoopAction.closes])
    open_ received ?_ stepped
  · intro index
    rw [here]
    exact ⟨nofun, nofun⟩
  · subst after
    refine ⟨_, List.getElem?_concat_length, rfl, rfl, sock, ?_⟩
    rw [received]
    exact holds.undisturbed ⟨rfl, fun opened => opened, fun _ => rfl⟩

theorem Synced.greeted (synced : s.Synced) (here : s.point = .starting)
    (stepped : s.send (Proxied.connectRequest s.target) .connecting
      [.greeted, .sent (Proxied.connectRequest s.target)] = some next) :
    next.Synced := by
  have nothing := synced.stage
  simp only [Stage, here] at nothing
  have started : Forwarder.startPoint (Proxied.connectRequest s.target).dispatch =
      some (s.target, [], .connecting) := by
    rw [connectRequest_dispatch]
    rfl
  have after := send_eq_some started stepped
  have open_ : ¬ s.Reported := by
    intro reported
    have isOver := synced.isOver reported
    simp only [Over, here] at isOver
  have received : next.received = s.received := by
    refine (received_of_log (congrArg log after)).trans ?_
    exact List.append_nil _
  refine synced.send ?_ started (fun _ => .inl rfl) (by simp [LoopAction.closes])
    open_ received ?_ stepped
  · intro index
    rw [here]
    exact ⟨nofun, nofun⟩
  · have silent := received.trans nothing
    subst after
    exact ⟨silent, _, List.getElem?_concat_length, rfl, rfl, trivial⟩

theorem Synced.step {happening : DownstreamEvent} (synced : s.Synced)
    (guarded : s.OwnTarget happening ∧ s.Unbroken happening)
    (stepped : downstreamStep s happening = some next) : next.Synced := by
  obtain ⟨own, unbroken⟩ := guarded
  unfold downstreamStep at stepped
  split at stepped
  case h_1 event =>
    obtain ⟨forwarder, taken, rfl⟩ := Option.map_eq_some_iff.mp stepped
    cases about : event.task with
    | none =>
        cases event with
        | request browser request => exact synced.ofRequest own taken
        | _ => cases about
    | some task => exact synced.ofTask about unbroken taken
  case h_2 here => exact synced.greeted here stepped
  case h_3 here =>
    cases stepped
    exact synced.leave (by simp [here])
  case h_4 task here =>
    obtain ⟨response, answered, rfl⟩ := Option.map_eq_some_iff.mp stepped
    exact synced.connectAnswered here answered
  case h_5 data here =>
    split at stepped
    · cases stepped
    · exact synced.read here unbroken stepped
  case h_6 here =>
    cases stepped
    exact synced.leave (by simp [here])
  case h_7 =>
    cases stepped
    exact synced
  case h_8 here =>
    cases stepped
    exact synced.leave (by simp [here])
  case h_9 task here =>
    obtain ⟨response, answered, rfl⟩ := Option.map_eq_some_iff.mp stepped
    exact synced.relayAnswered here answered
  case h_10 response here =>
    cases stepped
    refine synced.wrote here (List.prefix_refl _) (by simp) over_afterWrite ?_
    intro sock replies
    apply stage_afterWrite replies
    exact (received_of_log rfl).trans (by simp [LoopAction.bytes])
  case h_11 response count here =>
    split at stepped
    · cases stepped
      refine synced.wrote here (List.take_prefix _ _) (by simp) ?_ ?_
      · intro _
        exact List.mem_append_right _ (by simp)
      · intro sock _ passed
        exact absurd (List.mem_append_right _ (by simp)) passed
    · cases stepped
  case h_12 response count here =>
    cases stepped
    exact synced.wrote here (List.take_prefix _ _) (by simp) (fun _ => trivial)
      fun _ _ => trivial
  case h_13 => cases stepped

end

end Downstream

/-- While no `sendall` on either side is cut short, the browser gets what the
target produced, and a closed target ends the requests. -/
theorem downstream_faithful (target : String) (browser : Browser)
    (events : List DownstreamEvent) (s : Downstream)
    (own : Along downstreamStep Downstream.OwnTarget
      (.start target browser) events)
    (unbroken : Along downstreamStep Downstream.Unbroken
      (.start target browser) events)
    (reached : run downstreamStep (.start target browser) events = some s) :
    s.Faithful ∧ QuietAfterClose s.log := by
  have synced : s.Synced :=
    run_invariant_along
      (fun _ _ _ holds guarded stepped => Downstream.Synced.step holds guarded stepped)
      (own.and unbroken) reached (Downstream.synced_start target browser)
  exact ⟨synced.faithful, synced.quiet⟩

/-- A CONNECT, and one chunk of the browser answered by two of the target. -/
def sampleDownstream : List DownstreamEvent :=
  [.greeted, .forwarder (.connected 0), .forwarder (.install 0), .answered,
    .read [1], .forwarder (.lookup 1), .forwarder (.sent 1),
    .forwarder (.chunk 1 [10, 20]), .answered]

theorem downstream_faithful_sample :
    ∃ s, run downstreamStep (.start "a:443" 1) (sampleDownstream ++ [.wrote]) =
        some s ∧
      s.received = [10, 20] ∧ s.Faithful ∧ QuietAfterClose s.log := by
  have ran : (run downstreamStep (.start "a:443" 1)
      (sampleDownstream ++ [.wrote])).map Downstream.received =
        some [10, 20] := by
    decide +kernel
  obtain ⟨s, reached, received⟩ := Option.map_eq_some_iff.mp ran
  exact ⟨s, reached, received, downstream_faithful "a:443" 1 _ s
    (by decide +kernel) (by decide +kernel) reached⟩

/-- The browser takes one byte of the first reply and all of the second. -/
def sampleGap : List DownstreamEvent :=
  sampleDownstream ++
    [.writeBlocked 1, .read [2], .forwarder (.lookup 2), .forwarder (.sent 2),
      .forwarder (.chunk 2 [30]), .answered, .wrote]

theorem downstream_gap :
    ¬ ∀ (target : String) (browser : Browser) (events : List DownstreamEvent)
        (s : Downstream),
      Along downstreamStep Downstream.OwnTarget (.start target browser) events →
      run downstreamStep (.start target browser) events = some s →
        s.Faithful ∧ QuietAfterClose s.log := by
  intro claimed
  have ran : (run downstreamStep (.start "a:443" 1) sampleGap).map
      (fun s => (s.received, s.chunks)) =
        some ([10, 30], [(0, [10, 20]), (0, [30])]) := by
    decide +kernel
  obtain ⟨s, reached, same⟩ := Option.map_eq_some_iff.mp ran
  obtain ⟨received, chunks⟩ := Prod.mk.inj same
  rcases (claimed "a:443" 1 sampleGap s (by decide +kernel) reached).1 with
    nothing | ⟨sock, -, covered⟩
  · rw [received] at nothing
    cases nothing
  · rw [received, chunks] at covered
    by_cases first : (0 : ℕ) = sock
    · subst first
      revert covered
      decide
    · simp [bytesOf, first] at covered

end VpnTunnel.Tunnel
