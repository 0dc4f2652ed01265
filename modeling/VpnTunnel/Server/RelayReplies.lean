import VpnTunnel.Server.RelayLine

namespace VpnTunnel.Server

open VpnTunnel.Crypto
open VpnTunnel.Foundation

/-! What the target sockets produce, and what the replies to one browser's relays
carry of it. -/

def bytesOf (sock : ℕ) (chunks : List (ℕ × Bytes)) : Bytes :=
  chunks.flatMap fun entry => if entry.1 = sock then entry.2 else []

theorem bytesOf_append (sock : ℕ) (chunks more : List (ℕ × Bytes)) :
    bytesOf sock (chunks ++ more) = bytesOf sock chunks ++ bytesOf sock more :=
  List.flatMap_append

theorem bytesOf_eq_nil {sock : ℕ} {chunks : List (ℕ × Bytes)}
    (other : ∀ entry ∈ chunks, entry.1 ≠ sock) : bytesOf sock chunks = [] := by
  apply List.flatMap_eq_nil_iff.mpr
  intro entry member
  exact if_neg (other entry member)

namespace Forwarder

/-- What `recv` gives in this step, with the socket it is called on. -/
def chunksOf (s : Forwarder) : ForwarderEvent → List (ℕ × Bytes)
  | .chunk task bytes =>
      match s.tasks[task]?.map RelayTask.point with
      | some (.reading sock _) => [(sock, bytes)]
      | _ => []
  | _ => []

section

variable (s : Forwarder) (chunks : List (ℕ × Bytes)) (target : String)
  (browser : Browser)

/-- The browser's session is in the table; its socket has produced these bytes. -/
structure Holds (sock : ℕ) (produced : Bytes) : Prop where
  opened : s.Opened sock target browser
  listed : s.connectSessions.lookup target = some sock
  produced : bytesOf sock chunks = produced

/-- The response carries what was produced after the delivered bytes. -/
structure Replies (delivered : Bytes) (response : CanonicalResponse)
    (sock : ℕ) : Prop where
  opened : s.Opened sock target browser
  listed : response.closed ≠ some true →
    s.connectSessions.lookup target = some sock
  produced : bytesOf sock chunks = delivered ++ response.body

/-- What the CONNECT of the session says at its point. -/
def Dialing : RelayPoint → Prop
  | .connecting => True
  | .installing sock => s.Opened sock target browser ∧ bytesOf sock chunks = []
  | .done response =>
      response.statusCode = 200 → ∃ sock, s.Holds chunks target browser sock []
  | _ => False

/-- What a RELAY of the session says at its point. -/
def Relaying (delivered : Bytes) : RelayPoint → Prop
  | .lookingUp => ∃ sock, s.Holds chunks target browser sock delivered
  | .sending sock => s.Holds chunks target browser sock delivered
  | .reading sock responseData | .ending sock responseData =>
      s.Holds chunks target browser sock (delivered ++ responseData)
  | .done response =>
      ∃ sock, s.Replies chunks target browser delivered response sock
  | _ => False

end

section

variable {s next : Forwarder} {chunks more : List (ℕ × Bytes)} {target : String}
  {browser : Browser} {delivered : Bytes} {task : ℕ}
  {self : RelayTask} {event : ForwarderEvent}

/-- What the session rests on is as it was. -/
structure Undisturbed (s next : Forwarder) (chunks more : List (ℕ × Bytes))
    (target : String) (browser : Browser) : Prop where
  listed : next.connectSessions.lookup target = s.connectSessions.lookup target
  opened : ∀ {sock}, s.Opened sock target browser →
    next.Opened sock target browser
  produced : ∀ {sock}, s.Opened sock target browser →
    bytesOf sock more = bytesOf sock chunks

theorem Holds.undisturbed {sock : ℕ} {produced : Bytes}
    (holds : s.Holds chunks target browser sock produced)
    (same : Undisturbed s next chunks more target browser) :
    next.Holds more target browser sock produced where
  opened := same.opened holds.opened
  listed := same.listed.trans holds.listed
  produced := (same.produced holds.opened).trans holds.produced

theorem Replies.undisturbed {response : CanonicalResponse} {sock : ℕ}
    (replies : s.Replies chunks target browser delivered response sock)
    (same : Undisturbed s next chunks more target browser) :
    next.Replies more target browser delivered response sock where
  opened := same.opened replies.opened
  listed still := same.listed.trans (replies.listed still)
  produced := (same.produced replies.opened).trans replies.produced

theorem Dialing.undisturbed {point : RelayPoint}
    (dialing : s.Dialing chunks target browser point)
    (same : Undisturbed s next chunks more target browser) :
    next.Dialing more target browser point := by
  cases point with
  | connecting => exact dialing
  | installing sock =>
      obtain ⟨opened, produced⟩ := dialing
      exact ⟨same.opened opened, (same.produced opened).trans produced⟩
  | done response =>
      intro accepted
      obtain ⟨sock, holds⟩ := dialing accepted
      exact ⟨sock, holds.undisturbed same⟩
  | _ => exact dialing

theorem Relaying.undisturbed {point : RelayPoint}
    (relaying : s.Relaying chunks target browser delivered point)
    (same : Undisturbed s next chunks more target browser) :
    next.Relaying more target browser delivered point := by
  cases point with
  | lookingUp =>
      obtain ⟨sock, holds⟩ := relaying
      exact ⟨sock, holds.undisturbed same⟩
  | sending sock => exact Holds.undisturbed relaying same
  | reading sock responseData => exact Holds.undisturbed relaying same
  | ending sock responseData => exact Holds.undisturbed relaying same
  | done response =>
      obtain ⟨sock, replies⟩ := relaying
      exact ⟨sock, replies.undisturbed same⟩
  | _ => exact relaying

theorem opened_move {sock : ℕ} {host : String} {opener : Browser}
    (move : TaskMove s task self event next) (opened : s.Opened sock host opener) :
    next.Opened sock host opener := by
  cases move with
  | connected here => exact opened.concat _
  | connectFailed here => exact opened
  | install here => exact opened
  | missing here absent => exact opened
  | found here present => exact opened
  | sent here => exact opened_wrote.mpr opened
  | sendFailed here => exact opened_wrote.mpr opened
  | more here => exact opened
  | answer here => exact opened_replied.mpr opened
  | eof here => exact opened
  | finish here => exact opened_replied.mpr opened
  | drop here => exact opened
  | close here => exact opened

theorem Opened.target_unique {sock : ℕ} {host other : String}
    {opener another : Browser} (opened : s.Opened sock host opener)
    (also : s.Opened sock other another) : host = other := by
  obtain ⟨first, here, rfl, -⟩ := opened
  obtain ⟨second, there, rfl, -⟩ := also
  rw [here] at there
  cases there
  rfl

theorem chunksOf_opened (targeted : s.Targeted)
    (found : s.tasks[task]? = some self) (about : event.task = some task) :
    ∀ entry ∈ s.chunksOf event, ∃ opener, s.Opened entry.1 self.target opener := by
  intro entry member
  cases event with
  | chunk index bytes =>
      cases about
      simp only [chunksOf, found, Option.map_some] at member
      split at member
      case h_1 sock responseData here =>
        cases List.mem_singleton.mp member
        apply targeted.tasks self (List.mem_of_getElem? found)
        rw [Option.some.inj here]
        rfl
      case h_2 => cases member
  | _ => cases member

theorem undisturbed_of_ne (targeted : s.Targeted)
    (found : s.tasks[task]? = some self) (about : event.task = some task)
    (other : self.target ≠ target) (move : TaskMove s task self event next)
    (chunks : List (ℕ × Bytes)) (browser : Browser) :
    Undisturbed s next chunks (chunks ++ s.chunksOf event) target browser where
  listed := congrArg Line.entry (line_move_of_ne targeted found other move)
  opened := opened_move move
  produced := by
    intro sock opened
    have nothing : bytesOf sock (s.chunksOf event) = [] := by
      apply bytesOf_eq_nil
      rintro entry member rfl
      obtain ⟨opener, also⟩ := chunksOf_opened targeted found about entry member
      exact other (also.target_unique opened)
    rw [bytesOf_append, nothing, List.append_nil]

theorem chunksOf_reading {sock : ℕ} {responseData bytes : Bytes}
    (found : s.tasks[task]? = some self)
    (here : self.point = .reading sock responseData) :
    s.chunksOf (.chunk task bytes) = [(sock, bytes)] := by
  simp [chunksOf, found, here]

theorem Holds.chunk {sock : ℕ} {produced : Bytes}
    (holds : s.Holds chunks target browser sock produced) (bytes : Bytes) :
    s.Holds (chunks ++ [(sock, bytes)]) target browser sock (produced ++ bytes) where
  opened := holds.opened
  listed := holds.listed
  produced := by
    rw [bytesOf_append, holds.produced]
    simp [bytesOf]

theorem Holds.goto {sock : ℕ} {produced : Bytes}
    (holds : s.Holds chunks target browser sock produced) (task : ℕ)
    (point : RelayPoint) :
    (s.goto task point).Holds chunks target browser sock produced :=
  ⟨holds.opened, holds.listed, holds.produced⟩

/-- The reply of a relay that has not seen the end of the target. -/
theorem Holds.replies {sock : ℕ} {responseData : Bytes} {writer : Browser}
    (holds : s.Holds chunks target browser sock (delivered ++ responseData))
    (task : ℕ) (point : RelayPoint) :
    ((s.replied sock writer responseData).goto task point).Replies chunks target
      browser delivered (relayResponse responseData false) sock where
  opened := opened_replied.mpr holds.opened
  listed _ := holds.listed
  produced := holds.produced

/-! The session's own task, from one point to the next. -/

/-- The step took the task to a point at which this holds. -/
def Advances (s next : Forwarder) (task : ℕ) (holds : RelayPoint → Prop) : Prop :=
  ∃ point, next.tasks = (s.goto task point).tasks ∧ holds point

theorem dialing_step (own : self.target = target) (opener : self.browser = browser)
    (known : ∀ entry ∈ chunks, entry.1 < s.socks.length)
    (about : event.task = some task)
    (dialing : s.Dialing chunks target browser self.point)
    (stepped : s.taskStep task self self.point event = some next) :
    Advances s next task
      (next.Dialing (chunks ++ s.chunksOf event) target browser) := by
  generalize self.point = here at dialing stepped
  cases here with
  | connecting =>
      cases event with
      | connected index =>
          cases about
          cases stepped
          refine ⟨.installing s.socks.length, rfl, ?_, ?_⟩
          · exact ⟨_, List.getElem?_concat_length, own, opener⟩
          · rw [show s.chunksOf (.connected task) = [] from rfl, List.append_nil]
            exact bytesOf_eq_nil fun entry member =>
              Nat.ne_of_lt (known entry member)
      | connectFailed index message =>
          cases about
          cases stepped
          exact ⟨_, rfl, nofun⟩
      | _ => cases stepped
  | installing sock =>
      obtain ⟨opened, produced⟩ := dialing
      cases event with
      | install index =>
          cases about
          cases stepped
          refine ⟨_, rfl, fun _ => ⟨sock, opened, ?_, ?_⟩⟩
          · subst own
            exact AList.lookup_insert _
          · rw [show s.chunksOf (.install task) = [] from rfl, List.append_nil]
            exact produced
      | _ => cases stepped
  | done response => cases event <;> cases stepped
  | _ => cases dialing

theorem advances_lookingUp (own : self.target = target)
    (about : event.task = some task)
    (relaying : ∃ sock, s.Holds chunks target browser sock delivered)
    (stepped : s.taskStep task self .lookingUp event = some next) :
    Advances s next task
      (next.Relaying (chunks ++ s.chunksOf event) target browser delivered) := by
  obtain ⟨sock, holds⟩ := relaying
  cases event with
  | lookup index =>
      cases about
      rw [show s.chunksOf (.lookup task) = [] from rfl, List.append_nil]
      have listed : s.connectSessions.lookup self.target = some sock := by
        rw [own]
        exact holds.listed
      simp only [taskStep, Forwarder.lookup, listed, Option.some.injEq] at stepped
      subst stepped
      refine ⟨_, rfl, ?_⟩
      split
      case isTrue empty =>
        have level := holds.goto task (.reading sock [])
        rw [← List.append_nil delivered] at level
        exact level
      case isFalse => exact holds.goto task _
  | _ => cases stepped

theorem advances_sending {sock : ℕ}
    (calm : ∀ index count message, event ≠ .sendFailed index count message)
    (about : event.task = some task)
    (holds : s.Holds chunks target browser sock delivered)
    (stepped : s.taskStep task self (.sending sock) event = some next) :
    Advances s next task
      (next.Relaying (chunks ++ s.chunksOf event) target browser delivered) := by
  cases event with
  | sent index =>
      cases about
      cases stepped
      refine ⟨_, rfl, ?_⟩
      rw [show s.chunksOf (.sent task) = [] from rfl, List.append_nil]
      exact
        { opened := opened_wrote.mpr holds.opened
          listed := holds.listed
          produced := holds.produced.trans (List.append_nil _).symm }
  | sendFailed index count message => exact absurd rfl (calm index count message)
  | _ => cases stepped

theorem advances_reading {sock : ℕ} {responseData : Bytes}
    (found : s.tasks[task]? = some self)
    (here : self.point = .reading sock responseData)
    (about : event.task = some task)
    (holds : s.Holds chunks target browser sock (delivered ++ responseData))
    (stepped : s.taskStep task self (.reading sock responseData) event =
      some next) :
    Advances s next task
      (next.Relaying (chunks ++ s.chunksOf event) target browser delivered) := by
  cases event with
  | chunk index bytes =>
      cases about
      have longer := holds.chunk bytes
      rw [List.append_assoc] at longer
      rw [chunksOf_reading found here]
      simp only [taskStep] at stepped
      split at stepped
      · cases stepped
      · split at stepped
        · cases stepped
          exact ⟨_, rfl, ⟨sock, longer.replies task _⟩⟩
        · cases stepped
          exact ⟨_, rfl, longer.goto task _⟩
  | quiet index =>
      cases about
      cases stepped
      rw [show s.chunksOf (.quiet task) = [] from rfl, List.append_nil]
      exact ⟨_, rfl, ⟨sock, holds.replies task _⟩⟩
  | eof index =>
      cases about
      cases stepped
      rw [show s.chunksOf (.eof task) = [] from rfl, List.append_nil]
      exact ⟨_, rfl, holds.goto task _⟩
  | _ => cases stepped

theorem advances_ending {sock : ℕ} {responseData : Bytes}
    (about : event.task = some task)
    (holds : s.Holds chunks target browser sock (delivered ++ responseData))
    (stepped : s.taskStep task self (.ending sock responseData) event =
      some next) :
    Advances s next task
      (next.Relaying (chunks ++ s.chunksOf event) target browser delivered) := by
  cases event with
  | remove index =>
      cases about
      cases stepped
      rw [show s.chunksOf (.remove task) = [] from rfl, List.append_nil]
      refine ⟨_, rfl, ⟨sock, opened_replied.mpr holds.opened, ?_, holds.produced⟩⟩
      intro still
      exact absurd rfl still
  | _ => cases stepped

/-- One step of a RELAY of the session, its `sendall` not failing. -/
theorem relaying_step (own : self.target = target)
    (found : s.tasks[task]? = some self) (about : event.task = some task)
    (calm : ∀ index count message, event ≠ .sendFailed index count message)
    (relaying : s.Relaying chunks target browser delivered self.point)
    (stepped : s.taskStep task self self.point event = some next) :
    Advances s next task
      (next.Relaying (chunks ++ s.chunksOf event) target browser delivered) := by
  cases here : self.point with
  | lookingUp =>
      rw [here] at relaying stepped
      exact advances_lookingUp own about relaying stepped
  | sending sock =>
      rw [here] at relaying stepped
      exact advances_sending calm about relaying stepped
  | reading sock responseData =>
      rw [here] at relaying stepped
      exact advances_reading found here about relaying stepped
  | ending sock responseData =>
      rw [here] at relaying stepped
      exact advances_ending about relaying stepped
  | done response =>
      rw [here] at stepped
      cases event <;> cases stepped
  | _ =>
      rw [here] at relaying
      cases relaying

end

end Forwarder

end VpnTunnel.Server
