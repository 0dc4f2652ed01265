import VpnTunnel.Server.Forwarder

namespace VpnTunnel.Server

open VpnTunnel.Crypto
open VpnTunnel.Foundation

/-! What reaches one target when its CONNECT and RELAY requests come one after
the other. -/

def RelayPoint.finished : RelayPoint → Bool
  | .done _ => true
  | _ => false

def Dispatch.target : Dispatch → Option String
  | .connect target | .relay target _ => some target
  | .http => none

def Dispatch.data : Dispatch → Bytes
  | .relay _ data => data
  | .connect _ | .http => []

theorem startPoint_eq_some {dispatch : Dispatch} {host : String} {data : Bytes} {point : RelayPoint}
    (started : Forwarder.startPoint dispatch = some (host, data, point)) :
    dispatch.target = some host ∧ data = dispatch.data ∧
      (point = .connecting → dispatch = .connect host) := by
  unfold Forwarder.startPoint at started
  split at started <;> cases started
  · exact ⟨rfl, rfl, fun _ => rfl⟩
  · exact ⟨rfl, rfl, nofun⟩

theorem startPoint_none {dispatch : Dispatch}
    (plain : Forwarder.startPoint dispatch = none) :
    dispatch.target = none := by
  unfold Forwarder.startPoint at plain
  split at plain
  · cases plain
  · cases plain
  · rfl

/-- One target's part of the relay state: the data and points of its tasks in the
order they started, its table entry, and what its sockets were sent. -/
@[ext] structure Line where
  tasks : List (Bytes × RelayPoint)
  entry : Option ℕ
  bytesAt : ℕ → Option Bytes

namespace Line

def data (tasks : List (Bytes × RelayPoint)) : Bytes :=
  (tasks.map Prod.fst).flatten

/-- What the latest task says about the line; `sofar` is the data before it. -/
def Stage (line : Line) (sofar data : Bytes) : RelayPoint → Prop
  | .connecting => line.entry = none ∧ sofar = [] ∧ data = []
  | .installing sock =>
      line.entry = none ∧ line.bytesAt sock = some (sofar ++ data)
  | .lookingUp => ∀ sock, line.entry = some sock → line.bytesAt sock = some sofar
  | .sending sock => line.entry = some sock ∧ line.bytesAt sock = some sofar
  | .reading sock _ | .ending sock _ =>
      line.entry = some sock ∧ line.bytesAt sock = some (sofar ++ data)
  | .failing sock _ => line.entry = some sock
  | .closing _ _ => line.entry = none
  | .done _ =>
      ∀ sock, line.entry = some sock → line.bytesAt sock = some (sofar ++ data)

/-- The bytes at each socket are the first ones of the line; all tasks but the
latest have ended. -/
structure InOrder (line : Line) : Prop where
  written : ∀ sock bytes, line.bytesAt sock = some bytes →
    bytes <+: Line.data line.tasks
  stage : line.tasks = [] ∧ line.entry = none ∨
    ∃ before data point, line.tasks = before ++ [(data, point)] ∧
      (∀ task ∈ before, task.2.finished = true) ∧
      line.Stage (Line.data before) data point

section

variable {line next : Line} {before after : List (Bytes × RelayPoint)}
  {data : Bytes} {old point : RelayPoint}

theorem data_concat (tasks : List (Bytes × RelayPoint)) (data : Bytes)
    (point : RelayPoint) :
    Line.data (tasks ++ [(data, point)]) = Line.data tasks ++ data := by
  simp [Line.data]

theorem InOrder.latest (order : line.InOrder)
    (tasks : line.tasks = before ++ (data, old) :: after)
    (busy : old.finished = false) :
    after = [] ∧ (∀ task ∈ before, task.2.finished = true) ∧
      line.Stage (Line.data before) data old := by
  rcases order.stage with ⟨nothing, -⟩ | ⟨first, last, at_, same, ended, stage⟩
  · rw [nothing] at tasks
    cases before <;> cases tasks
  · rw [same] at tasks
    rcases List.eq_nil_or_concat after with rfl | ⟨middle, final, rfl⟩
    · obtain ⟨rfl, lastTask⟩ := List.append_inj' tasks rfl
      cases lastTask
      exact ⟨rfl, ended, stage⟩
    · rw [List.concat_eq_append, ← List.cons_append, ← List.append_assoc]
        at tasks
      obtain ⟨rfl, -⟩ := List.append_inj' tasks rfl
      have ends := ended (data, old) (List.mem_append_right _ List.mem_cons_self)
      cases busy.symm.trans ends

theorem InOrder.advance (order : line.InOrder)
    (tasks : line.tasks = before ++ (data, old) :: after)
    (busy : old.finished = false)
    (moved : next.tasks = before ++ (data, point) :: after)
    (written : ∀ sock bytes, next.bytesAt sock = some bytes →
      line.bytesAt sock = some bytes ∨
        (line.Stage (Line.data before) data old →
          bytes <+: Line.data before ++ data))
    (stage : line.Stage (Line.data before) data old →
      next.Stage (Line.data before) data point) : next.InOrder := by
  obtain ⟨rfl, ended, holds⟩ := order.latest tasks busy
  exact
    { written := by
        intro sock bytes found
        rw [moved, data_concat]
        rcases written sock bytes found with kept | new
        · have covered := order.written sock bytes kept
          rw [tasks, data_concat] at covered
          exact covered
        · exact new holds
      stage := .inr ⟨before, data, point, moved, ended, stage holds⟩ }

theorem InOrder.start (order : line.InOrder)
    (ended : ∀ task ∈ line.tasks, task.2.finished = true)
    (moved : next.tasks = line.tasks ++ [(data, point)])
    (entry : next.entry = line.entry) (bytesAt : next.bytesAt = line.bytesAt)
    (first : point = .connecting → line.tasks = [] ∧ data = [])
    (kind : point = .connecting ∨ point = .lookingUp) : next.InOrder where
  written := by
    intro sock bytes found
    rw [bytesAt] at found
    rw [moved, data_concat]
    exact (order.written sock bytes found).trans (List.prefix_append _ _)
  stage := by
    refine .inr ⟨line.tasks, data, point, moved, ended, ?_⟩
    rcases kind with rfl | rfl
    · obtain ⟨nothing, empty⟩ := first rfl
      have unlisted : line.entry = none := by
        rcases order.stage with ⟨-, unlisted⟩ | ⟨_, _, _, tasks, -⟩
        · exact unlisted
        · rw [nothing] at tasks
          exact absurd tasks.symm (List.append_ne_nil_of_right_ne_nil _ nofun)
      refine ⟨entry.trans unlisted, ?_, empty⟩
      rw [nothing]
      rfl
    · intro sock listed
      rw [entry] at listed
      rw [bytesAt]
      rcases order.stage with ⟨nothing, unlisted⟩ |
        ⟨before, last, point, tasks, -, stage⟩
      · cases unlisted.symm.trans listed
      · have done := ended (last, point) (by simp [tasks])
        rw [tasks, data_concat]
        cases point with
        | done response => exact stage sock listed
        | _ => cases done

end

end Line

def RelayTask.onLine (target : String) (task : RelayTask) :
    Option (Bytes × RelayPoint) :=
  if task.target = target then some (task.data, task.point) else none

theorem RelayTask.onLine_of_eq {target : String} {task : RelayTask}
    (own : task.target = target) :
    RelayTask.onLine target task = some (task.data, task.point) := if_pos own

theorem RelayTask.onLine_of_ne {target : String} {task : RelayTask}
    (other : task.target ≠ target) : RelayTask.onLine target task = none := if_neg other

namespace Forwarder

def line (s : Forwarder) (target : String) : Line where
  tasks := s.tasks.filterMap (RelayTask.onLine target)
  entry := s.connectSessions.lookup target
  bytesAt index := s.socks[index]?.bind fun sock =>
    if sock.target = target then some (sock.written.map Prod.snd).flatten
    else none

/-- The request is on its own on its target: everything before it has ended, and
a CONNECT comes first. -/
def Sequential (target : String) (s : Forwarder) : ForwarderEvent → Prop
  | .request _ request =>
      ∀ started ∈ startPoint request.dispatch, started.1 = target →
        (∀ task ∈ (s.line target).tasks, task.2.finished = true) ∧
          (started.2.2 = .connecting → (s.line target).tasks = [])
  | _ => True

/-- The table and the tasks know their sockets' targets. -/
structure Targeted (s : Forwarder) : Prop where
  entries : ∀ target index, s.connectSessions.lookup target = some index →
    ∃ browser, s.Opened index target browser
  tasks : ∀ self ∈ s.tasks, ∀ index ∈ self.point.sock,
    ∃ browser, s.Opened index self.target browser

theorem targeted_empty : Forwarder.empty.Targeted where
  entries := by
    intro target index found
    cases found
  tasks := nofun

section

variable {s next : Forwarder} {task : ℕ} {self : RelayTask} {target : String}

theorem Targeted.keep (targeted : s.Targeted)
    (opened : ∀ index target browser, s.Opened index target browser →
      next.Opened index target browser)
    (entries : ∀ target index,
      next.connectSessions.lookup target = some index →
        s.connectSessions.lookup target = some index ∨
          ∃ browser, s.Opened index target browser)
    (tasks : ∀ self ∈ next.tasks, self ∈ s.tasks ∨
      ∀ index ∈ self.point.sock, ∃ browser, next.Opened index self.target browser) :
    next.Targeted where
  entries := by
    intro target index listed
    rcases entries target index listed with old | ⟨browser, own⟩
    · obtain ⟨browser, own⟩ := targeted.entries target index old
      exact ⟨browser, opened _ _ _ own⟩
    · exact ⟨browser, opened _ _ _ own⟩
  tasks := by
    intro self member index used
    rcases tasks self member with old | new
    · obtain ⟨browser, own⟩ := targeted.tasks self old index used
      exact ⟨browser, opened _ _ _ own⟩
    · exact new index used

theorem Targeted.advance (targeted : s.Targeted)
    (found : s.tasks[task]? = some self) {point : RelayPoint}
    (opened : ∀ index target browser, s.Opened index target browser →
      next.Opened index target browser)
    (entries : ∀ target index,
      next.connectSessions.lookup target = some index →
        s.connectSessions.lookup target = some index ∨
          ∃ browser, s.Opened index target browser)
    (tasks : next.tasks = (s.goto task point).tasks)
    (own : ∀ index ∈ point.sock,
      ∃ browser, next.Opened index self.target browser) : next.Targeted := by
  refine targeted.keep opened entries ?_
  intro other member
  rw [tasks] at member
  rcases mem_goto found member with old | rfl
  · exact .inl old
  · exact .inr own

theorem opened_replied {sock index : ℕ} {host : String}
    {writer browser : Browser} {data : Bytes} :
    (s.replied sock writer data).Opened index host browser ↔
      s.Opened index host browser := by
  unfold Forwarder.replied
  apply opened_modify
  · intro found
    rfl
  · intro found
    rfl

theorem Opened.concat {index : ℕ} {host : String} {browser : Browser}
    (opened : s.Opened index host browser) (new : TargetSock) :
    ({ s with socks := s.socks ++ [new] } : Forwarder).Opened index host
      browser := by
  obtain ⟨sock, here, same⟩ := opened
  refine ⟨sock, ?_, same⟩
  change (s.socks ++ [new])[index]? = some sock
  rw [List.getElem?_append_left (List.getElem?_eq_some_iff.mp here).1]
  exact here

theorem lookup_of_erase {table : AList fun _ : String => ℕ} {key host : String}
    {index : ℕ} (listed : (table.erase key).lookup host = some index) :
    table.lookup host = some index := by
  by_cases same : host = key
  · rw [same, AList.lookup_erase] at listed
    cases listed
  · rw [AList.lookup_erase_ne same] at listed
    exact listed

theorem Targeted.move {event : ForwarderEvent} (targeted : s.Targeted)
    (found : s.tasks[task]? = some self)
    (move : TaskMove s task self event next) : next.Targeted := by
  have own := targeted.tasks self (List.mem_of_getElem? found)
  have same : ∀ index target browser, s.Opened index target browser →
      s.Opened index target browser := fun _ _ _ opened => opened
  have listed : ∀ target index, s.connectSessions.lookup target = some index →
      s.connectSessions.lookup target = some index ∨
        ∃ browser, s.Opened index target browser := fun _ _ => .inl
  cases move with
  | connected here =>
      refine targeted.advance found (fun _ _ _ opened => opened.concat _) listed
        rfl ?_
      rintro index used
      cases used
      exact ⟨self.browser, _, List.getElem?_concat_length, rfl, rfl⟩
  | connectFailed here => exact targeted.advance found same listed rfl nofun
  | @install sock here =>
      refine targeted.advance found same ?_ rfl nofun
      intro target index present
      change (s.connectSessions.insert self.target sock).lookup target =
        some index at present
      by_cases ours : target = self.target
      · subst ours
        rw [AList.lookup_insert] at present
        cases present
        exact .inr (own sock (by rw [here]; rfl))
      · rw [AList.lookup_insert_ne ours] at present
        exact .inl present
  | missing here absent => exact targeted.advance found same listed rfl nofun
  | found here present =>
      refine targeted.advance found same listed rfl ?_
      intro index used
      split at used
      all_goals
        cases used
        exact targeted.entries _ _ present
  | @sent sock here =>
      refine targeted.advance found (fun _ _ _ => opened_wrote.mpr) listed rfl ?_
      rintro index used
      cases used
      obtain ⟨browser, opened⟩ := own sock (by rw [here]; rfl)
      exact ⟨browser, opened_wrote.mpr opened⟩
  | @sendFailed sock count message here =>
      refine targeted.advance found (fun _ _ _ => opened_wrote.mpr) listed rfl ?_
      rintro index used
      cases used
      obtain ⟨browser, opened⟩ := own sock (by rw [here]; rfl)
      exact ⟨browser, opened_wrote.mpr opened⟩
  | @more _ sock responseData longer here =>
      refine targeted.advance found same listed rfl ?_
      rintro index used
      cases used
      exact own sock (by rw [here]; rfl)
  | answer here =>
      exact targeted.advance found (fun _ _ _ => opened_replied.mpr) listed rfl
        nofun
  | @eof sock responseData here =>
      refine targeted.advance found same listed rfl ?_
      rintro index used
      cases used
      exact own sock (by rw [here]; rfl)
  | finish here =>
      exact targeted.advance found (fun _ _ _ => opened_replied.mpr)
        (fun _ _ present => .inl (lookup_of_erase present)) rfl nofun
  | @drop sock message here =>
      refine targeted.advance found same
        (fun _ _ present => .inl (lookup_of_erase present)) rfl ?_
      rintro index used
      cases used
      exact own sock (by rw [here]; rfl)
  | close here => exact targeted.advance found same listed rfl nofun

theorem Targeted.step {event : ForwarderEvent} (targeted : s.Targeted)
    (move : ForwarderMove s event next) : next.Targeted := by
  cases move with
  | @request browser request target data point started =>
      refine targeted.keep (fun _ _ _ opened => opened) (fun _ _ => .inl) ?_
      intro self member
      rcases List.mem_append.mp member with old | new
      · exact .inl old
      · right
        rw [List.mem_singleton.mp new]
        unfold startPoint at started
        split at started <;> cases started <;> exact nofun
  | task about found move => exact targeted.move found move

/-! How one task's step shows in the line of a target. -/

theorem modify_split {α : Type} {l : List α} {index : ℕ} {x : α}
    (found : l[index]? = some x) :
    ∃ before after, l = before ++ x :: after ∧
      ∀ change : α → α, l.modify index change = before ++ change x :: after := by
  obtain ⟨bound, rfl⟩ := List.getElem?_eq_some_iff.mp found
  refine ⟨l.take index, l.drop (index + 1), ?_,
    fun change => List.modify_eq_take_cons_drop bound⟩
  rw [List.getElem_cons_drop, List.take_append_drop]

theorem tasks_goto_of_ne {point : RelayPoint}
    (found : s.tasks[task]? = some self) (other : self.target ≠ target) :
    ((s.goto task point).line target).tasks = (s.line target).tasks := by
  obtain ⟨before, after, old, new⟩ := modify_split found
  change (s.tasks.modify task _).filterMap _ = s.tasks.filterMap _
  rw [new, old, List.filterMap_append, List.filterMap_append,
    List.filterMap_cons_none (RelayTask.onLine_of_ne other),
    List.filterMap_cons_none]
  exact RelayTask.onLine_of_ne other

theorem tasks_goto (found : s.tasks[task]? = some self)
    (own : self.target = target) :
    ∃ before after,
      (s.line target).tasks = before ++ (self.data, self.point) :: after ∧
      ∀ point, ((s.goto task point).line target).tasks =
        before ++ (self.data, point) :: after := by
  obtain ⟨before, after, old, new⟩ := modify_split found
  refine ⟨before.filterMap (RelayTask.onLine target),
    after.filterMap (RelayTask.onLine target), ?_, ?_⟩
  · change s.tasks.filterMap _ = _
    rw [old, List.filterMap_append,
      List.filterMap_cons_some (RelayTask.onLine_of_eq own)]
  · intro point
    change (s.tasks.modify task _).filterMap _ = _
    rw [new, List.filterMap_append, List.filterMap_cons_some]
    exact RelayTask.onLine_of_eq own

/-- What was written at one socket, seen from a target. -/
theorem bytesAt_wrote {sock : ℕ} {host : String} {writer browser : Browser}
    {data : Bytes} (opened : s.Opened sock host browser) (index : ℕ) :
    ((s.wrote sock writer data).line target).bytesAt index =
      if index = sock ∧ host = target then
        ((s.line target).bytesAt index).map (· ++ data)
      else (s.line target).bytesAt index := by
  obtain ⟨found, here, same, -⟩ := opened
  change (s.socks.modify sock _)[index]?.bind _ =
    if _ then (s.socks[index]?.bind _).map _ else s.socks[index]?.bind _
  rw [List.getElem?_modify]
  by_cases moved : index = sock
  · subst moved
    by_cases own : host = target
    · simp [here, same, own]
    · simp [here, same, own]
  · simp [moved, Ne.symm moved]

theorem bytesAt_replied {sock : ℕ} {writer : Browser} {data : Bytes} :
    ((s.replied sock writer data).line target).bytesAt =
      (s.line target).bytesAt := by
  funext index
  change (s.socks.modify sock _)[index]?.bind _ = s.socks[index]?.bind _
  rw [List.getElem?_modify]
  cases s.socks[index]? with
  | none => rfl
  | some found =>
      by_cases moved : sock = index
      · simp [moved]
      · simp [moved]

theorem bytesAt_concat (s : Forwarder) (target : String) (new : TargetSock)
    (index : ℕ) :
    (({ s with socks := s.socks ++ [new] } : Forwarder).line target).bytesAt
        index =
      if index = s.socks.length then
        if new.target = target then some (new.written.map Prod.snd).flatten
        else none
      else (s.line target).bytesAt index := by
  change (s.socks ++ [new])[index]?.bind _ = if _ then _ else s.socks[index]?.bind _
  rcases Nat.lt_trichotomy index s.socks.length with old | rfl | beyond
  · rw [List.getElem?_append_left old, if_neg (Nat.ne_of_lt old)]
  · rw [List.getElem?_concat_length, if_pos rfl]
    rfl
  · rw [if_neg (Nat.ne_of_gt beyond), List.getElem?_eq_none,
      List.getElem?_eq_none (Nat.le_of_lt beyond)]
    rw [List.length_append]
    exact beyond

theorem line_move_of_ne {event : ForwarderEvent} (targeted : s.Targeted)
    (found : s.tasks[task]? = some self) (other : self.target ≠ target)
    (move : TaskMove s task self event next) :
    next.line target = s.line target := by
  have own := targeted.tasks self (List.mem_of_getElem? found)
  have tasks : ∀ point, ((s.goto task point).line target).tasks =
      (s.line target).tasks := fun _ => tasks_goto_of_ne found other
  have bytesAt_wrote : ∀ sock data, self.point.sock = some sock →
      ((s.wrote sock self.browser data).line target).bytesAt =
        (s.line target).bytesAt := by
    intro sock data used
    obtain ⟨browser, opened⟩ := own sock used
    funext index
    rw [Forwarder.bytesAt_wrote opened, if_neg fun both => other both.2]
  cases move with
  | connected here =>
      refine Line.ext (tasks _) rfl ?_
      funext index
      refine (bytesAt_concat s target _ index).trans ?_
      split
      · subst index
        refine (if_neg other).trans ?_
        change none = s.socks[s.socks.length]?.bind _
        rw [List.getElem?_eq_none (Nat.le_refl _)]
        rfl
      · rfl
  | connectFailed here => exact Line.ext (tasks _) rfl rfl
  | install here =>
      exact Line.ext (tasks _) (AList.lookup_insert_ne (Ne.symm other)) rfl
  | missing here absent => exact Line.ext (tasks _) rfl rfl
  | found here present => exact Line.ext (tasks _) rfl rfl
  | sent here =>
      exact Line.ext (tasks _) rfl (bytesAt_wrote _ _ (by rw [here]; rfl))
  | sendFailed here =>
      exact Line.ext (tasks _) rfl (bytesAt_wrote _ _ (by rw [here]; rfl))
  | more here => exact Line.ext (tasks _) rfl rfl
  | answer here => exact Line.ext (tasks _) rfl bytesAt_replied
  | eof here => exact Line.ext (tasks _) rfl rfl
  | finish here =>
      exact Line.ext (tasks _) (AList.lookup_erase_ne (Ne.symm other))
        bytesAt_replied
  | drop here =>
      exact Line.ext (tasks _) (AList.lookup_erase_ne (Ne.symm other)) rfl
  | close here => exact Line.ext (tasks _) rfl rfl

theorem inOrder_move {event : ForwarderEvent} (targeted : s.Targeted)
    (found : s.tasks[task]? = some self) (own : self.target = target)
    (order : (s.line target).InOrder) (move : TaskMove s task self event next) :
    (next.line target).InOrder := by
  have used := targeted.tasks self (List.mem_of_getElem? found)
  obtain ⟨before, after, tasks, moved⟩ := tasks_goto found own
  cases move with
  | connected here =>
      rw [here] at tasks
      have at_ := bytesAt_concat s target (.opened self.target self.browser)
      refine order.advance tasks rfl (moved _) ?_ ?_
      · intro index bytes there
        replace there := (at_ index).symm.trans there
        split at there
        · right
          intro _
          replace there := (if_pos own).symm.trans there
          cases there
          exact List.nil_prefix
        · exact .inl there
      · rintro ⟨unlisted, nothing, empty⟩
        refine ⟨unlisted, ?_⟩
        rw [nothing, empty]
        refine (at_ s.socks.length).trans ?_
        rw [if_pos rfl]
        exact if_pos own
  | connectFailed here =>
      rw [here] at tasks
      refine order.advance tasks rfl (moved _) (fun _ _ => .inl) ?_
      rintro ⟨unlisted, -, -⟩ sock listed
      cases unlisted.symm.trans listed
  | install here =>
      rw [here] at tasks
      refine order.advance tasks rfl (moved _) (fun _ _ => .inl) ?_
      rintro ⟨-, written⟩ sock listed
      change (s.connectSessions.insert self.target _).lookup target =
        some sock at listed
      rw [← own, AList.lookup_insert] at listed
      cases listed
      exact written
  | missing here absent =>
      rw [here] at tasks
      refine order.advance tasks rfl (moved _) (fun _ _ => .inl) ?_
      intro _ sock listed
      rw [own] at absent
      cases absent.symm.trans listed
  | @found sock here present =>
      rw [here] at tasks
      refine order.advance tasks rfl (moved _) (fun _ _ => .inl) ?_
      intro stage
      rw [own] at present
      have written := stage sock present
      split
      case isTrue empty =>
        rw [empty]
        refine ⟨present, ?_⟩
        rw [List.append_nil]
        exact written
      case isFalse => exact ⟨present, written⟩
  | @sent sock here =>
      obtain ⟨browser, opened⟩ := used sock (by rw [here]; rfl)
      rw [here] at tasks
      refine order.advance tasks rfl (moved _) ?_ ?_
      · intro index bytes there
        replace there := (bytesAt_wrote opened index).symm.trans there
        split at there
        case isTrue both =>
          right
          rintro ⟨-, written⟩
          rw [both.1, written] at there
          cases there
          exact List.prefix_refl _
        case isFalse => exact .inl there
      · rintro ⟨listed, written⟩
        refine ⟨listed, (bytesAt_wrote opened sock).trans ?_⟩
        rw [if_pos ⟨rfl, own⟩, written]
        rfl
  | @sendFailed sock count message here =>
      obtain ⟨browser, opened⟩ := used sock (by rw [here]; rfl)
      rw [here] at tasks
      refine order.advance tasks rfl (moved _) ?_ ?_
      · intro index bytes there
        replace there := (bytesAt_wrote opened index).symm.trans there
        split at there
        case isTrue both =>
          right
          rintro ⟨-, written⟩
          rw [both.1, written] at there
          cases there
          exact (List.prefix_append_right_inj _).mpr (List.take_prefix _ _)
        case isFalse => exact .inl there
      · rintro ⟨listed, -⟩
        exact listed
  | more here =>
      rw [here] at tasks
      exact order.advance tasks rfl (moved _) (fun _ _ => .inl) fun stage => stage
  | answer here =>
      rw [here] at tasks
      refine order.advance tasks rfl (moved _) ?_ ?_
      · intro index bytes there
        rw [← bytesAt_replied]
        exact .inl there
      · rintro ⟨present, written⟩ sock listed
        obtain rfl := Option.some.inj (present.symm.trans listed)
        exact (congrFun bytesAt_replied _).trans written
  | eof here =>
      rw [here] at tasks
      exact order.advance tasks rfl (moved _) (fun _ _ => .inl) fun stage => stage
  | finish here =>
      rw [here] at tasks
      refine order.advance tasks rfl (moved _) ?_ ?_
      · intro index bytes there
        rw [← bytesAt_replied]
        exact .inl there
      · intro _ sock listed
        change (s.connectSessions.erase self.target).lookup target = _ at listed
        rw [own, AList.lookup_erase] at listed
        cases listed
  | drop here =>
      rw [here] at tasks
      refine order.advance tasks rfl (moved _) (fun _ _ => .inl) ?_
      intro _
      change (s.connectSessions.erase self.target).lookup target = none
      rw [own, AList.lookup_erase]
  | close here =>
      rw [here] at tasks
      refine order.advance tasks rfl (moved _) (fun _ _ => .inl) ?_
      intro unlisted sock listed
      cases unlisted.symm.trans listed

theorem filterMap_concat {α β : Type} (l : List α) (x : α)
    (view : α → Option β) :
    (l ++ [x]).filterMap view = l.filterMap view ++ (view x).toList := by
  rw [List.filterMap_append]
  cases shown : view x with
  | none => rw [List.filterMap_cons_none shown]; rfl
  | some entry => rw [List.filterMap_cons_some shown]; rfl

theorem tasks_append (s : Forwarder) (target : String) (new : RelayTask) :
    (({ s with tasks := s.tasks ++ [new] } : Forwarder).line target).tasks =
      (s.line target).tasks ++ (new.onLine target).toList :=
  filterMap_concat s.tasks new _

theorem inOrder_step {event : ForwarderEvent} (targeted : s.Targeted)
    (order : (s.line target).InOrder) (guarded : Sequential target s event)
    (move : ForwarderMove s event next) : (next.line target).InOrder := by
  cases move with
  | @request browser request host data point started =>
      have added := tasks_append s target
        { browser, target := host, data, point }
      by_cases own : host = target
      · rw [RelayTask.onLine_of_eq own] at added
        obtain ⟨ended, first⟩ := guarded (host, data, point) started own
        have kind : (point = .connecting ∧ data = []) ∨ point = .lookingUp := by
          unfold startPoint at started
          split at started <;> cases started
          · exact .inl ⟨rfl, rfl⟩
          · exact .inr rfl
        refine order.start ended added rfl rfl ?_ (kind.imp_left And.left)
        intro connecting
        rcases kind with ⟨-, empty⟩ | looking
        · exact ⟨first connecting, empty⟩
        · cases connecting.symm.trans looking
      · rw [RelayTask.onLine_of_ne own] at added
        have same : (({ s with
            tasks := s.tasks ++ [{ browser, target := host, data, point }] } :
              Forwarder).line target) = s.line target :=
          Line.ext (added.trans (List.append_nil _)) rfl rfl
        rw [same]
        exact order
  | @task _ index self _ about found move =>
      by_cases own : self.target = target
      · exact inOrder_move targeted found own order move
      · rw [line_move_of_ne targeted found own move]
        exact order

theorem map_fst_move {event : ForwarderEvent} (targeted : s.Targeted)
    (found : s.tasks[task]? = some self)
    (move : TaskMove s task self event next) :
    (next.line target).tasks.map Prod.fst =
      (s.line target).tasks.map Prod.fst := by
  by_cases own : self.target = target
  · obtain ⟨before, after, tasks, moved⟩ := tasks_goto found own
    have advanced : ∃ point, (next.line target).tasks =
        before ++ (self.data, point) :: after := by
      cases move <;> exact ⟨_, moved _⟩
    obtain ⟨point, tasks'⟩ := advanced
    rw [tasks, tasks', List.map_append, List.map_append, List.map_cons,
      List.map_cons]
  · rw [line_move_of_ne targeted found own move]

theorem ForwarderMove.of_request {browser : Browser}
    {request : CanonicalRequest}
    (move : ForwarderMove s (.request browser request) next) :
    ∃ host data point, startPoint request.dispatch = some (host, data, point) ∧
      next = { s with
        tasks := s.tasks ++ [{ browser, target := host, data, point }] } := by
  cases move with
  | request started => exact ⟨_, _, _, started, rfl⟩
  | task about found move => cases about

theorem TaskMove.tasks {event : ForwarderEvent}
    (move : TaskMove s task self event next) :
    self.point.finished = false ∧
      ∃ point, next.tasks = (s.goto task point).tasks := by
  cases move with
  | connected here => exact ⟨by rw [here]; rfl, _, rfl⟩
  | connectFailed here => exact ⟨by rw [here]; rfl, _, rfl⟩
  | install here => exact ⟨by rw [here]; rfl, _, rfl⟩
  | missing here absent => exact ⟨by rw [here]; rfl, _, rfl⟩
  | found here present => exact ⟨by rw [here]; rfl, _, rfl⟩
  | sent here => exact ⟨by rw [here]; rfl, _, rfl⟩
  | sendFailed here => exact ⟨by rw [here]; rfl, _, rfl⟩
  | more here => exact ⟨by rw [here]; rfl, _, rfl⟩
  | answer here => exact ⟨by rw [here]; rfl, _, rfl⟩
  | eof here => exact ⟨by rw [here]; rfl, _, rfl⟩
  | finish here => exact ⟨by rw [here]; rfl, _, rfl⟩
  | drop here => exact ⟨by rw [here]; rfl, _, rfl⟩
  | close here => exact ⟨by rw [here]; rfl, _, rfl⟩

theorem unfinished_of_move {event : ForwarderEvent}
    (found : s.tasks[task]? = some self)
    (move : TaskMove s task self event next) {index : ℕ} {other : RelayTask}
    (there : next.tasks[index]? = some other)
    (busy : other.point.finished = false) :
    ∃ before, s.tasks[index]? = some before ∧ before.point.finished = false := by
  obtain ⟨running, point, tasks⟩ := TaskMove.tasks move
  rw [tasks] at there
  change (s.tasks.modify task _)[index]? = some other at there
  rw [List.getElem?_modify] at there
  obtain ⟨before, here, same⟩ := Option.map_eq_some_iff.mp there
  refine ⟨before, here, ?_⟩
  split at same
  case isTrue moved =>
    rw [← moved, found] at here
    cases here
    exact running
  case isFalse =>
    rw [show other = before from same.symm] at busy
    exact busy

theorem inOrder_empty : (Forwarder.empty.line target).InOrder where
  written := by
    intro sock bytes found
    cases found
  stage := .inl ⟨rfl, rfl⟩

/-- In order, a socket of the target holds the first bytes of the line. -/
theorem written_prefix (order : (s.line target).InOrder) {sock : TargetSock}
    (member : sock ∈ s.socks) (own : sock.target = target) :
    (sock.written.map Prod.snd).flatten <+: Line.data (s.line target).tasks := by
  obtain ⟨index, found⟩ := List.mem_iff_getElem?.mp member
  apply order.written index
  change s.socks[index]?.bind _ = _
  rw [found]
  exact if_pos own

end

end Forwarder

end VpnTunnel.Server
