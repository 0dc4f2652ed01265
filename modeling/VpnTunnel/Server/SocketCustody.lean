import VpnTunnel.Server.Forwarder

namespace VpnTunnel.Server

open VpnTunnel.Crypto
open VpnTunnel.Foundation

/-! What becomes of the sockets that CONNECTs have opened.  A place is where the
process can still get at one: the variable of a CONNECT, the table, or, out of the
table, nothing but the variables of RELAYs that looked it up before. -/

def RelayPoint.toInstall : RelayPoint → List ℕ
  | .installing sock => [sock]
  | _ => []

def RelayPoint.lookedUp : RelayPoint → List ℕ
  | .sending sock | .reading sock _ | .ending sock _ | .failing sock _
  | .closing sock _ => [sock]
  | _ => []

namespace Forwarder

def toInstall (s : Forwarder) : List ℕ :=
  s.tasks.flatMap fun self => self.point.toInstall

def sessions (s : Forwarder) : List ℕ := s.connectSessions.entries.map Sigma.snd

def removed (s : Forwarder) : List ℕ := s.removals.map Prod.snd

def targets (s : Forwarder) : List String := s.socks.map TargetSock.target

/-- The one who popped the socket had a task on the socket's target. -/
def Popped (s : Forwarder) (entry : Browser × ℕ) : Prop :=
  ∃ self ∈ s.tasks, self.browser = entry.1 ∧ s.targets[entry.2]? = some self.target

structure Custody (s : Forwarder) : Prop where
  opened : ∀ sock, s.toInstall.count sock + s.installed.count sock =
    if sock < s.targets.length then 1 else 0
  placed : ∀ sock, s.installed.count sock =
    s.sessions.count sock + s.replaced.count sock + s.removed.count sock
  keyed : ∀ target sock, s.connectSessions.lookup target = some sock →
    s.targets[sock]? = some target
  connecting : ∀ self ∈ s.tasks, ∀ sock ∈ self.point.toInstall,
    s.targets[sock]? = some self.target
  relaying : ∀ self ∈ s.tasks, ∀ sock ∈ self.point.lookedUp,
    sock ∈ s.installed ∧ s.targets[sock]? = some self.target
  closing : ∀ self ∈ s.tasks, ∀ sock message,
    self.point = .closing sock message → sock ∈ s.replaced ++ s.removed
  closed : ∀ entry ∈ s.closings, entry.2 ∈ s.replaced ++ s.removed
  popped : ∀ entry ∈ s.removals, s.Popped entry

theorem custody_empty : Forwarder.empty.Custody where
  opened _ := rfl
  placed _ := rfl
  keyed _ _ found := by cases found
  connecting := nofun
  relaying := nofun
  closing := nofun
  closed := nofun
  popped := nofun

/-! How the counts change. -/

theorem count_flatMap_modify {α β : Type} [BEq β] {f : α → α} {g : α → List β}
    {l : List α} {index : ℕ} {x : α} (found : l[index]? = some x) (b : β) :
    ((l.modify index f).flatMap g).count b + (g x).count b =
      (l.flatMap g).count b + (g (f x)).count b := by
  induction l generalizing index with
  | nil => cases found
  | cons head tail ih =>
      cases index with
      | zero =>
          obtain rfl : head = x := Option.some.inj found
          rw [List.modify_zero_cons, List.flatMap_cons, List.flatMap_cons,
            List.count_append, List.count_append]
          omega
      | succ index =>
          have rest := ih found
          rw [List.modify_succ_cons, List.flatMap_cons, List.flatMap_cons,
            List.count_append, List.count_append]
          omega

theorem count_kerase (target : String) (sock : ℕ)
    (entries : List (Sigma fun _ : String => ℕ)) :
    ((entries.kerase target).map Sigma.snd).count sock +
        (entries.dlookup target).toList.count sock =
      (entries.map Sigma.snd).count sock := by
  induction entries with
  | nil => rfl
  | cons entry rest ih =>
      obtain ⟨key, value⟩ := entry
      by_cases same : target = key
      · subst same
        have erased : List.kerase target (⟨target, value⟩ :: rest) = rest :=
          List.kerase_cons_eq rfl
        rw [erased, List.dlookup_cons_eq, List.map_cons, List.count_cons]
        simp [List.count_cons]
      · rw [List.kerase_cons_ne same, List.dlookup_cons_ne rest ⟨key, value⟩ same,
          List.map_cons, List.map_cons, List.count_cons, List.count_cons]
        omega

section

variable {s : Forwarder} {task : ℕ} {self : RelayTask}

theorem count_toInstall_goto (found : s.tasks[task]? = some self)
    (point : RelayPoint) (sock : ℕ) :
    (s.goto task point).toInstall.count sock + self.point.toInstall.count sock =
      s.toInstall.count sock + point.toInstall.count sock :=
  count_flatMap_modify found sock

/-- A step between points at which nothing is to be installed. -/
theorem Popped.goto {entry : Browser × ℕ} {point : RelayPoint}
    (popped : s.Popped entry) : (s.goto task point).Popped entry := by
  obtain ⟨other, member, own, at_⟩ := popped
  obtain ⟨position, here⟩ := List.mem_iff_getElem?.mp member
  by_cases same : task = position
  · have moved : (s.goto task point).tasks[task]? = some { other with point } := by
      change (s.tasks.modify task _)[task]? = _
      rw [List.getElem?_modify_eq, same, here]
      rfl
    exact ⟨_, List.mem_of_getElem? moved, own, at_⟩
  · have stays : (s.goto task point).tasks[position]? = some other := by
      change (s.tasks.modify task _)[position]? = _
      rw [List.getElem?_modify_ne _ _ same, here]
    exact ⟨other, List.mem_of_getElem? stays, own, at_⟩

theorem count_toInstall_same (found : s.tasks[task]? = some self)
    {point : RelayPoint} (before : self.point.toInstall = [])
    (after : point.toInstall = []) (sock : ℕ) :
    (s.goto task point).toInstall.count sock = s.toInstall.count sock := by
  have moved := count_toInstall_goto found point sock
  rw [before, after] at moved
  exact moved

theorem targets_modify {log : TargetSock → TargetSock}
    (target : ∀ sock, (log sock).target = sock.target) (index : ℕ) :
    (s.socks.modify index log).map TargetSock.target = s.targets := by
  apply List.ext_getElem?
  intro position
  rw [List.getElem?_map, List.getElem?_modify, targets, List.getElem?_map]
  cases s.socks[position]? with
  | none => rfl
  | some sock =>
      by_cases same : index = position
      · simp [same, target]
      · simp [same]

theorem targets_wrote (sock : ℕ) (browser : Browser) (data : Bytes) :
    (s.wrote sock browser data).targets = s.targets := by
  apply targets_modify
  exact fun _ => rfl

theorem targets_replied (sock : ℕ) (browser : Browser) (data : Bytes) :
    (s.replied sock browser data).targets = s.targets := by
  apply targets_modify
  exact fun _ => rfl

theorem Custody.log {socks : List TargetSock} (custody : s.Custody)
    (same : socks.map TargetSock.target = s.targets) :
    ({ s with socks } : Forwarder).Custody where
  opened sock := by
    change _ = if sock < (socks.map TargetSock.target).length then 1 else 0
    rw [same]
    exact custody.opened sock
  placed := custody.placed
  keyed target sock listed := by
    change (socks.map TargetSock.target)[sock]? = _
    rw [same]
    exact custody.keyed target sock listed
  connecting other member sock used := by
    change (socks.map TargetSock.target)[sock]? = _
    rw [same]
    exact custody.connecting other member sock used
  relaying other member sock used := by
    change _ ∧ (socks.map TargetSock.target)[sock]? = _
    rw [same]
    exact custody.relaying other member sock used
  closing := custody.closing
  closed := custody.closed
  popped entry inside := by
    obtain ⟨other, member, own, at_⟩ := custody.popped entry inside
    refine ⟨other, member, own, ?_⟩
    change (socks.map TargetSock.target)[entry.2]? = _
    rw [same]
    exact at_

theorem Custody.goto (custody : s.Custody) (found : s.tasks[task]? = some self)
    (point : RelayPoint) (before : self.point.toInstall = [])
    (after : point.toInstall = [])
    (relays : ∀ sock ∈ point.lookedUp,
      sock ∈ s.installed ∧ s.targets[sock]? = some self.target)
    (open_ : ∀ sock message, point ≠ .closing sock message) :
    (s.goto task point).Custody where
  opened sock := by
    rw [count_toInstall_same found before after]
    exact custody.opened sock
  placed := custody.placed
  keyed := custody.keyed
  connecting other member sock used := by
    rcases mem_goto found member with old | rfl
    · exact custody.connecting other old sock used
    · change sock ∈ point.toInstall at used
      rw [after] at used
      cases used
  relaying other member sock used := by
    rcases mem_goto found member with old | rfl
    · exact custody.relaying other old sock used
    · exact relays sock used
  closing other member sock message here := by
    rcases mem_goto found member with old | rfl
    · exact custody.closing other old sock message here
    · exact absurd here (open_ sock message)
  closed := custody.closed
  popped entry inside := (custody.popped entry inside).goto

theorem Custody.connected (custody : s.Custody)
    (found : s.tasks[task]? = some self) (here : self.point = .connecting) :
    ({ s.goto task (.installing s.socks.length) with
        socks := s.socks ++ [.opened self.target self.browser] } :
      Forwarder).Custody := by
  have moved (sock : ℕ) : (s.goto task (.installing s.socks.length)).toInstall.count
      sock = s.toInstall.count sock + [s.socks.length].count sock := by
    have counts := count_toInstall_goto found (.installing s.socks.length) sock
    rw [here] at counts
    exact counts
  have longer : (s.socks ++ [TargetSock.opened self.target self.browser]).map
      TargetSock.target = s.targets ++ [self.target] := List.map_append
  have size : s.targets.length = s.socks.length := List.length_map _
  have kept {sock : ℕ} {target : String} (at_ : s.targets[sock]? = some target) :
      ((s.socks ++ [TargetSock.opened self.target self.browser]).map
        TargetSock.target)[sock]? = some target := by
    rw [longer, List.getElem?_append_left (List.getElem?_eq_some_iff.mp at_).1]
    exact at_
  exact
    { opened := by
        intro sock
        change (s.goto task (.installing s.socks.length)).toInstall.count sock +
          s.installed.count sock = if sock < ((s.socks ++ _).map _).length then 1
            else 0
        have before := custody.opened sock
        rw [moved, longer, List.length_append, List.length_singleton, size,
          List.count_singleton]
        rw [size] at before
        by_cases new : s.socks.length = sock
        · simp [← new] at before ⊢
          omega
        · have same : sock < s.socks.length + 1 ↔ sock < s.socks.length := by omega
          simp only [same, beq_iff_eq, new, if_false]
          exact before
      placed := custody.placed
      keyed := fun target sock listed => kept (custody.keyed target sock listed)
      connecting := by
        intro other member sock used
        rcases mem_goto found member with old | rfl
        · exact kept (custody.connecting other old sock used)
        · obtain rfl := List.mem_singleton.mp used
          change ((s.socks ++ _).map _)[s.socks.length]? = _
          rw [longer, ← size]
          exact List.getElem?_concat_length
      relaying := by
        intro other member sock used
        rcases mem_goto found member with old | rfl
        · obtain ⟨listed, at_⟩ := custody.relaying other old sock used
          exact ⟨listed, kept at_⟩
        · cases used
      closing := by
        intro other member sock message at_
        rcases mem_goto found member with old | rfl
        · exact custody.closing other old sock message at_
        · cases at_
      closed := custody.closed
      popped := by
        intro entry inside
        obtain ⟨other, member, own, at_⟩ := (custody.popped entry inside).goto
        exact ⟨other, member, own, kept at_⟩ }

theorem Custody.install (custody : s.Custody) (found : s.tasks[task]? = some self)
    {index : ℕ} (here : self.point = .installing index) :
    (s.install task self index).Custody := by
  have moved (sock : ℕ) : (s.install task self index).toInstall.count sock +
      [index].count sock = s.toInstall.count sock := by
    have counts := count_toInstall_goto found
      (.done (buildResponse 200 [] [])) sock
    rw [here] at counts
    exact counts
  have own : s.targets[index]? = some self.target := by
    apply custody.connecting self (List.mem_of_getElem? found)
    rw [here]
    exact List.mem_singleton.mpr rfl
  have out (entry : ℕ) (old : entry ∈ s.replaced ++ s.removed) :
      entry ∈ (s.replaced ++ (s.connectSessions.lookup self.target).toList) ++
        s.removed := by
    rcases List.mem_append.mp old with replaced | removed
    · exact List.mem_append_left _ (List.mem_append_left _ replaced)
    · exact List.mem_append_right _ removed
  exact
    { opened := by
        intro sock
        change (s.install task self index).toInstall.count sock +
          (s.installed ++ [index]).count sock = _
        rw [List.count_append, ← Nat.add_assoc, Nat.add_right_comm, moved]
        exact custody.opened sock
      placed := by
        intro sock
        change (s.installed ++ [index]).count sock =
          ((s.connectSessions.insert self.target index).entries.map Sigma.snd).count
              sock +
            (s.replaced ++ (s.connectSessions.lookup self.target).toList).count sock +
            s.removed.count sock
        have before := custody.placed sock
        have swapped := count_kerase self.target sock s.connectSessions.entries
        rw [AList.entries_insert, List.map_cons, List.count_cons, List.count_append,
          List.count_append, List.count_singleton]
        change _ + (s.connectSessions.lookup self.target).toList.count sock =
          s.sessions.count sock at swapped
        dsimp only
        omega
      keyed := by
        intro target sock listed
        change (s.connectSessions.insert self.target index).lookup target =
          some sock at listed
        by_cases same : target = self.target
        · subst same
          rw [AList.lookup_insert] at listed
          obtain rfl := Option.some.inj listed
          exact own
        · rw [AList.lookup_insert_ne same] at listed
          exact custody.keyed target sock listed
      connecting := by
        intro other member sock used
        rcases mem_goto found member with old | rfl
        · exact custody.connecting other old sock used
        · cases used
      relaying := by
        intro other member sock used
        rcases mem_goto found member with old | rfl
        · obtain ⟨listed, at_⟩ := custody.relaying other old sock used
          exact ⟨List.mem_append_left _ listed, at_⟩
        · cases used
      closing := by
        intro other member sock message at_
        rcases mem_goto found member with old | rfl
        · exact out sock (custody.closing other old sock message at_)
        · cases at_
      closed := fun entry member => out entry.2 (custody.closed entry member)
      popped := fun entry inside => (custody.popped entry inside).goto }

theorem Custody.remove (custody : s.Custody) (found : s.tasks[task]? = some self)
    {point : RelayPoint} (before : self.point.toInstall = [])
    (after : point.toInstall = [])
    (relays : ∀ sock ∈ point.lookedUp,
      sock ∈ s.installed ∧ s.targets[sock]? = some self.target) :
    (s.remove task self point).Custody := by
  have out (entry : ℕ) (old : entry ∈ s.replaced ++ s.removed) :
      entry ∈ s.replaced ++ (s.remove task self point).removed := by
    change entry ∈ s.replaced ++ (s.removals ++ _).map Prod.snd
    rw [List.map_append]
    rcases List.mem_append.mp old with replaced | removed
    · exact List.mem_append_left _ replaced
    · exact List.mem_append_right _ (List.mem_append_left _ removed)
  have placed (sock : ℕ) : s.installed.count sock =
      ((s.connectSessions.erase self.target).entries.map Sigma.snd).count sock +
        s.replaced.count sock + (s.remove task self point).removed.count sock := by
    have counts := custody.placed sock
    have swapped := count_kerase self.target sock s.connectSessions.entries
    change _ + (s.connectSessions.lookup self.target).toList.count sock =
      s.sessions.count sock at swapped
    change _ = ((s.connectSessions.entries.kerase self.target).map Sigma.snd).count
      sock + _ + ((s.removals ++ _).map Prod.snd).count sock
    rw [List.map_append, List.count_append, List.map_map]
    change _ = _ + _ + (s.removed.count sock +
      ((s.connectSessions.lookup self.target).toList.map id).count sock)
    rw [List.map_id]
    omega
  exact
    { opened := by
        intro sock
        change (s.goto task point).toInstall.count sock + _ = _
        rw [count_toInstall_same found before after]
        exact custody.opened sock
      placed := placed
      keyed := by
        intro target sock listed
        change (s.connectSessions.erase self.target).lookup target =
          some sock at listed
        by_cases same : target = self.target
        · rw [same, AList.lookup_erase] at listed
          cases listed
        · rw [AList.lookup_erase_ne same] at listed
          exact custody.keyed target sock listed
      connecting := by
        intro other member sock used
        rcases mem_goto found member with old | rfl
        · exact custody.connecting other old sock used
        · change sock ∈ point.toInstall at used
          rw [after] at used
          cases used
      relaying := by
        intro other member sock used
        rcases mem_goto found member with old | rfl
        · exact custody.relaying other old sock used
        · exact relays sock used
      closing := by
        intro other member sock message at_
        rcases mem_goto found member with old | rfl
        · exact out sock (custody.closing other old sock message at_)
        · -- The entry could only stand under the target that was removed.
          change point = .closing sock message at at_
          have used : sock ∈ point.lookedUp := by
            rw [at_]
            exact List.mem_singleton.mpr rfl
          obtain ⟨listed, target⟩ := relays sock used
          have positive : 0 < s.installed.count sock := List.count_pos_iff.mpr listed
          rw [placed sock] at positive
          have absent : ((s.connectSessions.erase self.target).entries.map
              Sigma.snd).count sock = 0 := by
            rw [List.count_eq_zero]
            intro member
            obtain ⟨⟨key, value⟩, inside, rfl⟩ := List.mem_map.mp member
            have stands : (s.connectSessions.erase self.target).lookup key =
                some value := AList.mem_lookup_iff.mpr inside
            by_cases same : key = self.target
            · rw [same, AList.lookup_erase] at stands
              cases stands
            · rw [AList.lookup_erase_ne same] at stands
              have also := custody.keyed key value stands
              exact same (Option.some.inj (also.symm.trans target))
          rw [← List.count_pos_iff, List.count_append]
          change 0 < s.replaced.count sock + (s.remove task self point).removed.count sock
          omega
      closed := fun entry member => out entry.2 (custody.closed entry member)
      popped := by
        intro entry inside
        rcases List.mem_append.mp inside with old | new
        · exact (custody.popped entry old).goto
        · obtain ⟨sock, present, rfl⟩ := List.mem_map.mp new
          have own : s.Popped (self.browser, sock) :=
            ⟨self, List.mem_of_getElem? found, rfl,
              custody.keyed self.target sock (Option.mem_toList.mp present)⟩
          exact own.goto }

/-- `target_sock.close()` comes after the entry under its target is gone. -/
theorem Custody.close (custody : s.Custody) (found : s.tasks[task]? = some self)
    {index : ℕ} {message : String} (here : self.point = .closing index message)
    (response : CanonicalResponse) :
    ({ s.goto task (.done response) with
        closings := s.closings ++ [(self.browser, index)] } :
      Forwarder).Custody := by
  have moved := custody.goto found (.done response)
    (congrArg RelayPoint.toInstall here) rfl nofun nofun
  refine { moved with closed := ?_ }
  intro entry member
  rcases List.mem_append.mp member with old | new
  · exact custody.closed entry old
  · rw [List.mem_singleton.mp new]
    exact custody.closing self (List.mem_of_getElem? found) index message here

theorem Custody.listed (custody : s.Custody) {target : String} {sock : ℕ}
    (present : s.connectSessions.lookup target = some sock) :
    sock ∈ s.installed ∧ s.targets[sock]? = some target := by
  refine ⟨?_, custody.keyed target sock present⟩
  have inside : sock ∈ s.sessions :=
    List.mem_map.mpr ⟨⟨target, sock⟩, AList.mem_lookup_iff.mp present, rfl⟩
  have positive := List.count_pos_iff.mpr inside
  rw [← List.count_pos_iff, custody.placed sock]
  omega

theorem mem_lookedUp {point : RelayPoint} {sock : ℕ} (here : self.point = point)
    (only : point.lookedUp = [sock]) : sock ∈ self.point.lookedUp := by
  rw [here, only]
  exact List.mem_singleton.mpr rfl

theorem Custody.advance {next : Forwarder} {event : ForwarderEvent}
    (custody : s.Custody) (found : s.tasks[task]? = some self)
    (move : TaskMove s task self event next) : next.Custody := by
  have own {sock : ℕ} (used : sock ∈ self.point.lookedUp) {other : ℕ}
      (same : other ∈ [sock]) :
      other ∈ s.installed ∧ s.targets[other]? = some self.target := by
    rw [List.mem_singleton.mp same]
    exact custody.relaying self (List.mem_of_getElem? found) sock used
  have wrote (sock : ℕ) (data : Bytes) :
      (s.wrote sock self.browser data).Custody :=
    custody.log (targets_wrote sock self.browser data)
  have replied (sock : ℕ) (data : Bytes) :
      (s.replied sock self.browser data).Custody :=
    custody.log (targets_replied sock self.browser data)
  cases move with
  | connected here => exact custody.connected found here
  | connectFailed here =>
      exact custody.goto found _ (congrArg RelayPoint.toInstall here) rfl nofun nofun
  | install here => exact custody.install found here
  | missing here absent =>
      exact custody.goto found _ (congrArg RelayPoint.toInstall here) rfl nofun nofun
  | @found sock here present =>
      apply custody.goto found _ (congrArg RelayPoint.toInstall here)
      · split <;> rfl
      · intro other used
        have same : other = sock := by
          split at used <;> exact List.mem_singleton.mp used
        rw [same]
        exact custody.listed present
      · intro other message
        split <;> exact nofun
  | @sent sock here =>
      have used : sock ∈ self.point.lookedUp := mem_lookedUp here rfl
      apply (wrote sock self.data).goto found (.reading sock [])
        (congrArg RelayPoint.toInstall here) rfl
      · intro other same
        rw [targets_wrote]
        exact own used same
      · exact nofun
  | @sendFailed sock count message here =>
      have used : sock ∈ self.point.lookedUp := mem_lookedUp here rfl
      apply (wrote sock (self.data.take count)).goto found (.failing sock message)
        (congrArg RelayPoint.toInstall here) rfl
      · intro other same
        rw [targets_wrote]
        exact own used same
      · exact nofun
  | @more _ sock responseData longer here =>
      have used : sock ∈ self.point.lookedUp := mem_lookedUp here rfl
      exact custody.goto found (.reading sock longer)
        (congrArg RelayPoint.toInstall here) rfl (fun _ same => own used same) nofun
  | @answer _ sock responseData received response here =>
      exact (replied sock received).goto found (.done response)
        (congrArg RelayPoint.toInstall here) rfl nofun nofun
  | @eof sock responseData here =>
      have used : sock ∈ self.point.lookedUp := mem_lookedUp here rfl
      exact custody.goto found (.ending sock responseData)
        (congrArg RelayPoint.toInstall here) rfl (fun _ same => own used same) nofun
  | @finish sock responseData response here =>
      exact (replied sock responseData).remove found
        (congrArg RelayPoint.toInstall here) rfl nofun
  | @drop sock message here =>
      have used : sock ∈ self.point.lookedUp := mem_lookedUp here rfl
      exact custody.remove found (congrArg RelayPoint.toInstall here) rfl
        fun _ same => own used same
  | close here => exact custody.close found here _

theorem Custody.step {next : Forwarder} {event : ForwarderEvent}
    (custody : s.Custody) (move : ForwarderMove s event next) : next.Custody := by
  cases move with
  | @request browser request target data point started =>
      have fresh : point.toInstall = [] ∧ point.lookedUp = [] ∧
          ∀ sock message, point ≠ .closing sock message := by
        unfold startPoint at started
        split at started
        case h_1 | h_2 =>
          cases started
          exact ⟨rfl, rfl, nofun⟩
        case h_3 => cases started
      refine { custody with
        opened := ?_, connecting := ?_, relaying := ?_, closing := ?_, popped := ?_ }
      · intro sock
        change ((s.tasks ++ [_]).flatMap _).count sock + _ = _
        rw [List.flatMap_append, List.flatMap_singleton, fresh.1, List.append_nil]
        exact custody.opened sock
      · intro other member sock used
        rcases List.mem_append.mp member with old | new
        · exact custody.connecting other old sock used
        · rw [List.mem_singleton.mp new, fresh.1] at used
          cases used
      · intro other member sock used
        rcases List.mem_append.mp member with old | new
        · exact custody.relaying other old sock used
        · rw [List.mem_singleton.mp new, fresh.2.1] at used
          cases used
      · intro other member sock message here
        rcases List.mem_append.mp member with old | new
        · exact custody.closing other old sock message here
        · rw [List.mem_singleton.mp new] at here
          exact absurd here (fresh.2.2 sock message)
      · intro entry inside
        obtain ⟨other, member, own⟩ := custody.popped entry inside
        exact ⟨other, List.mem_append_left _ member, own⟩
  | task about found move => exact custody.advance found move

theorem Custody.perm (custody : s.Custody) :
    (s.toInstall ++ s.sessions ++ s.replaced ++ s.removed).Perm
      (List.range s.socks.length) := by
  rw [List.perm_iff_count]
  intro sock
  have opened := custody.opened sock
  rw [custody.placed sock] at opened
  simp only [List.count_append, List.count_range]
  rw [targets, List.length_map] at opened
  omega

end

end Forwarder

/-- In every run of any CONNECTs and RELAYs, each socket that was opened is in exactly
one place: in the variable of a CONNECT that is about to install it, in
`_connect_sessions` under its target, among those that a later CONNECT to their target
replaced, or among those that a RELAY to their target took out.  A socket that was
closed is never found in `_connect_sessions` again. -/
theorem connect_sockets_accounted (events : List ForwarderEvent) (s : Forwarder)
    (reached : run forwarderStep .empty events = some s) :
    (s.toInstall ++ s.sessions ++ s.replaced ++ s.removed).Perm
        (List.range s.socks.length) ∧
      (∀ target sock, s.connectSessions.lookup target = some sock →
        s.targets[sock]? = some target) ∧
      (∀ entry ∈ s.removals, s.Popped entry) ∧
      ∀ entry ∈ s.closings, ∀ target,
        s.connectSessions.lookup target ≠ some entry.2 := by
  have custody : s.Custody := run_invariant
    (fun _ _ _ holds stepped => holds.step (forwarderStep_move stepped)) reached
    Forwarder.custody_empty
  refine ⟨custody.perm, custody.keyed, custody.popped, ?_⟩
  intro entry closed target present
  have out := List.count_pos_iff.mpr (custody.closed entry closed)
  have member : entry.2 ∈ s.sessions :=
    List.mem_map.mpr ⟨⟨target, entry.2⟩, AList.mem_lookup_iff.mp present, rfl⟩
  have inside := List.count_pos_iff.mpr member
  have once := custody.opened entry.2
  rw [List.count_append] at out
  rw [custody.placed entry.2] at once
  split at once <;> omega

/-- A RELAY fails on a socket that a second CONNECT to the target has replaced. -/
def sampleClosed : List ForwarderEvent :=
  [.request 1 { method := "CONNECT", url := "a:443", body := [] },
    .connected 0, .install 0,
    .request 1 { method := "RELAY", url := "a:443", body := [9] }, .lookup 1,
    .request 2 { method := "CONNECT", url := "a:443", body := [] },
    .connected 2, .install 2, .sendFailed 1 0 "broken pipe", .remove 1, .close 1]

theorem connect_sockets_accounted_sample :
    ∃ s, run forwarderStep .empty sampleClosed = some s ∧ s.replaced = [0] ∧
      s.removed = [1] ∧ s.closings = [(1, 0)] ∧
      (s.toInstall ++ s.sessions ++ s.replaced ++ s.removed).Perm
        (List.range s.socks.length) ∧
      ∀ entry ∈ s.removals, s.Popped entry := by
  have ran : (run forwarderStep .empty sampleClosed).map
      (fun s => (s.replaced, s.removed, s.closings)) =
        some ([0], [1], [(1, 0)]) := by decide +kernel
  obtain ⟨s, reached, view⟩ := Option.map_eq_some_iff.mp ran
  obtain ⟨replaced, rest⟩ := Prod.mk.inj view
  obtain ⟨removed, closings⟩ := Prod.mk.inj rest
  have accounted := connect_sockets_accounted sampleClosed s reached
  exact ⟨s, reached, replaced, removed, closings, accounted.1, accounted.2.2.1⟩

end VpnTunnel.Server
