import VpnTunnel.Server.Forwarder

namespace VpnTunnel.Server

open VpnTunnel.Crypto
open VpnTunnel.Foundation

/-! When browser connections that share `_connect_sessions` stay apart. -/

namespace Forwarder

structure Isolated (s : Forwarder) : Prop where
  written : ∀ sock ∈ s.socks, ∀ entry ∈ sock.written, entry.1 = sock.openedBy
  replied : ∀ sock ∈ s.socks, ∀ entry ∈ sock.replied, entry.1 = sock.openedBy
  removals : ∀ entry ∈ s.removals, ∃ sock, s.socks[entry.2]? = some sock ∧
    sock.openedBy = entry.1
  closings : ∀ entry ∈ s.closings, ∃ sock, s.socks[entry.2]? = some sock ∧
    sock.openedBy = entry.1
  /-- A session leaves the table by its own relay or under a new CONNECT. -/
  usable : ∀ index ∈ s.installed, ∀ sock, s.socks[index]? = some sock →
    s.connectSessions.lookup sock.target = some index ∨
      (sock.openedBy, index) ∈ s.removals ∨ index ∈ s.replaced

/-- What a relay answers with is what it has read from a socket that its own browser
connection opened for the target. -/
def RepliesLogged (s : Forwarder) : Prop :=
  ∀ self ∈ s.tasks, ∀ responseData closed,
    self.point = .done (relayResponse responseData closed) →
      ∃ sock ∈ s.socks, sock.target = self.target ∧ sock.openedBy = self.browser ∧
        (self.browser, responseData) ∈ sock.replied

/-- What a RELAY finds in the table under its target was put there by the latest
CONNECT of its own browser connection. -/
def OwnSession (s : Forwarder) : ForwarderEvent → Prop
  | .lookup task | .remove task =>
      ∀ self ∈ s.tasks[task]?, self.target ∈ s.connectSessions →
        s.lastConnect.lookup self.target = some self.browser
  | _ => True

instance (s : Forwarder) (event : ForwarderEvent) :
    Decidable (s.OwnSession event) :=
  match event with
  | .lookup task | .remove task => inferInstanceAs (Decidable
      (∀ self ∈ s.tasks[task]?, self.target ∈ s.connectSessions →
        s.lastConnect.lookup self.target = some self.browser))
  | .request _ _ | .connected _ | .connectFailed _ _ | .install _ | .sent _
  | .sendFailed _ _ _ | .chunk _ _ | .quiet _ | .eof _ | .close _ =>
      inferInstanceAs (Decidable True)

structure Owned (s : Forwarder) : Prop where
  entries : ∀ target index, s.connectSessions.lookup target = some index →
    ∃ browser, s.lastConnect.lookup target = some browser ∧
      s.Opened index target browser
  tasks : ∀ self ∈ s.tasks, ∀ index ∈ self.point.sock,
    s.Opened index self.target self.browser
  installed : ∀ index ∈ s.installed, index < s.socks.length
  isolated : s.Isolated

theorem owned_empty : Forwarder.empty.Owned where
  entries := by
    intro target index found
    cases found
  tasks := nofun
  installed := nofun
  isolated := ⟨nofun, nofun, nofun, nofun, nofun⟩

section

variable {s : Forwarder} {task : ℕ} {self : RelayTask}

theorem Owned.goto (owned : s.Owned) (found : s.tasks[task]? = some self)
    (point : RelayPoint) (own : ∀ index ∈ point.sock,
      s.Opened index self.target self.browser) : (s.goto task point).Owned where
  entries := owned.entries
  tasks := by
    intro other member index used
    rcases mem_goto found member with old | rfl
    · exact owned.tasks other old index used
    · exact own index used
  installed := owned.installed
  isolated := ⟨owned.isolated.written, owned.isolated.replied,
    owned.isolated.removals, owned.isolated.closings, owned.isolated.usable⟩

theorem exists_openedBy_iff {index : ℕ} {browser : Browser} :
    (∃ sock, s.socks[index]? = some sock ∧ sock.openedBy = browser) ↔
      ∃ target, s.Opened index target browser := by
  constructor
  · rintro ⟨sock, found, opened⟩
    exact ⟨sock.target, sock, found, rfl, opened⟩
  · rintro ⟨target, sock, found, -, opened⟩
    exact ⟨sock, found, opened⟩

theorem Owned.log {write : TargetSock → TargetSock} (owned : s.Owned)
    {index : ℕ} {host : String} {browser : Browser}
    (own : s.Opened index host browser)
    (target : ∀ sock, (write sock).target = sock.target)
    (openedBy : ∀ sock, (write sock).openedBy = sock.openedBy)
    (written : ∀ sock, ∀ entry ∈ (write sock).written,
      entry ∈ sock.written ∨ entry.1 = browser)
    (replied : ∀ sock, ∀ entry ∈ (write sock).replied,
      entry ∈ sock.replied ∨ entry.1 = browser) :
    ({ s with socks := s.socks.modify index write } : Forwarder).Owned := by
  obtain ⟨self, here, -, opener⟩ := own
  have member : ∀ sock ∈ s.socks.modify index write,
      sock ∈ s.socks ∨ sock = write self := by
    intro sock inside
    obtain ⟨position, found⟩ := List.mem_iff_getElem?.mp inside
    rw [List.getElem?_modify] at found
    obtain ⟨before, there, same⟩ := Option.map_eq_some_iff.mp found
    by_cases moved : index = position
    · subst moved
      rw [if_pos rfl] at same
      obtain rfl := Option.some.inj (here.symm.trans there)
      exact .inr same.symm
    · rw [if_neg moved] at same
      subst same
      exact .inl (List.mem_of_getElem? there)
  have selfMember : self ∈ s.socks := List.mem_of_getElem? here
  exact
    { entries := by
        intro host found listed
        obtain ⟨browser, last, opened⟩ := owned.entries host found listed
        exact ⟨browser, last, (opened_modify target openedBy).mpr opened⟩
      tasks := by
        intro task present used local_
        exact (opened_modify target openedBy).mpr
          (owned.tasks task present used local_)
      installed := by
        intro index listed
        rw [List.length_modify]
        exact owned.installed index listed
      isolated :=
        { written := by
            intro sock inside entry logged
            rcases member sock inside with old | rfl
            · exact owned.isolated.written sock old entry logged
            · rw [openedBy]
              rcases written self entry logged with old | new
              · exact owned.isolated.written self selfMember entry old
              · exact new.trans opener.symm
          replied := by
            intro sock inside entry logged
            rcases member sock inside with old | rfl
            · exact owned.isolated.replied sock old entry logged
            · rw [openedBy]
              rcases replied self entry logged with old | new
              · exact owned.isolated.replied self selfMember entry old
              · exact new.trans opener.symm
          removals := by
            intro entry removed
            rw [exists_openedBy_iff]
            obtain ⟨host, opened⟩ :=
              exists_openedBy_iff.mp (owned.isolated.removals entry removed)
            exact ⟨host, (opened_modify target openedBy).mpr opened⟩
          closings := by
            intro entry closed
            rw [exists_openedBy_iff]
            obtain ⟨host, opened⟩ :=
              exists_openedBy_iff.mp (owned.isolated.closings entry closed)
            exact ⟨host, (opened_modify target openedBy).mpr opened⟩
          usable := by
            intro installed listed sock found
            obtain ⟨before, there, same, opened⟩ :=
              (opened_modify target openedBy).mp ⟨sock, found, rfl, rfl⟩
            rw [← same, ← opened]
            exact owned.isolated.usable installed listed before there } }

theorem Owned.wrote (owned : s.Owned) {index : ℕ} {host : String}
    {browser : Browser} (own : s.Opened index host browser) (data : Bytes) :
    (s.wrote index browser data).Owned := by
  refine owned.log own (fun _ => rfl) (fun _ => rfl) ?_
    (fun _ _ logged => .inl logged)
  intro sock entry logged
  rcases List.mem_append.mp logged with old | new
  · exact .inl old
  · rw [List.mem_singleton.mp new]
    exact .inr rfl

theorem Owned.replied (owned : s.Owned) {index : ℕ} {host : String}
    {browser : Browser} (own : s.Opened index host browser) (data : Bytes) :
    (s.replied index browser data).Owned := by
  refine owned.log own (fun _ => rfl) (fun _ => rfl)
    (fun _ _ logged => .inl logged) ?_
  intro sock entry logged
  rcases List.mem_append.mp logged with old | new
  · exact .inl old
  · rw [List.mem_singleton.mp new]
    exact .inr rfl

theorem Owned.connected (owned : s.Owned)
    (found : s.tasks[task]? = some self) :
    ({ s.goto task (.installing s.socks.length) with
        socks := s.socks ++ [.opened self.target self.browser] } :
      Forwarder).Owned := by
  have kept : ∀ {index host browser}, s.Opened index host browser →
      ({ s with socks := s.socks ++ [.opened self.target self.browser] } :
        Forwarder).Opened index host browser := by
    rintro index host browser ⟨sock, here, same⟩
    refine ⟨sock, ?_, same⟩
    change (s.socks ++ _)[index]? = some sock
    rw [List.getElem?_append_left (List.getElem?_eq_some_iff.mp here).1]
    exact here
  have added : ({ s with
      socks := s.socks ++ [.opened self.target self.browser] } : Forwarder).Owned :=
    { entries := by
        intro host index listed
        obtain ⟨browser, last, opened⟩ := owned.entries host index listed
        exact ⟨browser, last, kept opened⟩
      tasks := by
        intro other member index used
        exact kept (owned.tasks other member index used)
      installed := by
        intro index listed
        rw [List.length_append]
        exact Nat.lt_of_lt_of_le (owned.installed index listed)
          (Nat.le_add_right _ _)
      isolated :=
        { written := by
            intro sock member entry logged
            rcases List.mem_append.mp member with old | new
            · exact owned.isolated.written sock old entry logged
            · rw [List.mem_singleton.mp new] at logged
              cases logged
          replied := by
            intro sock member entry logged
            rcases List.mem_append.mp member with old | new
            · exact owned.isolated.replied sock old entry logged
            · rw [List.mem_singleton.mp new] at logged
              cases logged
          removals := by
            intro entry removed
            obtain ⟨host, opened⟩ :=
              exists_openedBy_iff.mp (owned.isolated.removals entry removed)
            exact exists_openedBy_iff.mpr ⟨host, kept opened⟩
          closings := by
            intro entry closed
            obtain ⟨host, opened⟩ :=
              exists_openedBy_iff.mp (owned.isolated.closings entry closed)
            exact exists_openedBy_iff.mpr ⟨host, kept opened⟩
          usable := by
            intro index listed sock here
            change (s.socks ++ _)[index]? = some sock at here
            rw [List.getElem?_append_left (owned.installed index listed)] at here
            exact owned.isolated.usable index listed sock here } }
  refine added.goto found (.installing s.socks.length) ?_
  rintro index used
  cases used
  exact ⟨_, List.getElem?_concat_length, rfl, rfl⟩

theorem Owned.install (owned : s.Owned) (found : s.tasks[task]? = some self)
    {index : ℕ} (own : s.Opened index self.target self.browser) :
    (s.install task self index).Owned := by
  have moved := owned.goto found (.done (buildResponse 200 [] [])) nofun
  exact
    { entries := by
        intro host entry listed
        change (s.connectSessions.insert self.target index).lookup host =
          some entry at listed
        change ∃ browser,
          (s.lastConnect.insert self.target self.browser).lookup host =
            some browser ∧ s.Opened entry host browser
        by_cases same : host = self.target
        · subst same
          rw [AList.lookup_insert] at listed
          cases listed
          exact ⟨self.browser, AList.lookup_insert _, own⟩
        · rw [AList.lookup_insert_ne same] at listed
          rw [AList.lookup_insert_ne same]
          exact owned.entries host entry listed
      tasks := moved.tasks
      installed := by
        intro other listed
        rcases List.mem_append.mp listed with old | new
        · exact owned.installed other old
        · rw [List.mem_singleton.mp new]
          obtain ⟨sock, here, -⟩ := own
          exact (List.getElem?_eq_some_iff.mp here).1
      isolated :=
        { written := owned.isolated.written
          replied := owned.isolated.replied
          removals := owned.isolated.removals
          closings := owned.isolated.closings
          usable := by
            intro other listed sock here
            change (s.connectSessions.insert self.target index).lookup
              sock.target = some other ∨ _ ∨ other ∈ s.replaced ++ _
            by_cases same : sock.target = self.target
            · rcases List.mem_append.mp listed with old | new
              · rcases owned.isolated.usable other old sock here with
                  present | removed | replaced
                · right
                  right
                  apply List.mem_append_right
                  rw [← same, present]
                  exact List.mem_singleton.mpr rfl
                · exact .inr (.inl removed)
                · exact .inr (.inr (List.mem_append_left _ replaced))
              · left
                rw [same, AList.lookup_insert, List.mem_singleton.mp new]
            · rcases List.mem_append.mp listed with old | new
              · rw [AList.lookup_insert_ne same]
                rcases owned.isolated.usable other old sock here with
                  present | removed | replaced
                · exact .inl present
                · exact .inr (.inl removed)
                · exact .inr (.inr (List.mem_append_left _ replaced))
              · obtain ⟨opened, there, target, -⟩ := own
                rw [List.mem_singleton.mp new] at here
                obtain rfl := Option.some.inj (here.symm.trans there)
                exact absurd target same } }

/-- What a RELAY finds in the table belongs to its own browser connection. -/
theorem Owned.opened_entry (owned : s.Owned)
    (latest : self.target ∈ s.connectSessions →
      s.lastConnect.lookup self.target = some self.browser) {index : ℕ}
    (listed : s.connectSessions.lookup self.target = some index) :
    s.Opened index self.target self.browser := by
  obtain ⟨browser, last, opened⟩ := owned.entries self.target index listed
  have present : self.target ∈ s.connectSessions := by
    rw [← AList.lookup_isSome, listed]
    rfl
  rw [latest present] at last
  cases last
  exact opened

theorem Owned.remove (owned : s.Owned) (found : s.tasks[task]? = some self)
    {point : RelayPoint} (own : ∀ index ∈ point.sock,
      s.Opened index self.target self.browser)
    (latest : self.target ∈ s.connectSessions →
      s.lastConnect.lookup self.target = some self.browser) :
    (s.remove task self point).Owned := by
  have moved := owned.goto found point own
  exact
    { entries := by
        intro host index listed
        change (s.connectSessions.erase self.target).lookup host =
          some index at listed
        by_cases same : host = self.target
        · rw [same, AList.lookup_erase] at listed
          cases listed
        · rw [AList.lookup_erase_ne same] at listed
          exact owned.entries host index listed
      tasks := moved.tasks
      installed := owned.installed
      isolated :=
        { written := owned.isolated.written
          replied := owned.isolated.replied
          removals := by
            intro entry removed
            rcases List.mem_append.mp removed with old | new
            · exact owned.isolated.removals entry old
            · obtain ⟨index, listed, rfl⟩ := List.mem_map.mp new
              exact exists_openedBy_iff.mpr
                ⟨_, owned.opened_entry latest (Option.mem_toList.mp listed)⟩
          closings := owned.isolated.closings
          usable := by
            intro index listed sock here
            change (s.connectSessions.erase self.target).lookup sock.target =
              some index ∨ (sock.openedBy, index) ∈ s.removals ++ _ ∨ _
            rcases owned.isolated.usable index listed sock here with
              present | removed | replaced
            · by_cases same : sock.target = self.target
              · rw [same] at present
                obtain ⟨opened, there, -, opener⟩ :=
                  owned.opened_entry latest present
                obtain rfl := Option.some.inj (here.symm.trans there)
                right
                left
                apply List.mem_append_right
                rw [present, opener]
                exact List.mem_singleton.mpr rfl
              · rw [AList.lookup_erase_ne same]
                exact .inl present
            · exact .inr (.inl (List.mem_append_left _ removed))
            · exact .inr (.inr replaced) } }

theorem Owned.closing (owned : s.Owned) {index : ℕ} {host : String}
    {browser : Browser} (own : s.Opened index host browser) :
    ({ s with closings := s.closings ++ [(browser, index)] } :
      Forwarder).Owned :=
  { owned with
    isolated := { owned.isolated with
      closings := by
        intro entry closed
        rcases List.mem_append.mp closed with old | new
        · exact owned.isolated.closings entry old
        · rw [List.mem_singleton.mp new]
          exact exists_openedBy_iff.mpr ⟨host, own⟩ } }

theorem Owned.advance {next : Forwarder} {event : ForwarderEvent}
    (owned : s.Owned) (found : s.tasks[task]? = some self)
    (guarded : s.OwnSession event) (move : TaskMove s task self event next) :
    next.Owned := by
  have own := owned.tasks self (List.mem_of_getElem? found)
  cases move with
  | connected here => exact owned.connected found
  | connectFailed here => exact owned.goto found _ nofun
  | @install sock here => exact owned.install found (own sock (by rw [here]; rfl))
  | missing here absent => exact owned.goto found _ nofun
  | found here present =>
      have opened := owned.opened_entry (guarded self found) present
      refine owned.goto found _ ?_
      intro index used
      split at used
      all_goals
        cases used
        exact opened
  | @sent sock here =>
      have opened := own sock (by rw [here]; rfl)
      refine (owned.wrote opened self.data).goto found _ ?_
      rintro index used
      cases used
      exact opened_wrote.mpr opened
  | @sendFailed sock count message here =>
      have opened := own sock (by rw [here]; rfl)
      refine (owned.wrote opened (self.data.take count)).goto found _ ?_
      rintro index used
      cases used
      exact opened_wrote.mpr opened
  | @more _ sock responseData longer here =>
      refine owned.goto found _ ?_
      rintro index used
      cases used
      exact own sock (by rw [here]; rfl)
  | @answer _ sock responseData received response here =>
      have opened := own sock (by rw [here]; rfl)
      exact (owned.replied opened received).goto found _ nofun
  | @eof sock responseData here =>
      refine owned.goto found _ ?_
      rintro index used
      cases used
      exact own sock (by rw [here]; rfl)
  | @finish sock responseData response here =>
      have opened := own sock (by rw [here]; rfl)
      exact (owned.replied opened responseData).remove found nofun
        (guarded self found)
  | @drop sock message here =>
      refine owned.remove found ?_ (guarded self found)
      rintro index used
      cases used
      exact own sock (by rw [here]; rfl)
  | @close sock message response here =>
      have opened := own sock (by rw [here]; rfl)
      have moved := owned.goto found (.done response) nofun
      exact moved.closing opened

theorem Owned.step {next : Forwarder} {event : ForwarderEvent} (owned : s.Owned)
    (guarded : s.OwnSession event) (move : ForwarderMove s event next) :
    next.Owned := by
  cases move with
  | @request browser request target data point started =>
      refine
        { owned with
          tasks := ?_
          isolated := ⟨owned.isolated.written, owned.isolated.replied,
            owned.isolated.removals, owned.isolated.closings,
            owned.isolated.usable⟩ }
      intro self member index used
      rcases List.mem_append.mp member with old | new
      · exact owned.tasks self old index used
      · rw [List.mem_singleton.mp new] at used
        unfold startPoint at started
        split at started
        case h_1 =>
          cases started
          exact absurd used (Option.not_mem_none index)
        case h_2 =>
          cases started
          exact absurd used (Option.not_mem_none index)
        case h_3 => cases started
  | task about found move => exact owned.advance found guarded move

end

/-! What a relay answers with. -/

section

variable {s next : Forwarder} {task : ℕ} {self : RelayTask}

/-- No socket is lost, and what is logged at it stays. -/
def LogsGrow (s next : Forwarder) : Prop :=
  ∀ sock ∈ s.socks, ∃ sock' ∈ next.socks, sock'.target = sock.target ∧
    sock'.openedBy = sock.openedBy ∧ sock.replied ⊆ sock'.replied

theorem logsGrow_of_mem (kept : s.socks ⊆ next.socks) : s.LogsGrow next :=
  fun sock member => ⟨sock, kept member, rfl, rfl, fun _ logged => logged⟩

theorem logsGrow_modify {index : ℕ} {write : TargetSock → TargetSock}
    (moved : next.socks = s.socks.modify index write)
    (target : ∀ sock, (write sock).target = sock.target)
    (openedBy : ∀ sock, (write sock).openedBy = sock.openedBy)
    (replied : ∀ sock, sock.replied ⊆ (write sock).replied) : s.LogsGrow next := by
  intro sock member
  obtain ⟨position, found⟩ := List.mem_iff_getElem?.mp member
  have there : next.socks[position]? =
      some (if index = position then write sock else sock) := by
    rw [moved, List.getElem?_modify, found]
    rfl
  refine ⟨_, List.mem_of_getElem? there, ?_⟩
  split
  · exact ⟨target sock, openedBy sock, replied sock⟩
  · exact ⟨rfl, rfl, fun _ logged => logged⟩

/-- A step that lets no relay end. -/
theorem RepliesLogged.keep (logged : s.RepliesLogged) (grow : s.LogsGrow next)
    (tasks : ∀ other ∈ next.tasks, other ∈ s.tasks ∨
      ∀ responseData closed, other.point ≠ .done (relayResponse responseData closed)) :
    next.RepliesLogged := by
  intro other member responseData closed ended
  rcases tasks other member with old | running
  · obtain ⟨sock, held, target, openedBy, entry⟩ := logged other old responseData closed ended
    obtain ⟨sock', held', target', openedBy', kept⟩ := grow sock held
    exact ⟨sock', held', target'.trans target, openedBy'.trans openedBy, kept entry⟩
  · exact absurd ended (running responseData closed)

theorem RepliesLogged.goto (logged : s.RepliesLogged) (grow : s.LogsGrow next)
    (found : s.tasks[task]? = some self) {point : RelayPoint}
    (moved : next.tasks = (s.goto task point).tasks)
    (running : ∀ responseData closed,
      point ≠ .done (relayResponse responseData closed)) : next.RepliesLogged := by
  apply logged.keep grow
  intro other member
  rw [moved] at member
  rcases mem_goto found member with old | rfl
  · exact .inl old
  · exact .inr running

/-- A relay that ends logs what it answers with. -/
theorem RepliesLogged.answer (logged : s.RepliesLogged) (found : s.tasks[task]? = some self)
    {index : ℕ} (own : s.Opened index self.target self.browser)
    {received : Bytes} {ended : Bool}
    (moved : next.tasks = (s.goto task (.done (relayResponse received ended))).tasks)
    (written : next.socks = (s.replied index self.browser received).socks) :
    next.RepliesLogged := by
  have grow : s.LogsGrow next :=
    logsGrow_modify written (fun _ => rfl) (fun _ => rfl)
      fun _ _ logged => List.mem_append_left _ logged
  intro other member responseData closed done
  rw [moved] at member
  rcases mem_goto found member with old | rfl
  · obtain ⟨sock, held, target, openedBy, entry⟩ := logged other old responseData closed done
    obtain ⟨sock', held', target', openedBy', kept⟩ := grow sock held
    exact ⟨sock', held', target'.trans target, openedBy'.trans openedBy, kept entry⟩
  · obtain ⟨sock, here, target, openedBy⟩ := own
    have same : received = responseData :=
      congrArg CanonicalResponse.body (RelayPoint.done.inj done)
    have there : next.socks[index]? = some { sock with
        replied := sock.replied ++ [(self.browser, received)] } := by
      rw [written, Forwarder.replied, List.getElem?_modify, here]
      exact congrArg some (if_pos rfl)
    refine ⟨_, List.mem_of_getElem? there, target, openedBy, ?_⟩
    rw [← same]
    exact List.mem_append_right _ List.mem_cons_self

theorem running_of_unanswered {point : RelayPoint} (going : point.response = none) :
    ∀ responseData closed, point ≠ .done (relayResponse responseData closed) := by
  rintro responseData closed rfl
  cases going

theorem running_of_plain {response : CanonicalResponse} (plain : response.closed = none) :
    ∀ responseData closed,
      RelayPoint.done response ≠ .done (relayResponse responseData closed) := by
  intro responseData closed same
  rw [RelayPoint.done.inj same] at plain
  cases plain

theorem RepliesLogged.advance {event : ForwarderEvent} (logged : s.RepliesLogged)
    (owned : s.Owned) (found : s.tasks[task]? = some self)
    (move : TaskMove s task self event next) : next.RepliesLogged := by
  have own := owned.tasks self (List.mem_of_getElem? found)
  have same : ∀ {other : Forwarder}, other.socks = s.socks → s.LogsGrow other :=
    fun socks => logsGrow_of_mem fun _ member => socks ▸ member
  have wrote (index : ℕ) (data : Bytes) {other : Forwarder}
      (socks : other.socks = (s.wrote index self.browser data).socks) : s.LogsGrow other :=
    logsGrow_modify socks (fun _ => rfl) (fun _ => rfl) fun _ _ logged => logged
  cases move with
  | connected here =>
      refine logged.goto (logsGrow_of_mem ?_) found rfl (running_of_unanswered rfl)
      exact fun _ member => List.mem_append_left _ member
  | connectFailed here plain => exact logged.goto (same rfl) found rfl (running_of_plain plain)
  | install here =>
      exact logged.goto (same rfl) found rfl (running_of_plain rfl)
  | missing here absent plain => exact logged.goto (same rfl) found rfl (running_of_plain plain)
  | found here present =>
      refine logged.goto (same rfl) found rfl (running_of_unanswered ?_)
      split <;> rfl
  | sent here => exact logged.goto (wrote _ _ rfl) found rfl (running_of_unanswered rfl)
  | sendFailed here => exact logged.goto (wrote _ _ rfl) found rfl (running_of_unanswered rfl)
  | more here => exact logged.goto (same rfl) found rfl (running_of_unanswered rfl)
  | @answer _ sock responseData received response here relayed =>
      subst relayed
      exact logged.answer found (own sock (by rw [here]; rfl)) rfl rfl
  | eof here => exact logged.goto (same rfl) found rfl (running_of_unanswered rfl)
  | @finish sock responseData response here relayed =>
      subst relayed
      exact logged.answer found (own sock (by rw [here]; rfl)) rfl rfl
  | drop here => exact logged.goto (same rfl) found rfl (running_of_unanswered rfl)
  | close here plain => exact logged.goto (same rfl) found rfl (running_of_plain plain)

theorem RepliesLogged.step {event : ForwarderEvent} (logged : s.RepliesLogged)
    (owned : s.Owned) (move : ForwarderMove s event next) : next.RepliesLogged := by
  cases move with
  | @request browser request target data point started =>
      have grow : s.LogsGrow
          { s with tasks := s.tasks ++ [{ browser, target, data, point }] } :=
        logsGrow_of_mem fun _ member => member
      apply logged.keep grow
      intro self member
      rcases List.mem_append.mp member with old | new
      · exact .inl old
      · right
        rw [List.mem_singleton.mp new]
        apply running_of_unanswered
        unfold startPoint at started
        split at started
        case h_1 =>
          cases started
          rfl
        case h_2 =>
          cases started
          rfl
        case h_3 => cases started
  | task about found move => exact logged.advance owned found move

end

end Forwarder

/-- Browser connections stay apart in every run in which a RELAY finds in the
table, when it looks its target up or removes it, only what its own browser
connection was the last to put there. -/
theorem connect_sessions_isolated (events : List ForwarderEvent) (s : Forwarder)
    (own : Along forwarderStep Forwarder.OwnSession .empty events)
    (reached : run forwarderStep .empty events = some s) :
    s.Isolated ∧ s.RepliesLogged := by
  have kept : ∀ (s : Forwarder) (event : ForwarderEvent) (next : Forwarder),
      s.Owned ∧ s.RepliesLogged → s.OwnSession event → forwarderStep s event = some next →
        next.Owned ∧ next.RepliesLogged := by
    rintro s event next ⟨owned, logged⟩ guarded stepped
    have move := forwarderStep_move stepped
    exact ⟨owned.step guarded move, logged.step owned move⟩
  obtain ⟨owned, logged⟩ := run_invariant_along kept own reached
    ⟨Forwarder.owned_empty, nofun⟩
  exact ⟨owned.isolated, logged⟩

/-- A browser connection opens a session, relays, and is told of the end. -/
def sampleRelay : List ForwarderEvent :=
  [.request 1 { method := "CONNECT", url := "a:443", body := [] },
    .connected 0, .install 0,
    .request 1 { method := "RELAY", url := "a:443", body := [9] },
    .lookup 1, .sent 1, .chunk 1 [7], .request 1
      { method := "RELAY", url := "a:443", body := [] },
    .lookup 2, .eof 2, .remove 2]

theorem connect_sessions_isolated_relay :
    ∃ s, run forwarderStep .empty sampleRelay = some s ∧
      s.socks.map TargetSock.written = [[(1, [9])]] ∧
      s.removals = [(1, 0)] ∧ s.Isolated ∧ s.RepliesLogged := by
  have ran : (run forwarderStep .empty sampleRelay).map
      (fun s => (s.socks.map TargetSock.written, s.removals)) =
        some ([[(1, [9])]], [(1, 0)]) := by
    decide +kernel
  have own : Along forwarderStep Forwarder.OwnSession .empty sampleRelay := by
    decide +kernel
  obtain ⟨s, reached, view⟩ := Option.map_eq_some_iff.mp ran
  obtain ⟨written, removals⟩ := Prod.mk.inj view
  exact ⟨s, reached, written, removals,
    connect_sessions_isolated sampleRelay s own reached⟩

/-- Two browser connections open sessions to one target; the first one's RELAY
goes to the second one's socket. -/
def sampleShared : List ForwarderEvent :=
  [.request 1 { method := "CONNECT", url := "a:443", body := [] },
    .connected 0, .install 0,
    .request 2 { method := "CONNECT", url := "a:443", body := [] },
    .connected 1, .install 1,
    .request 1 { method := "RELAY", url := "a:443", body := [9] },
    .lookup 2, .sent 2]

theorem connect_sessions_shared :
    ¬ ∀ (events : List ForwarderEvent) (s : Forwarder),
      run forwarderStep .empty events = some s → s.Isolated := by
  intro claimed
  have ran : (run forwarderStep .empty sampleShared).map
      (fun s => s.socks[1]?) =
        some (some { TargetSock.opened "a:443" 2 with written := [(1, [9])] }) := by
    decide +kernel
  obtain ⟨s, reached, found⟩ := Option.map_eq_some_iff.mp ran
  have isolated := claimed sampleShared s reached
  have same := isolated.written _ (List.mem_of_getElem? found) (1, [9])
    (List.mem_singleton.mpr rfl)
  exact absurd same (by decide)

end VpnTunnel.Server
