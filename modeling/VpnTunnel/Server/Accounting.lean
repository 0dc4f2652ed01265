import VpnTunnel.Server.ConnectionCounts
import VpnTunnel.Server.HandleClient

namespace VpnTunnel.Server

open VpnTunnel.Crypto
open VpnTunnel.Foundation

/-! The slot that a thread takes from the limiter and gives back. -/

inductive SlotStage
  | waiting
  | holding
  | finished
  deriving DecidableEq

def HandlerPoint.stage : HandlerPoint → SlotStage
  | .accessControl | .connectionCap => .waiting
  | .handshake | .serving _ _ | .release => .holding
  | .close | .closed => .finished

namespace Handler

def stage (h : Handler) : SlotStage := h.point.stage

def admissions (h : Handler) : ℕ := h.log.count .admitted

def releases (h : Handler) : ℕ := h.log.count .released

/-- The log agrees with the stage: one admission and no release while the slot
is held, as many of either once the thread is past its `finally`. -/
def Accounted (h : Handler) : Prop :=
  match h.stage with
  | .waiting => h.admissions = 0 ∧ h.releases = 0
  | .holding => h.admissions = 1 ∧ h.releases = 0
  | .finished => h.releases = h.admissions ∧ h.admissions ≤ 1

/-- The thread's ip, admissions and releases are not touched. -/
structure SameSlot (first second : Handler) : Prop where
  ip : second.ip = first.ip
  admissions : second.admissions = first.admissions
  releases : second.releases = first.releases

variable {h : Handler}

theorem sameSlot_goto (point : HandlerPoint) : SameSlot h (h.goto point) :=
  ⟨rfl, rfl, rfl⟩

theorem sameSlot_record {action : HandlerAction} (admitted : action ≠ .admitted)
    (released : action ≠ .released) : SameSlot h (h.record action) where
  ip := rfl
  admissions := by
    rw [admissions, record, List.count_append, List.count_singleton,
      if_neg (by simpa using admitted)]
    rfl
  releases := by
    rw [releases, record, List.count_append, List.count_singleton,
      if_neg (by simpa using released)]
    rfl

theorem SameSlot.trans {first second third : Handler}
    (left : SameSlot first second) (right : SameSlot second third) :
    SameSlot first third where
  ip := right.ip.trans left.ip
  admissions := right.admissions.trans left.admissions
  releases := right.releases.trans left.releases

theorem SameSlot.accounted {first second : Handler} (same : SameSlot first second)
    (stage : second.stage = first.stage ∨
      first.stage = .waiting ∧ second.stage = .finished)
    (accounted : first.Accounted) : second.Accounted := by
  unfold Accounted at accounted ⊢
  rw [same.admissions, same.releases]
  rcases stage with stage | ⟨before, after⟩
  · rw [stage]
    exact accounted
  · rw [before] at accounted
    rw [after]
    obtain ⟨admitted, released⟩ := accounted
    constructor
    · rw [admitted, released]
    · omega

/-- Whether the thread holds one of the slots of `ip`. -/
def HoldsFor (h : Handler) (ip : Ip) : Prop := h.ip = ip ∧ h.stage = .holding

instance (h : Handler) (ip : Ip) : Decidable (h.HoldsFor ip) :=
  inferInstanceAs (Decidable (_ ∧ _))

theorem accounted_start (ip : Ip) : (start ip).Accounted := ⟨rfl, rfl⟩

theorem Accounted.record_admitted (accounted : h.Accounted)
    (waiting : h.stage = .waiting) {point : HandlerPoint}
    (holding : point.stage = .holding) :
    ((h.record .admitted).goto point).Accounted := by
  unfold Accounted at accounted
  rw [waiting] at accounted
  obtain ⟨admitted, released⟩ := accounted
  change match point.stage with
    | .waiting => _ | .holding => _ | .finished => _
  rw [holding]
  constructor
  · change (h.log ++ [HandlerAction.admitted]).count .admitted = 1
    rw [List.count_append]
    change h.admissions + 1 = 1
    omega
  · change (h.log ++ [HandlerAction.admitted]).count .released = 0
    rw [List.count_append]
    exact released

theorem Accounted.record_released (accounted : h.Accounted)
    (holding : h.stage = .holding) {point : HandlerPoint}
    (finished : point.stage = .finished) :
    ((h.record .released).goto point).Accounted := by
  unfold Accounted at accounted
  rw [holding] at accounted
  obtain ⟨admitted, released⟩ := accounted
  change match point.stage with
    | .waiting => _ | .holding => _ | .finished => _
  rw [finished]
  change (h.log ++ [HandlerAction.released]).count .released =
      (h.log ++ [HandlerAction.released]).count .admitted ∧
    (h.log ++ [HandlerAction.released]).count .admitted ≤ 1
  rw [List.count_append, List.count_append]
  change h.releases + 1 = h.admissions + 0 ∧ h.admissions + 0 ≤ 1
  omega

theorem Accounted.holding_iff (accounted : h.Accounted) :
    h.stage = .holding ↔ .admitted ∈ h.log ∧ .released ∉ h.log := by
  have admitted : .admitted ∈ h.log ↔ 0 < h.admissions :=
    List.count_pos_iff.symm
  have released : .released ∉ h.log ↔ h.releases = 0 :=
    List.count_eq_zero.symm
  rw [admitted, released]
  unfold Accounted at accounted
  cases stage : h.stage with
  | waiting =>
      rw [stage] at accounted
      simp [accounted.1]
  | holding =>
      rw [stage] at accounted
      simp [accounted.1, accounted.2]
  | finished =>
      rw [stage] at accounted
      simp only [reduceCtorEq, false_iff, not_and]
      omega

theorem Accounted.releases_le (accounted : h.Accounted) :
    h.releases ≤ h.admissions ∧ h.admissions ≤ 1 := by
  unfold Accounted at accounted
  split at accounted <;> omega

end Handler

/-! What one step of a thread does to the limiter's counts and to its slot. -/

inductive SlotStep (limiter : RateLimiter) (h : Handler) :
    RateLimiter → Handler → Prop
  | keep {after : RateLimiter} {next : Handler}
      (counts : limiter.SameCounts after) (slot : h.SameSlot next)
      (stage : next.stage = h.stage ∨
        h.stage = .waiting ∧ next.stage = .finished) :
      SlotStep limiter h after next
  | enter {now : ℚ} {point : HandlerPoint}
      (admitted : (limiter.tryAddConnection h.ip now).1 = true)
      (before : h.stage = .waiting) (after : point.stage = .holding) :
      SlotStep limiter h (limiter.tryAddConnection h.ip now).2
        ((h.record .admitted).goto point)
  | release {point : HandlerPoint}
      (before : h.stage = .holding) (after : point.stage = .finished) :
      SlotStep limiter h (limiter.removeConnection h.ip)
        ((h.record .released).goto point)

section

variable {P : Primitives} {limiter after : RateLimiter} {h next : Handler}

theorem SlotStep.goto {point : HandlerPoint}
    (counts : limiter.SameCounts after)
    (stage : point.stage = h.stage ∨
      h.stage = .waiting ∧ point.stage = .finished) :
    SlotStep limiter h after (h.goto point) :=
  .keep counts (Handler.sameSlot_goto point) stage

theorem SlotStep.logged {middle : Handler} {point : HandlerPoint}
    (counts : limiter.SameCounts after) (slot : h.SameSlot middle)
    (stage : point.stage = h.stage) :
    SlotStep limiter h after (middle.goto point) :=
  .keep counts (slot.trans (Handler.sameSlot_goto point)) (.inl stage)

theorem SlotStep.record {action : HandlerAction} {point : HandlerPoint}
    (counts : limiter.SameCounts after) (admitted : action ≠ .admitted)
    (released : action ≠ .released) (stage : point.stage = h.stage) :
    SlotStep limiter h after ((h.record action).goto point) :=
  .logged counts (Handler.sameSlot_record admitted released) stage

theorem SlotStep.sendReply {keys : SessionKeys} {msgType : MessageType}
    {payload : Bytes} {urandom : GcmNonce} {fault : Option PyError}
    (holding : h.stage = .holding) :
    SlotStep limiter h limiter
      (h.sendReply P keys msgType payload urandom fault) := by
  have passed : h.SameSlot (h.record (.passed msgType payload)) :=
    Handler.sameSlot_record nofun nofun
  unfold Handler.sendReply
  dsimp only
  split
  case h_1 => exact .logged (.refl limiter) passed holding.symm
  case h_2 frame built =>
    have framed : h.SameSlot
        ((h.record (.passed msgType payload)).record (.framed frame)) :=
      passed.trans (Handler.sameSlot_record nofun nofun)
    cases fault with
    | none => exact .logged (.refl limiter) framed holding.symm
    | some failure => exact .logged (.refl limiter) framed holding.symm

theorem serveStep_slot {keys : SessionKeys} {point : ServePoint}
    {event : HandlerEvent} (holding : h.stage = .holding)
    (stepped : serveStep P limiter h keys point event = some (after, next)) :
    SlotStep limiter h after next := by
  unfold serveStep at stepped
  split at stepped
  · split at stepped
    all_goals
      cases stepped
      exact .goto (.refl limiter) (.inl holding.symm)
  · split at stepped
    · cases stepped
      exact .goto (.refl limiter) (.inl holding.symm)
    · split at stepped
      · cases stepped
        exact .goto (.refl limiter) (.inl holding.symm)
      · cases stepped
        exact .record (.refl limiter) nofun nofun holding.symm
  · cases stepped
    exact .goto (limiter.sameCounts_touch _ _) (.inl holding.symm)
  · cases stepped
    exact .goto (limiter.sameCounts_findBucket _ _) (.inl holding.symm)
  · dsimp only at stepped
    split at stepped
    · cases stepped
      exact .record (limiter.sameCounts_consumeFor _ _) nofun nofun
        holding.symm
    · cases stepped
      exact .goto (limiter.sameCounts_consumeFor _ _) (.inl holding.symm)
  · cases stepped
    exact .sendReply holding
  · cases stepped
    exact .record (.refl limiter) nofun nofun holding.symm
  · cases stepped
    exact .sendReply holding
  · cases stepped

theorem afterException_slot (caught : h.afterException = some next) :
    SlotStep limiter h limiter next := by
  unfold Handler.afterException at caught
  split at caught
  case h_1 point | h_2 point =>
    cases caught
    exact .goto (.refl limiter) (.inr ⟨by rw [Handler.stage, point]; rfl, rfl⟩)
  case h_3 point | h_4 point =>
    cases caught
    exact .goto (.refl limiter) (.inl (by rw [Handler.stage, point]; rfl))
  all_goals cases caught

theorem handlerStep_slot {event : HandlerEvent}
    (stepped : handlerStep P limiter h event = some (after, next)) :
    SlotStep limiter h after next := by
  unfold handlerStep at stepped
  split at stepped
  · obtain ⟨caught, raised, pair⟩ := Option.map_eq_some_iff.mp stepped
    cases pair
    exact afterException_slot raised
  · split at stepped
    case h_1 allowed point _ =>
      have waiting : h.stage = .waiting := by rw [Handler.stage, point]; rfl
      cases stepped
      cases allowed with
      | true => exact .goto (.refl limiter) (.inl waiting.symm)
      | false => exact .goto (.refl limiter) (.inr ⟨waiting, rfl⟩)
    case h_2 now point _ =>
      have waiting : h.stage = .waiting := by rw [Handler.stage, point]; rfl
      dsimp only at stepped
      split at stepped
      case isTrue admitted =>
        cases stepped
        exact .enter admitted waiting rfl
      case isFalse refused =>
        cases stepped
        rcases limiter.tryAddConnection_cases h.ip now with
          ⟨result, -⟩ | ⟨result, -, -⟩
        · rw [result]
          exact .goto (.refl limiter) (.inr ⟨waiting, rfl⟩)
        · exact absurd (congrArg Prod.fst result) refused
    case h_3 outcome point _ =>
      have holding : h.stage = .holding := by rw [Handler.stage, point]; rfl
      split at stepped
      all_goals
        cases stepped
        exact .goto (.refl limiter) (.inl holding.symm)
    case h_4 keys point here =>
      have holding : h.stage = .holding := by rw [Handler.stage, point]; rfl
      exact serveStep_slot holding stepped
    case h_5 point _ =>
      cases stepped
      exact .release (by rw [Handler.stage, point]; rfl) rfl
    case h_6 point _ =>
      cases stepped
      exact .goto (.refl limiter) (.inl (by rw [Handler.stage, point]; rfl))
    case h_7 => cases stepped

theorem SlotStep.accounted (slot : SlotStep limiter h after next)
    (accounted : h.Accounted) : next.Accounted := by
  cases slot with
  | keep counts slot stage => exact slot.accounted stage accounted
  | enter admitted before after => exact accounted.record_admitted before after
  | release before after => exact accounted.record_released before after

theorem SlotStep.ip (slot : SlotStep limiter h after next) : next.ip = h.ip := by
  cases slot with
  | keep counts slot stage => exact slot.ip
  | enter admitted before after => rfl
  | release before after => rfl

/-- How a step changes whether the thread holds a slot of `ip`. -/
theorem SlotStep.connectionsFor (slot : SlotStep limiter h after next)
    (balanced : limiter.Balanced)
    (counted : h.stage = .holding → 0 < limiter.connectionsFor h.ip) (ip : Ip) :
    after.connectionsFor ip + (if h.HoldsFor ip then 1 else 0) =
      limiter.connectionsFor ip + (if next.HoldsFor ip then 1 else 0) := by
  cases slot with
  | keep counts slot stage =>
      have same : next.HoldsFor ip ↔ h.HoldsFor ip := by
        unfold Handler.HoldsFor
        rw [slot.ip]
        rcases stage with stage | ⟨before, finished⟩
        · rw [stage]
        · rw [before, finished]
          simp
      rw [counts.connectionsFor]
      simp only [same]
  | @enter now point admitted before after =>
      have idle : ¬ h.HoldsFor ip := by
        intro holds
        rw [Handler.HoldsFor, before] at holds
        cases holds.2
      have taken : ((h.record .admitted).goto point).HoldsFor ip ↔ ip = h.ip :=
        ⟨fun holds => holds.1.symm, fun same => ⟨same.symm, after⟩⟩
      rw [(balanced.recounted_tryAddConnection admitted).connectionsFor,
        if_neg idle]
      by_cases same : ip = h.ip
      · rw [if_pos same, if_pos (taken.mpr same), same]
        omega
      · rw [if_neg same, if_neg (mt taken.mp same)]
  | @release point before after =>
      have held : h.HoldsFor ip ↔ ip = h.ip :=
        ⟨fun holds => holds.1.symm, fun same => ⟨same.symm, before⟩⟩
      have idle : ¬ ((h.record .released).goto point).HoldsFor ip := by
        intro holds
        have stage : SlotStage.holding = .finished := holds.2.symm.trans after
        cases stage
      rw [(balanced.recounted_removeConnection (counted before)).connectionsFor,
        if_neg idle]
      by_cases same : ip = h.ip
      · rw [if_pos same, if_pos (held.mpr same), same]
        omega
      · rw [if_neg same, if_neg (mt held.mp same)]

theorem SlotStep.balanced (slot : SlotStep limiter h after next)
    (balanced : limiter.Balanced) : after.Balanced := by
  cases slot with
  | keep counts slot stage => exact balanced.of_sameCounts counts
  | enter admitted before after => exact balanced.tryAddConnection _ _
  | release before after => exact balanced.removeConnection _

theorem SlotStep.caps (slot : SlotStep limiter h after next)
    (balanced : limiter.Balanced)
    (counted : h.stage = .holding → 0 < limiter.connectionsFor h.ip) :
    after.maxPerIp = limiter.maxPerIp ∧ after.maxTotal = limiter.maxTotal := by
  cases slot with
  | keep counts slot stage => exact ⟨counts.perIp, counts.overall⟩
  | enter admitted before after =>
      have recounted := balanced.recounted_tryAddConnection admitted
      exact ⟨recounted.perIp, recounted.overall⟩
  | release before after =>
      have recounted := balanced.recounted_removeConnection (counted before)
      exact ⟨recounted.perIp, recounted.overall⟩

end

/-! The whole server. -/

/-- The limiter's counts are those of the threads that hold a slot. -/
structure ServerState.Accounted (maxPerIp maxTotal : ℤ) (s : ServerState) :
    Prop where
  balanced : s.limiter.Balanced
  perIp : s.limiter.maxPerIp = maxPerIp
  overall : s.limiter.maxTotal = maxTotal
  handlers : ∀ h ∈ s.handlers, h.Accounted
  counted : ∀ ip, s.limiter.connectionsFor ip =
    s.handlers.countP fun h => h.HoldsFor ip

section

variable {P : Primitives} {maxPerIp maxTotal : ℤ} {s next : ServerState}

theorem ServerState.Accounted.counted_pos
    (accounted : s.Accounted maxPerIp maxTotal) {h : Handler}
    (member : h ∈ s.handlers) (holding : h.stage = .holding) :
    0 < s.limiter.connectionsFor h.ip := by
  rw [accounted.counted, Int.natCast_pos, List.countP_pos_iff]
  exact ⟨h, member, decide_eq_true ⟨rfl, holding⟩⟩

theorem ServerState.Accounted.accept
    (accounted : s.Accounted maxPerIp maxTotal) (ip : Ip) :
    ({ s with handlers := s.handlers ++ [.start ip] } :
      ServerState).Accounted maxPerIp maxTotal where
  balanced := accounted.balanced
  perIp := accounted.perIp
  overall := accounted.overall
  handlers := by
    intro h member
    rcases List.mem_append.mp member with old | new
    · exact accounted.handlers h old
    · rw [List.mem_singleton.mp new]
      exact Handler.accounted_start ip
  counted := by
    intro other
    have idle : ¬ (Handler.start ip).HoldsFor other := by
      intro holds
      cases holds.2
    rw [List.countP_append, List.countP_singleton, accounted.counted]
    simp [idle]

theorem ServerState.Accounted.thread
    (accounted : s.Accounted maxPerIp maxTotal) {index : ℕ}
    {h moved : Handler} {after : RateLimiter}
    (found : s.handlers[index]? = some h)
    (slot : SlotStep s.limiter h after moved) :
    ({ limiter := after, handlers := s.handlers.set index moved } :
      ServerState).Accounted maxPerIp maxTotal := by
  obtain ⟨inside, here⟩ := List.getElem?_eq_some_iff.mp found
  have member : h ∈ s.handlers := List.mem_of_getElem? found
  have positive := accounted.counted_pos member
  have caps := slot.caps accounted.balanced positive
  exact
    { balanced := slot.balanced accounted.balanced
      perIp := caps.1.trans accounted.perIp
      overall := caps.2.trans accounted.overall
      handlers := by
        intro other present
        rcases List.mem_or_eq_of_mem_set present with old | rfl
        · exact accounted.handlers other old
        · exact slot.accounted (accounted.handlers h member)
      counted := by
        intro ip
        have moves := slot.connectionsFor accounted.balanced positive ip
        have before := accounted.counted ip
        have counts := congrArg (Nat.cast : ℕ → ℤ)
          (countP_set_add (fun h => h.HoldsFor ip) found moved)
        push_cast at counts
        change after.connectionsFor ip =
          ((s.handlers.set index moved).countP _ : ℕ)
        omega }

theorem ServerState.Accounted.step {event : ServerEvent}
    (accounted : s.Accounted maxPerIp maxTotal)
    (stepped : serverStep P s event = some next) :
    next.Accounted maxPerIp maxTotal := by
  cases event with
  | accept ip =>
      cases stepped
      exact accounted.accept ip
  | thread index event =>
      rw [serverStep] at stepped
      cases found : s.handlers[index]? with
      | none =>
          rw [found] at stepped
          cases stepped
      | some h =>
          rw [found] at stepped
          obtain ⟨⟨after, moved⟩, inner, rfl⟩ :=
            Option.map_eq_some_iff.mp stepped
          exact accounted.thread found (handlerStep_slot inner)

theorem ServerState.accounted_start {limiter : RateLimiter}
    (balanced : limiter.Balanced)
    (fresh : ∀ ip, limiter.connectionsFor ip = 0) :
    (ServerState.start limiter).Accounted limiter.maxPerIp limiter.maxTotal where
  balanced := balanced
  perIp := rfl
  overall := rfl
  handlers := nofun
  counted := fresh

end

/-- In every reachable state of the server the counts of the limiter are those
of the threads that were admitted and have not yet run `remove_connection`. -/
theorem connection_accounting (P : Primitives)
    (requestsPerSecond burst idleTimeout : ℚ) (maxPerIp maxTotal : ℤ)
    (capIp : 0 ≤ maxPerIp) (capTotal : 0 ≤ maxTotal)
    (events : List ServerEvent) (s : ServerState)
    (reached : run (serverStep P)
      (.start (.create requestsPerSecond burst maxPerIp maxTotal idleTimeout))
      events = some s) :
    (∀ ip, s.limiter.connectionsFor ip =
      s.handlers.countP fun h =>
        h.ip = ip ∧ .admitted ∈ h.log ∧ .released ∉ h.log) ∧
    s.limiter.totalConnections = tally s.limiter.connections ∧
    (∀ ip count, s.limiter.connections.lookup ip = some count →
      0 < count ∧ count ≤ maxPerIp) ∧
    s.limiter.totalConnections ≤ maxTotal ∧
    (∀ ip now, (s.limiter.tryAddConnection ip now).1 = false →
      (s.limiter.tryAddConnection ip now).2 = s.limiter) ∧
    (∀ h ∈ s.handlers, h.log.count .released ≤ h.log.count .admitted ∧
      h.log.count .admitted ≤ 1 ∧
      (h.point = .close ∨ h.point = .closed →
        h.log.count .released = h.log.count .admitted)) ∧
    (∀ ip, s.limiter.connectionsFor ip = 0 →
      s.limiter.removeConnection ip = s.limiter) := by
  have balanced : (RateLimiter.create requestsPerSecond burst maxPerIp maxTotal
      idleTimeout).Balanced := RateLimiter.balanced_create capIp capTotal
  have start := ServerState.accounted_start balanced (fun _ => rfl)
  have accounted : s.Accounted maxPerIp maxTotal :=
    run_invariant (fun _ _ _ holds stepped => holds.step stepped) reached start
  refine ⟨?_, accounted.balanced.total, ?_, ?_, ?_, ?_, ?_⟩
  · intro ip
    rw [accounted.counted, Int.natCast_inj]
    apply List.countP_congr
    intro h member
    rw [decide_eq_true_iff, decide_eq_true_iff, Handler.HoldsFor,
      (accounted.handlers h member).holding_iff]
  · intro ip count found
    have bound := accounted.balanced.perIp ip
    rw [RateLimiter.connectionsFor, found, accounted.perIp] at bound
    exact ⟨accounted.balanced.positive ip count found, bound⟩
  · rw [← accounted.overall]
    exact accounted.balanced.overall
  · intro ip now refused
    rcases s.limiter.tryAddConnection_cases ip now with
      ⟨result, -⟩ | ⟨result, -, -⟩
    · rw [result]
    · rw [result] at refused
      cases refused
  · intro h member
    have slot := accounted.handlers h member
    refine ⟨slot.releases_le.1, slot.releases_le.2, ?_⟩
    intro past
    have finished : h.stage = .finished := by
      rcases past with past | past <;> rw [Handler.stage, past] <;> rfl
    unfold Handler.Accounted at slot
    rw [finished] at slot
    exact slot.1
  · intro ip zero
    exact accounted.balanced.removeConnection_of_zero zero

/-- Two connections of one ip against a cap of one: the second is refused, and
the first still holds its slot. -/
theorem connection_accounting_second_refused :
    ∃ s, run (serverStep .transparent)
        (.start (.create 1 1 1 50 300))
        [.accept "10.0.0.1", .accept "10.0.0.1",
          .thread 0 (.whitelist true), .thread 1 (.whitelist true),
          .thread 0 (.tryAdd 0), .thread 1 (.tryAdd 0),
          .thread 1 .closed] = some s ∧
      s.limiter.connectionsFor "10.0.0.1" = 1 ∧
      s.limiter.connectionsFor "10.0.0.1" =
        s.handlers.countP fun h =>
          h.ip = "10.0.0.1" ∧ .admitted ∈ h.log ∧ .released ∉ h.log := by
  have ran : (run (serverStep .transparent)
      (.start (.create 1 1 1 50 300))
      [.accept "10.0.0.1", .accept "10.0.0.1",
        .thread 0 (.whitelist true), .thread 1 (.whitelist true),
        .thread 0 (.tryAdd 0), .thread 1 (.tryAdd 0),
        .thread 1 .closed]).map
          (fun s => s.limiter.connectionsFor "10.0.0.1") = some 1 := by
    decide +kernel
  obtain ⟨s, reached, count⟩ := Option.map_eq_some_iff.mp ran
  have law := connection_accounting .transparent 1 1 300 1 50 (by decide)
    (by decide) _ s reached
  exact ⟨s, reached, count, law.1 "10.0.0.1"⟩

end VpnTunnel.Server
