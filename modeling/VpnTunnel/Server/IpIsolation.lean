import VpnTunnel.Foundation.Purge
import VpnTunnel.Server.Accounting

namespace VpnTunnel.Server

open VpnTunnel.Crypto
open VpnTunnel.Foundation

/-! The limiter as one ip meets it: a bucket, a count and a timestamp. -/

structure IpLimiter where
  rps : ℚ
  burst : ℚ
  maxPerIp : ℤ
  maxTotal : ℤ
  idleTimeout : ℚ
  bucket : Option TokenBucket
  connections : Option ℤ
  lastActivity : Option ℚ
  deriving DecidableEq

namespace RateLimiter

def forIp (limiter : RateLimiter) (ip : Ip) : IpLimiter :=
  { rps := limiter.rps, burst := limiter.burst, maxPerIp := limiter.maxPerIp,
    maxTotal := limiter.maxTotal, idleTimeout := limiter.idleTimeout,
    bucket := limiter.buckets.lookup ip,
    connections := limiter.connections.lookup ip,
    lastActivity := limiter.lastActivity.lookup ip }

end RateLimiter

namespace IpLimiter

def connectionsFor (own : IpLimiter) : ℤ := own.connections.getD 0

def isIdle (own : IpLimiter) (now : ℚ) : Bool :=
  match own.lastActivity with
  | none => true
  | some last => now - last > own.idleTimeout

def touch (own : IpLimiter) (now : ℚ) : IpLimiter :=
  { own with lastActivity := some now }

def findBucket (own : IpLimiter) (now : ℚ) : IpLimiter :=
  { own with
    bucket := some (own.bucket.getD (TokenBucket.create own.rps own.burst now)) }

def consume (own : IpLimiter) (now : ℚ) : Bool × IpLimiter :=
  match own.bucket with
  | none => (false, own)
  | some bucket =>
      ((bucket.consume now 1).1,
        { own with bucket := some (bucket.consume now 1).2 })

/-- With no other ip connected, the total is the count. -/
def tryAdd (own : IpLimiter) (now : ℚ) : Bool × IpLimiter :=
  if own.maxTotal ≤ own.connectionsFor ∨ own.maxPerIp ≤ own.connectionsFor then
    (false, own)
  else
    (true, { own with
      connections := some (own.connectionsFor + 1), lastActivity := some now })

def remove (own : IpLimiter) : IpLimiter :=
  let connections :=
    if own.connectionsFor > 0 then some (own.connectionsFor - 1)
    else own.connections
  { own with connections := if connections = some 0 then none else connections }

end IpLimiter

/-- If the server is full, the ip has reached its own cap, or fills it alone. -/
def RateLimiter.Uncrowded (limiter : RateLimiter) (ip : Ip) : Prop :=
  limiter.maxTotal ≤ limiter.totalConnections →
    limiter.maxTotal ≤ limiter.connectionsFor ip ∨
      limiter.maxPerIp ≤ limiter.connectionsFor ip

instance (limiter : RateLimiter) (ip : Ip) :
    Decidable (limiter.Uncrowded ip) :=
  inferInstanceAs (Decidable (_ → _))

/-! Each method of the limiter does that to the ip it is called for, and nothing to
any other. -/

namespace RateLimiter

variable (limiter : RateLimiter) {ip other : Ip} (now : ℚ)

theorem isIdle_forIp : limiter.isIdle ip now = (limiter.forIp ip).isIdle now := rfl

theorem touch_forIp : (limiter.touch ip now).forIp ip = (limiter.forIp ip).touch now := by
  simp only [touch, forIp, IpLimiter.touch, AList.lookup_insert]

theorem touch_forIp_ne (elsewhere : ip ≠ other) :
    (limiter.touch other now).forIp ip = limiter.forIp ip := by
  simp only [touch, forIp, AList.lookup_insert_ne elsewhere]

theorem findBucket_forIp :
    (limiter.findBucket ip now).forIp ip = (limiter.forIp ip).findBucket now := by
  unfold findBucket
  split
  case isTrue present =>
    obtain ⟨bucket, found⟩ :=
      Option.isSome_iff_exists.mp (AList.lookup_isSome.mpr present)
    simp only [forIp, IpLimiter.findBucket, found, Option.getD_some]
  case isFalse absent =>
    have none_ := AList.lookup_eq_none.mpr absent
    simp only [forIp, IpLimiter.findBucket, none_, AList.lookup_insert,
      Option.getD_none]

theorem findBucket_forIp_ne (elsewhere : ip ≠ other) :
    (limiter.findBucket other now).forIp ip = limiter.forIp ip := by
  unfold findBucket
  split
  case isTrue => rfl
  case isFalse => simp only [forIp, AList.lookup_insert_ne elsewhere]

theorem consumeFor_forIp :
    ((limiter.consumeFor ip now).1, (limiter.consumeFor ip now).2.forIp ip) =
      (limiter.forIp ip).consume now := by
  unfold consumeFor
  cases found : limiter.buckets.lookup ip with
  | none => simp only [forIp, IpLimiter.consume, found]
  | some bucket => simp only [forIp, IpLimiter.consume, found, AList.lookup_insert]

theorem consumeFor_forIp_ne (elsewhere : ip ≠ other) :
    (limiter.consumeFor other now).2.forIp ip = limiter.forIp ip := by
  unfold consumeFor
  split
  case h_1 => rfl
  case h_2 => simp only [forIp, AList.lookup_insert_ne elsewhere]

theorem tryAddConnection_forIp (balanced : limiter.Balanced)
    (uncrowded : limiter.Uncrowded ip) :
    ((limiter.tryAddConnection ip now).1,
        (limiter.tryAddConnection ip now).2.forIp ip) =
      (limiter.forIp ip).tryAdd now := by
  have covered := balanced.connectionsFor_le_total ip
  rcases limiter.tryAddConnection_cases ip now with
    ⟨result, capped⟩ | ⟨result, room, below⟩
  · have refused : limiter.maxTotal ≤ limiter.connectionsFor ip ∨
        limiter.maxPerIp ≤ limiter.connectionsFor ip :=
      capped.elim uncrowded .inr
    rw [result]
    exact (if_pos refused).symm
  · have admitted : ¬ (limiter.maxTotal ≤ limiter.connectionsFor ip ∨
        limiter.maxPerIp ≤ limiter.connectionsFor ip) := by omega
    have alone : (limiter.forIp ip).tryAdd now =
        (true, { limiter.forIp ip with
          connections := some (limiter.connectionsFor ip + 1),
          lastActivity := some now }) := if_neg admitted
    rw [result, alone]
    simp only [forIp, AList.lookup_insert]

theorem tryAddConnection_forIp_ne (elsewhere : ip ≠ other) :
    (limiter.tryAddConnection other now).2.forIp ip = limiter.forIp ip := by
  rcases limiter.tryAddConnection_cases other now with
    ⟨result, -⟩ | ⟨result, -, -⟩
  · rw [result]
  · rw [result]
    simp only [forIp, AList.lookup_insert_ne elsewhere]

theorem removeConnection_forIp :
    (limiter.removeConnection ip).forIp ip = (limiter.forIp ip).remove := by
  have same : (limiter.forIp ip).connectionsFor = limiter.connectionsFor ip := rfl
  unfold removeConnection IpLimiter.remove
  rw [same]
  dsimp only
  by_cases some_ : limiter.connectionsFor ip > 0
  · simp only [if_pos some_, AList.lookup_insert]
    split
    case isTrue last => simp only [forIp, AList.lookup_erase]
    case isFalse => simp only [forIp, AList.lookup_insert]
  · simp only [if_neg some_]
    split
    case isTrue zero =>
      have zero' : (limiter.forIp ip).connections = some 0 := zero
      rw [if_pos zero']
      simp only [forIp, AList.lookup_erase]
    case isFalse more =>
      have more' : ¬ (limiter.forIp ip).connections = some 0 := more
      rw [if_neg more']

theorem removeConnection_forIp_ne (elsewhere : ip ≠ other) :
    (limiter.removeConnection other).forIp ip = limiter.forIp ip := by
  unfold removeConnection
  dsimp only
  split_ifs <;>
    simp only [forIp, AList.lookup_insert_ne elsewhere,
      AList.lookup_erase_ne elsewhere]

end RateLimiter

/-! A step of a thread, as its own ip and as the others meet it. -/

section

variable {P : Primitives} {first second limiter after : RateLimiter}
  {h next : Handler} {ip : Ip} {event : HandlerEvent}

def forOwn (ip : Ip) (result : RateLimiter × Handler) : IpLimiter × Handler :=
  (result.1.forIp ip, result.2)

theorem serveStep_alike (keys : SessionKeys) (point : ServePoint)
    (same : first.forIp h.ip = second.forIp h.ip) :
    (serveStep P first h keys point event).map (forOwn h.ip) =
      (serveStep P second h keys point event).map (forOwn h.ip) := by
  unfold serveStep
  split
  · rw [first.isIdle_forIp, second.isIdle_forIp, same]
    split_ifs <;> simp only [Option.map_some, forOwn, same]
  · split
    · simp only [Option.map_some, forOwn, same]
    · split_ifs <;> simp only [Option.map_some, forOwn, same]
  · simp only [Option.map_some, forOwn, RateLimiter.touch_forIp, same]
  · simp only [Option.map_some, forOwn, RateLimiter.findBucket_forIp, same]
  case h_5 request now =>
    have both : ((first.consumeFor h.ip now).1,
          (first.consumeFor h.ip now).2.forIp h.ip) =
        ((second.consumeFor h.ip now).1,
          (second.consumeFor h.ip now).2.forIp h.ip) := by
      rw [first.consumeFor_forIp, second.consumeFor_forIp, same]
    obtain ⟨allowed, left⟩ := Prod.mk.inj both
    simp only [allowed]
    split_ifs <;> simp only [Option.map_some, forOwn, left]
  · simp only [Option.map_some, forOwn, same]
  · simp only [Option.map_some, forOwn, same]
  · simp only [Option.map_some, forOwn, same]
  · rfl

/-- The thread goes on as its own part of the limiter tells it. -/
theorem handlerStep_alike (same : first.forIp h.ip = second.forIp h.ip)
    (balanced : first.Balanced) (balancedToo : second.Balanced)
    (uncrowded : ∀ now, event = .tryAdd now →
      first.Uncrowded h.ip ∧ second.Uncrowded h.ip) :
    (handlerStep P first h event).map (forOwn h.ip) =
      (handlerStep P second h event).map (forOwn h.ip) := by
  unfold handlerStep
  split
  case h_1 failure =>
    simp only [Option.map_map]
    apply congrArg (Option.map · h.afterException)
    funext next
    exact congrArg (·, next) same
  case h_2 =>
    split
    case h_1 allowed point _ =>
      simp only [Option.map_some, forOwn, same]
    case h_2 now point _ =>
      obtain ⟨here, there⟩ := uncrowded now rfl
      have both : ((first.tryAddConnection h.ip now).1,
            (first.tryAddConnection h.ip now).2.forIp h.ip) =
          ((second.tryAddConnection h.ip now).1,
            (second.tryAddConnection h.ip now).2.forIp h.ip) := by
        rw [first.tryAddConnection_forIp now balanced here,
          second.tryAddConnection_forIp now balancedToo there, same]
      obtain ⟨admitted, left⟩ := Prod.mk.inj both
      simp only [admitted]
      split_ifs <;> simp only [Option.map_some, forOwn, left]
    case h_3 outcome point _ =>
      cases outcome <;> simp only [Option.map_some, forOwn, same]
    case h_4 => exact serveStep_alike _ _ same
    case h_5 =>
      simp only [Option.map_some, forOwn, RateLimiter.removeConnection_forIp, same]
    case h_6 => simp only [Option.map_some, forOwn, same]
    case h_7 => rfl

theorem serveStep_foreign {keys : SessionKeys} {point : ServePoint}
    (elsewhere : ip ≠ h.ip)
    (stepped : serveStep P limiter h keys point event = some (after, next)) :
    after.forIp ip = limiter.forIp ip := by
  unfold serveStep at stepped
  split at stepped
  · split at stepped <;> cases stepped <;> rfl
  · split at stepped
    · cases stepped
      rfl
    · split at stepped <;> cases stepped <;> rfl
  · cases stepped
    exact limiter.touch_forIp_ne _ elsewhere
  · cases stepped
    exact limiter.findBucket_forIp_ne _ elsewhere
  · dsimp only at stepped
    split at stepped
    all_goals
      cases stepped
      exact limiter.consumeFor_forIp_ne _ elsewhere
  · cases stepped
    rfl
  · cases stepped
    rfl
  · cases stepped
    rfl
  · cases stepped

theorem handlerStep_foreign (elsewhere : ip ≠ h.ip)
    (stepped : handlerStep P limiter h event = some (after, next)) :
    after.forIp ip = limiter.forIp ip := by
  unfold handlerStep at stepped
  split at stepped
  · obtain ⟨caught, raised, pair⟩ := Option.map_eq_some_iff.mp stepped
    cases pair
    rfl
  · split at stepped
    · cases stepped
      rfl
    · dsimp only at stepped
      split at stepped
      all_goals
        cases stepped
        exact limiter.tryAddConnection_forIp_ne _ elsewhere
    · split at stepped <;> cases stepped <;> rfl
    · exact serveStep_foreign elsewhere stepped
    · cases stepped
      exact limiter.removeConnection_forIp_ne elsewhere
    · cases stepped
      rfl
    · cases stepped

end

/-! The server with the other ips left out. -/

def ofIp (ip : Ip) (h : Handler) : Bool := h.ip = ip

/-- The event without the other connections: it keeps its thread, which stands
where its ip's threads alone place it. -/
def ownEvent (ip : Ip) (s : ServerState) : ServerEvent → Option ServerEvent
  | .accept source => if source = ip then some (.accept source) else none
  | .thread index event =>
      match s.handlers[index]? with
      | none => none
      | some h =>
          if ofIp ip h then
            some (.thread (placeAmong (ofIp ip) s.handlers index) event)
          else none

def asksForSlot : ServerEvent → Option ℕ
  | .thread index (.tryAdd _) => some index
  | _ => none

/-- Where a thread of the ip asks for a slot, the server is not full of others. -/
def NotCrowdedOut (ip : Ip) (s : ServerState) (event : ServerEvent) : Prop :=
  ∀ index ∈ asksForSlot event, ∀ h ∈ s.handlers[index]?, h.ip = ip →
    s.limiter.Uncrowded ip

instance (ip : Ip) (s : ServerState) (event : ServerEvent) :
    Decidable (NotCrowdedOut ip s event) :=
  inferInstanceAs (Decidable (∀ index ∈ asksForSlot event,
    ∀ h ∈ s.handlers[index]?, h.ip = ip → s.limiter.Uncrowded ip))

/-- `alone` is what `s` is for the ip. -/
structure Mirrors (ip : Ip) (maxPerIp maxTotal : ℤ) (s alone : ServerState) :
    Prop where
  handlers : alone.handlers = s.handlers.filter (ofIp ip)
  limiter : s.limiter.forIp ip = alone.limiter.forIp ip
  accounted : s.Accounted maxPerIp maxTotal
  accountedToo : alone.Accounted maxPerIp maxTotal

section

variable {P : Primitives} {ip : Ip} {maxPerIp maxTotal : ℤ}
  {s alone next : ServerState} {event kept : ServerEvent}

theorem ServerState.Accounted.total_of_filter
    (accounted : alone.Accounted maxPerIp maxTotal)
    (only : ∀ h ∈ alone.handlers, h.ip = ip) :
    alone.limiter.totalConnections = alone.limiter.connectionsFor ip := by
  rw [accounted.balanced.total]
  apply tally_of_only
  intro other elsewhere
  have zero : alone.limiter.connectionsFor other = 0 := by
    rw [accounted.counted]
    apply Int.natCast_eq_zero.mpr
    apply List.countP_eq_zero.mpr
    intro h member holds
    have holds' : h.HoldsFor other := of_decide_eq_true holds
    exact elsewhere (holds'.1.symm.trans (only h member))
  cases found : alone.limiter.connections.lookup other with
  | none => rfl
  | some count =>
      have positive := accounted.balanced.positive other count found
      rw [RateLimiter.connectionsFor, found, Option.getD_some] at zero
      omega

theorem Mirrors.uncrowded (mirrors : Mirrors ip maxPerIp maxTotal s alone) :
    alone.limiter.Uncrowded ip := by
  intro full
  have only : ∀ h ∈ alone.handlers, h.ip = ip := by
    intro h member
    rw [mirrors.handlers] at member
    exact of_decide_eq_true (List.mem_filter.mp member).2
  have total := mirrors.accountedToo.total_of_filter only
  rw [total] at full
  exact .inl full

theorem Mirrors.own (mirrors : Mirrors ip maxPerIp maxTotal s alone)
    (guarded : NotCrowdedOut ip s event)
    (stepped : serverStep P s event = some next)
    (keeps : ownEvent ip s event = some kept) :
    ∃ also, serverStep P alone kept = some also ∧
      Mirrors ip maxPerIp maxTotal next also := by
  cases event with
  | accept source =>
      rw [ownEvent] at keeps
      split at keeps
      case isFalse => cases keeps
      case isTrue own =>
        cases keeps
        cases stepped
        refine ⟨_, rfl, ?_, mirrors.limiter, mirrors.accounted.accept source,
          mirrors.accountedToo.accept source⟩
        have kept : ofIp ip (.start source) = true := decide_eq_true own
        rw [mirrors.handlers, List.filter_append, List.filter_singleton, kept]
        rfl
  | thread index event =>
      rw [ownEvent] at keeps
      rw [serverStep] at stepped
      cases found : s.handlers[index]? with
      | none =>
          rw [found] at keeps
          cases keeps
      | some h =>
          rw [found] at keeps stepped
          dsimp only at keeps stepped
          split at keeps
          case isFalse => cases keeps
          case isTrue own =>
            cases keeps
            obtain ⟨⟨after, moved⟩, inner, rfl⟩ :=
              Option.map_eq_some_iff.mp stepped
            have here : h.ip = ip := of_decide_eq_true own
            subst here
            have place := getElem?_filter_placeAmong found own
            rw [← mirrors.handlers] at place
            have fits : ∀ now, event = .tryAdd now →
                s.limiter.Uncrowded h.ip ∧ alone.limiter.Uncrowded h.ip := by
              rintro now rfl
              exact ⟨guarded index rfl h found rfl, mirrors.uncrowded⟩
            have alike := handlerStep_alike (P := P) mirrors.limiter
              mirrors.accounted.balanced mirrors.accountedToo.balanced fits
            rw [inner, Option.map_some, eq_comm, Option.map_eq_some_iff] at alike
            obtain ⟨⟨after', moved'⟩, inner', looks⟩ := alike
            obtain ⟨left, rfl⟩ := Prod.mk.inj looks
            have slot := handlerStep_slot inner
            have still : ofIp h.ip moved' = true := decide_eq_true slot.ip
            refine ⟨⟨after', alone.handlers.set _ moved'⟩, ?_, ?_, left.symm,
              mirrors.accounted.thread found slot,
              mirrors.accountedToo.thread place (handlerStep_slot inner')⟩
            · rw [serverStep, place]
              dsimp only
              rw [inner']
              rfl
            · rw [mirrors.handlers, ← filter_set_of_pos found own still]

theorem Mirrors.elsewhere (mirrors : Mirrors ip maxPerIp maxTotal s alone)
    (stepped : serverStep P s event = some next)
    (drops : ownEvent ip s event = none) :
    Mirrors ip maxPerIp maxTotal next alone := by
  cases event with
  | accept source =>
      rw [ownEvent] at drops
      split at drops
      case isTrue => cases drops
      case isFalse other =>
        cases stepped
        refine ⟨?_, mirrors.limiter, mirrors.accounted.accept source,
          mirrors.accountedToo⟩
        have dropped : ofIp ip (.start source) = false := decide_eq_false other
        rw [mirrors.handlers, List.filter_append, List.filter_singleton, dropped]
        exact (List.append_nil _).symm
  | thread index event =>
      rw [ownEvent] at drops
      rw [serverStep] at stepped
      cases found : s.handlers[index]? with
      | none =>
          rw [found] at stepped
          cases stepped
      | some h =>
          rw [found] at drops stepped
          dsimp only at drops stepped
          split at drops
          case isTrue => cases drops
          case isFalse other =>
            obtain ⟨⟨after, moved⟩, inner, rfl⟩ :=
              Option.map_eq_some_iff.mp stepped
            have slot := handlerStep_slot inner
            have dropped : ofIp ip h = false := Bool.eq_false_iff.mpr other
            have still : ofIp ip moved = false := by
              rw [ofIp, slot.ip]
              exact dropped
            have away : ip ≠ h.ip := by
              intro same
              exact of_decide_eq_false dropped same.symm
            refine ⟨?_, ?_, mirrors.accounted.thread found slot,
              mirrors.accountedToo⟩
            · rw [filter_set_of_neg found dropped still, mirrors.handlers]
            · rw [handlerStep_foreign away inner, mirrors.limiter]

end

/-- As long as the server is not full of others when a client asks for a slot, the
other ips can as well not be there: the run without them exists, and in it the
client's threads do the same steps, with the same logs, and its bucket, its count
and its idle time end the same.  What `forward_request` gives each call is an event
that is kept; its table is shared by all ips and no part of this. -/
theorem ip_isolated (P : Primitives) (requestsPerSecond burst idleTimeout : ℚ)
    (maxPerIp maxTotal : ℤ) (capIp : 0 ≤ maxPerIp) (capTotal : 0 ≤ maxTotal)
    (ip : Ip) (events : List ServerEvent) (s : ServerState)
    (reached : run (serverStep P)
      (.start (.create requestsPerSecond burst maxPerIp maxTotal idleTimeout))
      events = some s)
    (room : Along (serverStep P) (NotCrowdedOut ip)
      (.start (.create requestsPerSecond burst maxPerIp maxTotal idleTimeout))
      events) :
    ∃ alone, run (serverStep P)
        (.start (.create requestsPerSecond burst maxPerIp maxTotal idleTimeout))
        (purge (serverStep P) (ownEvent ip)
          (.start (.create requestsPerSecond burst maxPerIp maxTotal idleTimeout))
          events) = some alone ∧
      alone.handlers = s.handlers.filter (ofIp ip) ∧
      alone.limiter.forIp ip = s.limiter.forIp ip := by
  have balanced : (RateLimiter.create requestsPerSecond burst maxPerIp maxTotal
      idleTimeout).Balanced := RateLimiter.balanced_create capIp capTotal
  have start := ServerState.accounted_start balanced (fun _ => rfl)
  obtain ⟨alone, ran, mirrors⟩ :=
    run_purge (Mirrors ip maxPerIp maxTotal)
      (fun _ _ _ _ _ related guarded stepped kept =>
        related.own guarded stepped kept)
      (fun _ _ _ _ related stepped dropped => related.elsewhere stepped dropped)
      room reached ⟨rfl, rfl, start, start⟩
  exact ⟨alone, ran, mirrors.handlers, mirrors.limiter.symm⟩

/-- Two clients against a total of two: the one that comes second is admitted as
if it had been the first. -/
theorem ip_isolated_second_client :
    ∃ alone, run (serverStep .transparent) (.start (.create 1 1 1 2 300))
        (purge (serverStep .transparent) (ownEvent "10.0.0.2")
          (.start (.create 1 1 1 2 300))
          [.accept "10.0.0.1", .accept "10.0.0.2",
            .thread 1 (.whitelist true), .thread 0 (.whitelist true),
            .thread 0 (.tryAdd 0), .thread 1 (.tryAdd 0)]) = some alone ∧
      alone.handlers =
        [{ ip := "10.0.0.2", point := .handshake, log := [.admitted] }] := by
  have ran : (run (serverStep .transparent) (.start (.create 1 1 1 2 300))
      [.accept "10.0.0.1", .accept "10.0.0.2",
        .thread 1 (.whitelist true), .thread 0 (.whitelist true),
        .thread 0 (.tryAdd 0), .thread 1 (.tryAdd 0)]).map
          (fun s => s.handlers.filter (ofIp "10.0.0.2")) =
      some [{ ip := "10.0.0.2", point := .handshake, log := [.admitted] }] := by
    decide +kernel
  obtain ⟨s, reached, logged⟩ := Option.map_eq_some_iff.mp ran
  obtain ⟨alone, alsoRan, same, -⟩ := ip_isolated .transparent 1 1 300 1 2
    (by decide) (by decide) "10.0.0.2" _ s reached (by decide +kernel)
  exact ⟨alone, alsoRan, same.trans logged⟩

end VpnTunnel.Server
