import VpnTunnel.Server.Accounting

namespace VpnTunnel.Server

open VpnTunnel.Crypto
open VpnTunnel.Foundation

/-! What a thread has behind it when it calls `forward_request`, read off the
events of the whole run. -/

def ownEvents (index : ℕ) : List ServerEvent → List HandlerEvent :=
  List.filterMap fun
    | .thread other event => if other = index then some event else none
    | .accept _ => none

/-- The limiter gave this answer at a step of the thread. -/
def Answered (P : Primitives) (start : ServerState) (past : List ServerEvent)
    (index : ℕ) (event : HandlerEvent) (answer : RateLimiter → Bool) : Prop :=
  ∃ before rest s, past = before ++ .thread index event :: rest ∧
    run (serverStep P) start before = some s ∧ answer s.limiter = true

/-- The ip's bucket, refilled up to now, has one token less afterwards. -/
def RateLimiter.TakesToken (before after : RateLimiter) (ip : Ip) (now : ℚ) : Prop :=
  ∃ bucket taken, before.buckets.lookup ip = some bucket ∧
    after.buckets.lookup ip = some taken ∧ 0 ≤ taken.tokens ∧
    taken.tokens + 1 =
      min bucket.capacity (bucket.tokens + (now - bucket.last) * bucket.rate)

/-- At position `grant` the thread's `check_rate` took a token of the ip's bucket,
and the thread has done nothing since. -/
def Granted (P : Primitives) (start : ServerState) (past : List ServerEvent)
    (index : ℕ) (ip : Ip) (grant : ℕ) : Prop :=
  ∃ before now rest s next, past = before ++ .thread index (.consumed now) :: rest ∧
    before.length = grant ∧ ownEvents index rest = [] ∧
    run (serverStep P) start before = some s ∧
    run (serverStep P) start (before ++ [.thread index (.consumed now)]) = some next ∧
    s.limiter.TakesToken next.limiter ip now

/-- The thread has been let in by the whitelist, by the caps and by its
handshake, and ends with these events. -/
def Served (P : Primitives) (start : ServerState) (past : List ServerEvent)
    (index : ℕ) (ip : Ip) (keys : SessionKeys) (latest : List HandlerEvent) :
    Prop :=
  ∃ now earlier,
    ownEvents index past =
      [.whitelist true, .tryAdd now, .handshaked (.ok keys)] ++ earlier ++
        latest ∧
    Answered P start past index (.tryAdd now) fun limiter =>
      (limiter.tryAddConnection ip now).1

/-- The stream gives a frame under the session's keys with this request. -/
def Carries (P : Primitives) (keys : SessionKeys) (stream : Sock)
    (request : Bytes) : Prop :=
  ∃ sessionId after,
    recvFrame P (some keys.encKey) (some keys.macKey) stream =
      .ok (.dataRequest, sessionId, request) after

section

variable {P : Primitives} {start : ServerState} {past : List ServerEvent}
  {index : ℕ} {ip : Ip} {keys : SessionKeys}

theorem ownEvents_append (first second : List ServerEvent) :
    ownEvents index (first ++ second) =
      ownEvents index first ++ ownEvents index second :=
  List.filterMap_append

theorem ownEvents_self (event : HandlerEvent) :
    ownEvents index (past ++ [.thread index event]) =
      ownEvents index past ++ [event] := by
  rw [ownEvents_append]
  simp [ownEvents]

def ServerEvent.Foreign (index : ℕ) : ServerEvent → Prop
  | .thread other _ => other ≠ index
  | .accept _ => True

theorem ownEvents_foreign {event : ServerEvent} (foreign : event.Foreign index) :
    ownEvents index (past ++ [event]) = ownEvents index past := by
  rw [ownEvents_append]
  cases event with
  | accept ip => simp [ownEvents]
  | thread other event =>
      have different : other ≠ index := foreign
      simp [ownEvents, different]

theorem Answered.snoc {event : HandlerEvent} {answer : RateLimiter → Bool}
    (answered : Answered P start past index event answer) (last : ServerEvent) :
    Answered P start (past ++ [last]) index event answer := by
  obtain ⟨before, rest, s, rfl, reached, yes⟩ := answered
  exact ⟨before, rest ++ [last], s, by simp, reached, yes⟩

theorem Answered.now {s : ServerState} {event : HandlerEvent}
    {answer : RateLimiter → Bool}
    (reached : run (serverStep P) start past = some s)
    (yes : answer s.limiter = true) :
    Answered P start (past ++ [.thread index event]) index event answer :=
  ⟨past, [], s, rfl, reached, yes⟩

theorem Granted.snoc {grant : ℕ} (granted : Granted P start past index ip grant)
    {event : ServerEvent} (foreign : event.Foreign index) :
    Granted P start (past ++ [event]) index ip grant := by
  obtain ⟨before, now, rest, s, next, rfl, position, quiet, token⟩ := granted
  refine ⟨before, now, rest ++ [event], s, next, by simp, position, ?_, token⟩
  rw [ownEvents_foreign foreign]
  exact quiet

theorem takesToken_of_consumeFor {limiter : RateLimiter} {now : ℚ}
    (yes : (limiter.consumeFor ip now).1 = true) :
    limiter.TakesToken (limiter.consumeFor ip now).2 ip now := by
  cases found : limiter.buckets.lookup ip with
  | none =>
      rw [RateLimiter.consumeFor, found] at yes
      cases yes
  | some bucket =>
      by_cases enough : 1 ≤ min bucket.capacity
          (bucket.tokens + (now - bucket.last) * bucket.rate)
      · have consumed : bucket.consume now 1 =
            (true, { bucket with
              tokens := min bucket.capacity
                (bucket.tokens + (now - bucket.last) * bucket.rate) - 1
              last := now }) :=
          if_pos enough
        rw [RateLimiter.consumeFor, found]
        dsimp only
        rw [consumed]
        exact ⟨bucket, _, found, AList.lookup_insert _, sub_nonneg.mpr enough,
          sub_add_cancel _ _⟩
      · have refused : (bucket.consume now 1).1 = false := congrArg Prod.fst (if_neg enough)
        rw [RateLimiter.consumeFor, found] at yes
        exact absurd (refused.symm.trans yes) Bool.false_ne_true

theorem Granted.now {s next : ServerState} {now : ℚ}
    (reached : run (serverStep P) start past = some s)
    (moved : run (serverStep P) start (past ++ [.thread index (.consumed now)]) =
      some next)
    (taken : s.limiter.TakesToken next.limiter ip now) :
    Granted P start (past ++ [.thread index (.consumed now)]) index ip
      past.length :=
  ⟨past, now, [], s, next, rfl, rfl, rfl, reached, moved, taken⟩

theorem Served.foreign {latest : List HandlerEvent}
    (served : Served P start past index ip keys latest) {event : ServerEvent}
    (foreign : event.Foreign index) :
    Served P start (past ++ [event]) index ip keys latest := by
  obtain ⟨now, earlier, own, admitted⟩ := served
  refine ⟨now, earlier, ?_, admitted.snoc event⟩
  rw [ownEvents_foreign foreign]
  exact own

theorem Served.snoc {latest : List HandlerEvent}
    (served : Served P start past index ip keys latest) (event : HandlerEvent) :
    Served P start (past ++ [.thread index event]) index ip keys
      (latest ++ [event]) := by
  obtain ⟨now, earlier, own, admitted⟩ := served
  refine ⟨now, earlier, ?_, admitted.snoc _⟩
  rw [ownEvents_self, own]
  simp

theorem Served.drop {first second : List HandlerEvent}
    (served : Served P start past index ip keys (first ++ second)) :
    Served P start past index ip keys second := by
  obtain ⟨now, earlier, own, admitted⟩ := served
  refine ⟨now, earlier ++ first, ?_, admitted⟩
  rw [own]
  simp

end

/-! The history at each point of `handle_client`. -/

def ServePoint.Past (P : Primitives) (start : ServerState)
    (past : List ServerEvent) (index : ℕ) (ip : Ip) (keys : SessionKeys) :
    ServePoint → Prop
  | .touch request => ∃ stream, Carries P keys stream request ∧
      Served P start past index ip keys [.received stream]
  | .findBucket request => ∃ stream touched, Carries P keys stream request ∧
      Served P start past index ip keys [.received stream, .touched touched]
  | .consume request => ∃ stream touched found,
      Carries P keys stream request ∧
      Served P start past index ip keys
        [.received stream, .touched touched, .foundBucket found]
  | .forward request => ∃ stream touched found consumed,
      Carries P keys stream request ∧
      Served P start past index ip keys
        [.received stream, .touched touched, .foundBucket found,
          .consumed consumed] ∧
      ∃ grant, Granted P start past index ip grant
  | .idleCheck | .receive | .rateError | .respond _ =>
      Served P start past index ip keys []

def HandlerPoint.Past (P : Primitives) (start : ServerState)
    (past : List ServerEvent) (index : ℕ) (ip : Ip) : HandlerPoint → Prop
  | .accessControl => ownEvents index past = []
  | .connectionCap => ownEvents index past = [.whitelist true]
  | .handshake => ∃ now,
      ownEvents index past = [.whitelist true, .tryAdd now] ∧
      Answered P start past index (.tryAdd now) fun limiter =>
        (limiter.tryAddConnection ip now).1
  | .serving keys point => point.Past P start past index ip keys
  | .release | .close | .closed => True

def Handler.Past (P : Primitives) (start : ServerState)
    (past : List ServerEvent) (index : ℕ) (h : Handler) : Prop :=
  h.point.Past P start past index h.ip

section

variable {P : Primitives} {start s : ServerState} {past : List ServerEvent}
  {index : ℕ} {h : Handler} {keys : SessionKeys}

theorem Handler.Past.foreign (behind : h.Past P start past index)
    {event : ServerEvent} (foreign : event.Foreign index) :
    h.Past P start (past ++ [event]) index := by
  obtain ⟨ip, point, log⟩ := h
  have own : ownEvents index (past ++ [event]) = ownEvents index past :=
    ownEvents_foreign foreign
  cases point with
  | accessControl => exact own.trans behind
  | connectionCap => exact own.trans behind
  | handshake =>
      obtain ⟨now, history, admitted⟩ := behind
      exact ⟨now, own.trans history, admitted.snoc event⟩
  | serving keys point =>
      cases point with
      | touch request =>
          obtain ⟨stream, carries, served⟩ := behind
          exact ⟨stream, carries, served.foreign foreign⟩
      | findBucket request =>
          obtain ⟨stream, touched, carries, served⟩ := behind
          exact ⟨stream, touched, carries, served.foreign foreign⟩
      | consume request =>
          obtain ⟨stream, touched, found, carries, served⟩ := behind
          exact ⟨stream, touched, found, carries, served.foreign foreign⟩
      | forward request =>
          obtain ⟨stream, touched, found, consumed, carries, served, grant,
            granted⟩ := behind
          exact ⟨stream, touched, found, consumed, carries,
            served.foreign foreign, grant, granted.snoc foreign⟩
      | idleCheck | receive | rateError | respond response =>
          exact Served.foreign behind foreign
  | release | close | closed => trivial

theorem Handler.Past.sendReply {latest : List HandlerEvent}
    (served : Served P start past index h.ip keys latest)
    (msgType : MessageType) (payload : Bytes) (urandom : GcmNonce)
    (fault : Option PyError) :
    (h.sendReply P keys msgType payload urandom fault).Past P start past
      index := by
  have idle : Served P start past index h.ip keys [] :=
    Served.drop (by rw [List.append_nil]; exact served)
  unfold Handler.sendReply
  dsimp only
  split
  · trivial
  · cases fault with
    | none => exact idle
    | some error => trivial

theorem Handler.Past.serveStep {point : ServePoint} {event : HandlerEvent}
    {after : RateLimiter} {next : Handler} {final : ServerState}
    (behind : point.Past P start past index h.ip keys)
    (reached : run (serverStep P) start past = some s)
    (moved : run (serverStep P) start (past ++ [.thread index event]) = some final)
    (limits : final.limiter = after)
    (stepped : serveStep P s.limiter h keys point event = some (after, next)) :
    next.Past P start (past ++ [.thread index event]) index := by
  have idle {latest : List HandlerEvent}
      (served : Served P start past index h.ip keys latest) :
      Served P start (past ++ [.thread index event]) index h.ip keys [] := by
    apply Served.drop
    rw [List.append_nil]
    exact served.snoc event
  unfold VpnTunnel.Server.serveStep at stepped
  split at stepped
  case h_1 now =>
    split at stepped
    · cases stepped
      trivial
    · cases stepped
      exact idle behind
  case h_2 stream =>
    split at stepped
    case h_1 => 
      cases stepped
      trivial
    case h_2 msgType sessionId request rest received =>
      split at stepped
      case isTrue => 
        cases stepped
        exact idle behind
      case isFalse isRequest =>
        cases stepped
        rw [ne_eq, not_not] at isRequest
        subst isRequest
        exact ⟨stream, ⟨sessionId, rest, received⟩, Served.snoc behind _⟩
  case h_3 request now =>
    cases stepped
    obtain ⟨stream, carries, served⟩ := behind
    exact ⟨stream, now, carries, served.snoc _⟩
  case h_4 request now =>
    cases stepped
    obtain ⟨stream, touched, carries, served⟩ := behind
    exact ⟨stream, touched, now, carries, served.snoc _⟩
  case h_5 request now =>
    obtain ⟨stream, touched, found, carries, served⟩ := behind
    dsimp only at stepped
    split at stepped
    case isTrue allowed =>
      cases stepped
      have taken := takesToken_of_consumeFor allowed
      rw [← limits] at taken
      exact ⟨stream, touched, found, now, carries, served.snoc _, past.length,
        .now reached moved taken⟩
    case isFalse =>
      cases stepped
      exact idle served
  case h_6 urandom fault =>
    cases stepped
    exact .sendReply (idle behind) .error rateLimitMessage urandom fault
  case h_7 request outcome =>
    cases stepped
    obtain ⟨_, _, _, _, -, served, -⟩ := behind
    exact idle served
  case h_8 response urandom fault =>
    cases stepped
    exact .sendReply (idle behind) .dataResponse response urandom fault
  case h_9 => cases stepped

theorem Handler.Past.step {event : HandlerEvent} {after : RateLimiter}
    {next : Handler} {final : ServerState} (behind : h.Past P start past index)
    (reached : run (serverStep P) start past = some s)
    (moved : run (serverStep P) start (past ++ [.thread index event]) = some final)
    (limits : final.limiter = after)
    (stepped : handlerStep P s.limiter h event = some (after, next)) :
    next.Past P start (past ++ [.thread index event]) index := by
  unfold handlerStep at stepped
  split at stepped
  · obtain ⟨caught, raised, pair⟩ := Option.map_eq_some_iff.mp stepped
    cases pair
    unfold Handler.afterException at raised
    split at raised <;> cases raised <;> trivial
  · unfold Handler.Past at behind
    split at stepped
    case h_1 allowed here _ =>
      rw [here] at behind
      cases stepped
      cases allowed with
      | true =>
          change ownEvents index _ = _
          rw [ownEvents_self, behind]
          rfl
      | false => trivial
    case h_2 now here _ =>
      rw [here] at behind
      dsimp only at stepped
      split at stepped
      case isTrue admitted =>
        cases stepped
        refine ⟨now, ?_, .now reached admitted⟩
        rw [ownEvents_self, behind]
        rfl
      case isFalse =>
        cases stepped
        trivial
    case h_3 outcome here _ =>
      rw [here] at behind
      obtain ⟨now, own, admitted⟩ := behind
      split at stepped
      case h_1 keys =>
        cases stepped
        refine ⟨now, [], ?_, admitted.snoc _⟩
        rw [ownEvents_self, own]
        rfl
      case h_2 =>
        cases stepped
        trivial
    case h_4 point here _ =>
      rw [here] at behind
      exact .serveStep behind reached moved limits stepped
    case h_5 | h_6 =>
      cases stepped
      trivial
    case h_7 => cases stepped

end

/-- Every thread has its history, and there are no events of threads to come. -/
structure ServerState.Past (P : Primitives) (s start : ServerState)
    (past : List ServerEvent) : Prop where
  handlers : ∀ (index : ℕ) (h : Handler), s.handlers[index]? = some h →
    h.Past P start past index
  fresh : ∀ index, s.handlers.length ≤ index → ownEvents index past = []

section

variable {P : Primitives} {start s next : ServerState}
  {past : List ServerEvent}

theorem ServerState.Past.step {event : ServerEvent}
    (behind : s.Past P start past)
    (reached : run (serverStep P) start past = some s)
    (stepped : serverStep P s event = some next) :
    next.Past P start (past ++ [event]) := by
  cases event with
  | accept ip =>
      cases stepped
      have foreign (index : ℕ) : (ServerEvent.accept ip).Foreign index := trivial
      constructor
      · intro index h found
        change (s.handlers ++ [.start ip])[index]? = some h at found
        rcases Nat.lt_or_ge index s.handlers.length with old | new
        · rw [List.getElem?_append_left old] at found
          exact (behind.handlers index h found).foreign (foreign index)
        · rw [List.getElem?_append_right new] at found
          obtain rfl := List.mem_singleton.mp (List.mem_of_getElem? found)
          change ownEvents index _ = []
          rw [ownEvents_foreign (foreign index)]
          exact behind.fresh index new
      · intro index beyond
        rw [List.length_append] at beyond
        rw [ownEvents_foreign (foreign index)]
        exact behind.fresh index (Nat.le_of_succ_le beyond)
  | thread moved event =>
      have ran : run (serverStep P) start (past ++ [.thread moved event]) = some next :=
        run_append_eq_some.mpr ⟨s, reached, run_cons_eq_some.mpr ⟨next, stepped, rfl⟩⟩
      rw [serverStep] at stepped
      cases found : s.handlers[moved]? with
      | none =>
          rw [found] at stepped
          cases stepped
      | some h =>
          rw [found] at stepped
          obtain ⟨⟨after, final⟩, inner, rfl⟩ :=
            Option.map_eq_some_iff.mp stepped
          obtain ⟨inside, -⟩ := List.getElem?_eq_some_iff.mp found
          constructor
          · intro index other there
            change (s.handlers.set moved final)[index]? = some other at there
            by_cases own : moved = index
            · subst own
              rw [List.getElem?_set_self inside] at there
              cases there
              exact (behind.handlers moved h found).step reached ran rfl inner
            · rw [List.getElem?_set_ne own] at there
              exact (behind.handlers index other there).foreign own
          · intro index beyond
            change (s.handlers.set moved final).length ≤ index at beyond
            rw [List.length_set] at beyond
            rw [ownEvents_foreign (by change moved ≠ index; omega)]
            exact behind.fresh index beyond

theorem ServerState.Past.of_run {limiter : RateLimiter}
    {events : List ServerEvent}
    (reached : run (serverStep P) (.start limiter) events = some s) :
    s.Past P (.start limiter) events := by
  have kept := @run_history _ _ (serverStep P)
    (fun past s => s.Past P (.start limiter) past) (.start limiter)
  refine kept ?_ ?_ reached
  · exact ⟨nofun, fun _ _ => rfl⟩
  · intro past state event next before behind stepped
    exact behind.step before stepped

end

/-! Tokens. -/

section

variable {P : Primitives} {start : ServerState}

/-- A thread that has spent a token does not spend it again: its next call needs
an event of its own after the grant. -/
theorem Granted.position_le {past rest : List ServerEvent} {index other : ℕ}
    {ip otherIp : Ip} {outcome : Except String Bytes} {grant : ℕ}
    (granted : Granted P start past index ip grant)
    (again : Granted P start
      (past ++ .thread index (.forwarded outcome) :: rest) other otherIp grant) :
    False := by
  obtain ⟨before, now, quiet, s, next, rfl, position, silent, -⟩ := granted
  obtain ⟨before', now', quiet', s', next', same, position', silent', -⟩ := again
  rw [List.append_assoc] at same
  obtain ⟨rfl, tail⟩ := List.append_inj same (position.trans position'.symm)
  cases tail
  have loud : ownEvents index
      (quiet ++ .thread index (.forwarded outcome) :: rest) ≠ [] := by
    rw [ownEvents_append]
    simp [ownEvents]
  exact loud silent'

/-- Two calls of `forward_request` with one token are one call. -/
theorem Granted.unique {events past rest past' rest' : List ServerEvent}
    {index index' : ℕ} {ip ip' : Ip} {outcome outcome' : Except String Bytes}
    {grant : ℕ}
    (here : events = past ++ .thread index (.forwarded outcome) :: rest)
    (there : events = past' ++ .thread index' (.forwarded outcome') :: rest')
    (granted : Granted P start past index ip grant)
    (granted' : Granted P start past' index' ip' grant) : past = past' := by
  rw [here] at there
  rcases List.append_eq_append_iff.mp there with
    ⟨middle, rfl, same⟩ | ⟨middle, rfl, same⟩
  · cases middle with
    | nil => exact (List.append_nil past).symm
    | cons event middle =>
        cases same
        exact (granted.position_le granted').elim
  · cases middle with
    | nil => exact List.append_nil past'
    | cons event middle =>
        cases same
        exact (granted'.position_le granted).elim

end

/-! How many threads forward at once. -/

def Handler.Forwarding (h : Handler) : Prop :=
  ∃ keys request, h.point = .serving keys (.forward request)

instance (h : Handler) : Decidable h.Forwarding :=
  match here : h.point with
  | .serving keys (.forward request) => isTrue ⟨keys, request, here⟩
  | .serving _ .idleCheck | .serving _ .receive | .serving _ (.touch _)
  | .serving _ (.findBucket _) | .serving _ (.consume _)
  | .serving _ .rateError | .serving _ (.respond _)
  | .accessControl | .connectionCap | .handshake | .release | .close
  | .closed => isFalse (by rintro ⟨_, _, other⟩; cases here.symm.trans other)

theorem Handler.Forwarding.holding {h : Handler} (forwarding : h.Forwarding) :
    h.stage = .holding := by
  obtain ⟨keys, request, here⟩ := forwarding
  rw [Handler.stage, here]
  rfl

section

variable {P : Primitives} {limiter after : RateLimiter} {h next : Handler}

theorem SlotStep.totalConnections (slot : SlotStep limiter h after next)
    (balanced : limiter.Balanced)
    (counted : h.stage = .holding → 0 < limiter.connectionsFor h.ip) :
    after.totalConnections + (if h.stage = .holding then 1 else 0) =
      limiter.totalConnections + (if next.stage = .holding then 1 else 0) := by
  cases slot with
  | keep counts slot stage =>
      rw [counts.total]
      rcases stage with stage | ⟨before, finished⟩
      · rw [stage]
      · rw [before, finished]
        rfl
  | @enter now point admitted before stage =>
      have recounted := balanced.recounted_tryAddConnection admitted
      have holding : ((h.record .admitted).goto point).stage = .holding := stage
      rw [recounted.total, before, holding]
      simp only [reduceCtorEq, if_true, if_false]
      omega
  | @release point before stage =>
      have recounted := balanced.recounted_removeConnection (counted before)
      have finished : ((h.record .released).goto point).stage = .finished := stage
      rw [recounted.total, before, finished]
      simp only [reduceCtorEq, if_true, if_false]
      omega

end

/-- `Accounted`, and the total counts the threads that hold a slot. -/
structure ServerState.Occupied (maxPerIp maxTotal : ℤ) (s : ServerState) :
    Prop where
  accounted : s.Accounted maxPerIp maxTotal
  total : s.limiter.totalConnections =
    s.handlers.countP fun h => h.stage = .holding

section

variable {P : Primitives} {maxPerIp maxTotal : ℤ} {s next : ServerState}

theorem ServerState.Occupied.step {event : ServerEvent}
    (occupied : s.Occupied maxPerIp maxTotal)
    (stepped : serverStep P s event = some next) :
    next.Occupied maxPerIp maxTotal := by
  refine ⟨occupied.accounted.step stepped, ?_⟩
  cases event with
  | accept ip =>
      cases stepped
      change s.limiter.totalConnections =
        ((s.handlers ++ [Handler.start ip]).countP _ : ℕ)
      rw [List.countP_append, occupied.total]
      rfl
  | thread index event =>
      rw [serverStep] at stepped
      cases found : s.handlers[index]? with
      | none =>
          rw [found] at stepped
          cases stepped
      | some h =>
          rw [found] at stepped
          obtain ⟨⟨after, moved⟩, inner, rfl⟩ :=
            Option.map_eq_some_iff.mp stepped
          have moves := (handlerStep_slot inner).totalConnections
            occupied.accounted.balanced
            (occupied.accounted.counted_pos (List.mem_of_getElem? found))
          have before := occupied.total
          have counts := congrArg (Nat.cast : ℕ → ℤ)
            (countP_set_add (fun h => h.stage = .holding) found moved)
          push_cast at counts
          change after.totalConnections =
            ((s.handlers.set index moved).countP _ : ℕ)
          omega

theorem ServerState.Occupied.of_run {requestsPerSecond burst idleTimeout : ℚ}
    (capIp : 0 ≤ maxPerIp) (capTotal : 0 ≤ maxTotal) {events : List ServerEvent}
    (reached : run (serverStep P)
      (.start (.create requestsPerSecond burst maxPerIp maxTotal idleTimeout))
      events = some s) : s.Occupied maxPerIp maxTotal := by
  have balanced : (RateLimiter.create requestsPerSecond burst maxPerIp maxTotal
      idleTimeout).Balanced := RateLimiter.balanced_create capIp capTotal
  have start := ServerState.accounted_start balanced (fun _ => rfl)
  exact run_invariant (fun _ _ _ occupied stepped => occupied.step stepped)
    reached ⟨start, rfl⟩

end

theorem forwarded_point {P : Primitives} {limiter after : RateLimiter}
    {h next : Handler} {outcome : Except String Bytes}
    (stepped : handlerStep P limiter h (.forwarded outcome) =
      some (after, next)) : h.Forwarding := by
  obtain ⟨ip, point, log⟩ := h
  cases point with
  | serving keys point =>
      cases point with
      | forward request => exact ⟨keys, request, rfl⟩
      | _ => cases stepped
  | _ => cases stepped

/-- What has happened before a call of `forward_request` by the thread `h`. -/
structure Mediated (P : Primitives) (start s : ServerState)
    (past : List ServerEvent) (index : ℕ) (h : Handler) (keys : SessionKeys)
    (request : Bytes) : Prop where
  point : h.point = .serving keys (.forward request)
  slot : .admitted ∈ h.log ∧ .released ∉ h.log
  counted : s.limiter.connectionsFor h.ip = s.handlers.countP fun other =>
    other.ip = h.ip ∧ .admitted ∈ other.log ∧ .released ∉ other.log
  checks : ∃ stream touched found consumed, Carries P keys stream request ∧
    Served P start past index h.ip keys
      [.received stream, .touched touched, .foundBucket found,
        .consumed consumed]
  token : ∃ grant, Granted P start past index h.ip grant

/-- In every run of the server each call of `forward_request` has all checks
behind it and a token of its own, and no more threads forward at a time than the
caps allow. -/
theorem complete_mediation (P : Primitives)
    (requestsPerSecond burst idleTimeout : ℚ) (maxPerIp maxTotal : ℤ)
    (capIp : 0 ≤ maxPerIp) (capTotal : 0 ≤ maxTotal)
    (events : List ServerEvent) (final : ServerState)
    (reached : run (serverStep P)
      (.start (.create requestsPerSecond burst maxPerIp maxTotal idleTimeout))
      events = some final) :
    let start := ServerState.start
      (.create requestsPerSecond burst maxPerIp maxTotal idleTimeout)
    (∀ past index outcome rest,
      events = past ++ .thread index (.forwarded outcome) :: rest →
      ∃ s h keys request, run (serverStep P) start past = some s ∧
        s.handlers[index]? = some h ∧
        Mediated P start s past index h keys request) ∧
    (∀ past index outcome rest ip past' index' outcome' rest' ip' grant,
      events = past ++ .thread index (.forwarded outcome) :: rest →
      events = past' ++ .thread index' (.forwarded outcome') :: rest' →
      Granted P start past index ip grant →
      Granted P start past' index' ip' grant → past = past') ∧
    (∀ ip, (final.handlers.countP fun h => h.ip = ip ∧ h.Forwarding) ≤
      maxPerIp) ∧
    (final.handlers.countP fun h => h.Forwarding) ≤ maxTotal := by
  intro start
  have occupied := ServerState.Occupied.of_run capIp capTotal reached
  refine ⟨?_, ?_, ?_, ?_⟩
  · rintro past index outcome rest rfl
    obtain ⟨s, before, stepped⟩ := run_append_eq_some.mp reached
    obtain ⟨next, forwards, -⟩ := run_cons_eq_some.mp stepped
    rw [serverStep] at forwards
    cases found : s.handlers[index]? with
    | none =>
        rw [found] at forwards
        cases forwards
    | some h =>
        rw [found] at forwards
        obtain ⟨⟨limiter, moved⟩, inner, -⟩ := Option.map_eq_some_iff.mp forwards
        obtain ⟨keys, request, here⟩ := forwarded_point inner
        have behind := (ServerState.Past.of_run before).handlers index h found
        unfold Handler.Past at behind
        rw [here] at behind
        obtain ⟨stream, touched, bucket, consumed, carries, served, token⟩ := behind
        have accounted := (ServerState.Occupied.of_run capIp capTotal
          before).accounted
        have slot := accounted.handlers h (List.mem_of_getElem? found)
        refine ⟨s, h, keys, request, before, found, here, ?_, ?_, ?_, token⟩
        · exact slot.holding_iff.mp (Handler.Forwarding.holding ⟨_, _, here⟩)
        · rw [accounted.counted, Int.natCast_inj]
          apply List.countP_congr
          intro other member
          rw [decide_eq_true_iff, decide_eq_true_iff, Handler.HoldsFor,
            (accounted.handlers other member).holding_iff]
        · exact ⟨stream, touched, bucket, consumed, carries, served⟩
  · intro past index outcome rest ip past' index' outcome' rest' ip' grant here
      there granted granted'
    exact Granted.unique here there granted granted'
  · intro ip
    have cap := occupied.accounted.balanced.perIp ip
    rw [occupied.accounted.counted, occupied.accounted.perIp] at cap
    refine le_trans (Int.ofNat_le.mpr (List.countP_mono_left ?_)) cap
    intro h _ forwards
    rw [decide_eq_true_iff] at forwards ⊢
    exact ⟨forwards.1, forwards.2.holding⟩
  · have cap := occupied.accounted.balanced.overall
    rw [occupied.total, occupied.accounted.overall] at cap
    refine le_trans (Int.ofNat_le.mpr (List.countP_mono_left ?_)) cap
    intro h _ forwards
    rw [decide_eq_true_iff] at forwards ⊢
    exact forwards.holding

/-! One client with one request. -/

def mediatedKeys : SessionKeys where
  sessionId := List.replicate sessionIdSize 1
  encKey := List.replicate aesKeySize 2
  macKey := List.replicate hmacDigestSize 3

/-- The stream of a client that has sent this one request. -/
def mediatedStream (request : Bytes) : Sock where
  incoming :=
    match buildFrame .transparent .dataRequest mediatedKeys.sessionId request
        (some mediatedKeys.encKey) (some mediatedKeys.macKey) zeroNonce with
    | .ok frame => frame
    | .error _ => []
  cuts := []
  ending := .eof
  outgoing := []

def mediatedPast : List ServerEvent :=
  .accept "10.0.0.1" :: [.whitelist true, .tryAdd 0, .handshaked (.ok mediatedKeys),
    .checkIdle 0, .received (mediatedStream [1]), .touched 0, .foundBucket 0,
    .consumed 0].map (.thread 0)

theorem complete_mediation_one_call :
    let start := ServerState.start (.create 1 1 1 50 300)
    ∃ s h keys request,
      run (serverStep .transparent) start mediatedPast = some s ∧
        s.handlers[0]? = some h ∧
        Mediated .transparent start s mediatedPast 0 h keys request := by
  intro start
  have ran : (run (serverStep .transparent) start
      (mediatedPast ++ [.thread 0 (.forwarded (.ok [2]))])).isSome = true := by
    decide +kernel
  obtain ⟨final, reached⟩ := Option.isSome_iff_exists.mp ran
  have law := complete_mediation .transparent 1 1 300 1 50 (by decide)
    (by decide) _ final reached
  exact law.1 mediatedPast 0 (.ok [2]) [] rfl

end VpnTunnel.Server
