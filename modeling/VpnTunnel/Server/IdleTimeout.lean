import VpnTunnel.Server.Mediation

namespace VpnTunnel.Server

open VpnTunnel.Crypto
open VpnTunnel.Foundation

/-! Whose activity an idle check sees: `_last_activity` has one timestamp for an
ip, which every connection from there writes. -/

structure Stamp where
  connection : ℕ
  ip : Ip
  reading : ℚ
  deriving DecidableEq, Repr

/-- What the step of the thread writes to `_last_activity`. -/
def Handler.stamp (limiter : RateLimiter) (h : Handler) (event : HandlerEvent) :
    Option ℚ :=
  match h.point, event with
  | .connectionCap, .tryAdd now =>
      if (limiter.tryAddConnection h.ip now).1 then some now else none
  | .serving _ (.touch _), .touched now => some now
  | _, _ => none

def ServerState.stamp (s : ServerState) : ServerEvent → Option Stamp
  | .accept _ => none
  | .thread connection event => do
      let h ← s.handlers[connection]?
      let reading ← h.stamp s.limiter event
      return { connection, ip := h.ip, reading }

def stamps (P : Primitives) : ServerState → List ServerEvent → List Stamp
  | _, [] => []
  | s, event :: rest =>
      (s.stamp event).toList ++
        match serverStep P s event with
        | some next => stamps P next rest
        | none => []

def latestStamp (P : Primitives) (start : ServerState) (past : List ServerEvent)
    (ip : Ip) : Option Stamp :=
  ((stamps P start past).filter (·.ip = ip)).getLast?

/-- The connection was admitted at this reading of the clock, or has delivered a
DATA_REQUEST, which its handler has put down with this reading. -/
inductive Active (P : Primitives) (start : ServerState) (past : List ServerEvent)
    (connection : ℕ) (ip : Ip) (reading : ℚ) : Prop
  | admitted
      (admits : Answered P start past connection (.tryAdd reading) fun limiter =>
        (limiter.tryAddConnection ip reading).1)
  | delivered (before rest : List ServerEvent) (stream : Sock) (keys : SessionKeys)
      (request : Bytes)
      (here : past = before ++ .thread connection (.touched reading) :: rest)
      (last : (ownEvents connection before).getLast? = some (.received stream))
      (carries : Carries P keys stream request)

/-- Readings are subtracted without rounding. -/
def RecentlyActive (P : Primitives) (start : ServerState) (past : List ServerEvent)
    (connection : ℕ) (ip : Ip) (now idleTimeout : ℚ) : Prop :=
  ∃ reading, Active P start past connection ip reading ∧
    now - reading ≤ idleTimeout

/-- After these events the connection is at its idle check. -/
def AtCheck (P : Primitives) (start : ServerState) (past : List ServerEvent)
    (connection : ℕ) (ip : Ip) : Prop :=
  ∃ s h keys, run (serverStep P) start past = some s ∧
    s.handlers[connection]? = some h ∧ h.ip = ip ∧
    h.point = .serving keys .idleCheck

/-- The check lets it go on to read another frame. -/
def PassesCheck (P : Primitives) (start : ServerState) (past : List ServerEvent)
    (connection : ℕ) (ip : Ip) (now : ℚ) : Prop :=
  ∃ s h after moved keys, run (serverStep P) start past = some s ∧
    s.handlers[connection]? = some h ∧ h.ip = ip ∧
    h.point = .serving keys .idleCheck ∧
    handlerStep P s.limiter h (.checkIdle now) = some (after, moved) ∧
    moved.point = .serving keys .receive

/-- The connection has been inactive for too long, and another one of the ip was
the last to be active there and has not. -/
def Outlasts (P : Primitives) (start : ServerState) (past : List ServerEvent)
    (connection : ℕ) (ip : Ip) (now idleTimeout : ℚ) : Prop :=
  ¬ RecentlyActive P start past connection ip now idleTimeout ∧
    ∃ stamp, latestStamp P start past ip = some stamp ∧
      stamp.connection ≠ connection ∧ now - stamp.reading ≤ idleTimeout

/-! What a step writes. -/

section

variable {P : Primitives} {limiter after : RateLimiter} {h next : Handler}

/-- The limiter after a step that stamps the ip with this reading, or does not. -/
structure Stamped (limiter after : RateLimiter) (ip : Ip) (reading : Option ℚ) :
    Prop where
  idleTimeout : after.idleTimeout = limiter.idleTimeout
  lastActivity : after.lastActivity = match reading with
    | some now => limiter.lastActivity.insert ip now
    | none => limiter.lastActivity

theorem Stamped.refl (limiter : RateLimiter) (ip : Ip) :
    Stamped limiter limiter ip none :=
  ⟨rfl, rfl⟩

theorem stamped_findBucket (ip other : Ip) (now : ℚ) :
    Stamped limiter (limiter.findBucket ip now) other none := by
  unfold RateLimiter.findBucket
  split
  · exact .refl limiter other
  · exact ⟨rfl, rfl⟩

theorem stamped_consumeFor (ip other : Ip) (now : ℚ) :
    Stamped limiter (limiter.consumeFor ip now).2 other none := by
  unfold RateLimiter.consumeFor
  split
  · exact .refl limiter other
  · exact ⟨rfl, rfl⟩

theorem stamped_removeConnection (ip other : Ip) :
    Stamped limiter (limiter.removeConnection ip) other none := by
  unfold RateLimiter.removeConnection
  dsimp only
  split_ifs <;> exact ⟨rfl, rfl⟩

theorem stamped_tryAddConnection (ip : Ip) (now : ℚ) :
    Stamped limiter (limiter.tryAddConnection ip now).2 ip
      (if (limiter.tryAddConnection ip now).1 then some now else none) := by
  rcases limiter.tryAddConnection_cases ip now with
    ⟨refused, -⟩ | ⟨admitted, -, -⟩
  · rw [refused]
    exact .refl limiter ip
  · rw [admitted]
    exact ⟨rfl, rfl⟩

theorem serveStep_stamped {keys : SessionKeys} {point : ServePoint}
    {event : HandlerEvent} (here : h.point = .serving keys point)
    (stepped : serveStep P limiter h keys point event = some (after, next)) :
    Stamped limiter after h.ip (h.stamp limiter event) := by
  unfold serveStep at stepped
  unfold Handler.stamp
  rw [here]
  split at stepped
  case h_1 =>
    split at stepped
    · cases stepped
      exact .refl limiter h.ip
    · cases stepped
      exact .refl limiter h.ip
  case h_2 =>
    split at stepped
    · cases stepped
      exact .refl limiter h.ip
    · split at stepped
      · cases stepped
        exact .refl limiter h.ip
      · cases stepped
        exact .refl limiter h.ip
  case h_3 =>
    cases stepped
    exact ⟨rfl, rfl⟩
  case h_4 now =>
    cases stepped
    exact stamped_findBucket h.ip h.ip now
  case h_5 now =>
    dsimp only at stepped
    split at stepped
    · cases stepped
      exact stamped_consumeFor h.ip h.ip now
    · cases stepped
      exact stamped_consumeFor h.ip h.ip now
  case h_6 | h_7 | h_8 =>
    cases stepped
    exact .refl limiter h.ip
  case h_9 => cases stepped

theorem handlerStep_stamped {event : HandlerEvent}
    (stepped : handlerStep P limiter h event = some (after, next)) :
    Stamped limiter after h.ip (h.stamp limiter event) := by
  unfold handlerStep at stepped
  split at stepped
  case h_1 failure =>
    obtain ⟨caught, raised, pair⟩ := Option.map_eq_some_iff.mp stepped
    cases pair
    have silent : h.stamp limiter (.raised failure) = none := by
      unfold Handler.stamp
      split
      case h_1 same => cases same
      case h_2 same => cases same
      case h_3 => rfl
    rw [silent]
    exact .refl limiter h.ip
  case h_2 quiet =>
    split at stepped
    case h_4 keys point here => exact serveStep_stamped here stepped
    case h_2 now point =>
      unfold Handler.stamp
      rw [point]
      dsimp only at stepped
      split at stepped
      · cases stepped
        exact stamped_tryAddConnection h.ip now
      · cases stepped
        exact stamped_tryAddConnection h.ip now
    case h_5 point =>
      unfold Handler.stamp
      rw [point]
      cases stepped
      exact stamped_removeConnection h.ip h.ip
    case h_3 outcome point =>
      unfold Handler.stamp
      rw [point]
      split at stepped
      · cases stepped
        exact .refl limiter h.ip
      · cases stepped
        exact .refl limiter h.ip
    case h_1 point | h_6 point =>
      unfold Handler.stamp
      rw [point]
      cases stepped
      exact .refl limiter h.ip
    case h_7 => cases stepped

theorem serverStep_stamped {s s' : ServerState} {event : ServerEvent}
    (stepped : serverStep P s event = some s') :
    s'.limiter.idleTimeout = s.limiter.idleTimeout ∧
      s'.limiter.lastActivity = match s.stamp event with
        | some stamp => s.limiter.lastActivity.insert stamp.ip stamp.reading
        | none => s.limiter.lastActivity := by
  cases event with
  | accept ip =>
      cases stepped
      exact ⟨rfl, rfl⟩
  | thread connection event =>
      rw [serverStep] at stepped
      cases found : s.handlers[connection]? with
      | none =>
          rw [found] at stepped
          cases stepped
      | some h =>
          rw [found] at stepped
          obtain ⟨⟨after, moved⟩, inner, rfl⟩ := Option.map_eq_some_iff.mp stepped
          obtain ⟨kept, written⟩ := handlerStep_stamped inner
          refine ⟨kept, ?_⟩
          simp only [ServerState.stamp, found, Option.bind_eq_bind, Option.bind_some,
            Option.pure_def]
          rw [written]
          cases h.stamp s.limiter event with
          | none => rfl
          | some reading => rfl

end

/-! The stamps of a run, and what the timestamp of an ip is by then. -/

section

variable {P : Primitives} {start s : ServerState} {past : List ServerEvent}
  {event : ServerEvent}

theorem stamps_snoc (reached : run (serverStep P) start past = some s) :
    stamps P start (past ++ [event]) =
      stamps P start past ++ (s.stamp event).toList := by
  induction past generalizing start with
  | nil =>
      cases reached
      simp only [List.nil_append, stamps]
      cases serverStep P s event with
      | none => exact List.append_nil _
      | some next => exact List.append_nil _
  | cons first rest ih =>
      obtain ⟨next, stepped, remaining⟩ := run_cons_eq_some.mp reached
      simp only [List.cons_append, stamps, stepped]
      rw [ih remaining, List.append_assoc]

theorem mem_stamps {stamp : Stamp} (member : stamp ∈ stamps P start past) :
    ∃ before event rest s, past = before ++ event :: rest ∧
      run (serverStep P) start before = some s ∧ s.stamp event = some stamp := by
  induction past generalizing start with
  | nil => cases member
  | cons first rest ih =>
      rw [stamps] at member
      rcases List.mem_append.mp member with here | later
      · exact ⟨[], first, rest, start, rfl, rfl, Option.mem_toList.mp here⟩
      · split at later
        case h_1 next stepped =>
          obtain ⟨before, event, rest, s, rfl, reached, stamped⟩ := ih later
          exact ⟨first :: before, event, rest, s, rfl,
            run_cons_eq_some.mpr ⟨next, stepped, reached⟩, stamped⟩
        case h_2 => cases later

theorem active_of_stamp {limiter : RateLimiter} {stamp : Stamp}
    (member : stamp ∈ stamps P (.start limiter) past) :
    Active P (.start limiter) past stamp.connection stamp.ip stamp.reading := by
  obtain ⟨before, event, rest, s, here, reached, stamped⟩ := mem_stamps member
  cases event with
  | accept ip => cases stamped
  | thread connection event =>
      obtain ⟨h, found, marked⟩ := Option.bind_eq_some_iff.mp stamped
      obtain ⟨reading, wrote, same⟩ := Option.bind_eq_some_iff.mp marked
      cases same
      have behind := (ServerState.Past.of_run reached).handlers connection h found
      unfold Handler.Past at behind
      unfold Handler.stamp at wrote
      split at wrote
      case h_1 now point =>
        split at wrote
        case isTrue admits =>
          cases wrote
          exact .admitted ⟨before, rest, s, here, reached, admits⟩
        case isFalse => cases wrote
      case h_2 keys request now point =>
        cases wrote
        rw [point] at behind
        obtain ⟨stream, carries, _, earlier, own, -⟩ := behind
        refine .delivered before rest stream keys request here ?_ carries
        rw [own, List.getLast?_append]
        rfl
      case h_3 => cases wrote

/-- The timestamp of every ip is that of its latest stamp. -/
theorem lastActivity_eq_latestStamp {limiter : RateLimiter}
    (blank : limiter.lastActivity = ∅)
    (reached : run (serverStep P) (.start limiter) past = some s) :
    s.limiter.idleTimeout = limiter.idleTimeout ∧
      ∀ ip, s.limiter.lastActivity.lookup ip =
        (latestStamp P (.start limiter) past ip).map Stamp.reading := by
  have kept := @run_history _ _ (serverStep P)
    (fun past s => s.limiter.idleTimeout = limiter.idleTimeout ∧
      ∀ ip, s.limiter.lastActivity.lookup ip =
        (latestStamp P (.start limiter) past ip).map Stamp.reading)
    (.start limiter)
  refine kept ?_ ?_ reached
  · refine ⟨rfl, fun ip => ?_⟩
    change limiter.lastActivity.lookup ip = none
    rw [blank]
    exact AList.lookup_empty ip
  · intro past state event next before behind stepped
    obtain ⟨timeout, written⟩ := serverStep_stamped stepped
    refine ⟨timeout.trans behind.1, fun ip => ?_⟩
    rw [written, latestStamp, stamps_snoc before, List.filter_append,
      List.getLast?_append]
    cases state.stamp event with
    | none => exact behind.2 ip
    | some stamp =>
        by_cases same : stamp.ip = ip
        · subst same
          simp
        · rw [AList.lookup_insert_ne (Ne.symm same)]
          simp [same, behind.2 ip, latestStamp]

/-! The check. -/

section

variable {limiter : RateLimiter} {connection : ℕ} {ip : Ip} {now : ℚ}

theorem latest_of_passesCheck (blank : limiter.lastActivity = ∅)
    (passes : PassesCheck P (.start limiter) past connection ip now) :
    ∃ stamp, latestStamp P (.start limiter) past ip = some stamp ∧
      now - stamp.reading ≤ limiter.idleTimeout := by
  obtain ⟨s, h, after, moved, keys, reached, found, rfl, point, checked, goes⟩ := passes
  obtain ⟨timeout, latest⟩ := lastActivity_eq_latestStamp blank reached
  simp only [handlerStep, point, serveStep] at checked
  split at checked
  case isTrue =>
    cases checked
    cases goes
  case isFalse awake =>
    rw [RateLimiter.isIdle, latest, timeout] at awake
    cases written : latestStamp P (.start limiter) past h.ip with
    | none =>
        rw [written] at awake
        exact absurd rfl awake
    | some stamp =>
        rw [written] at awake
        refine ⟨stamp, rfl, ?_⟩
        simpa using awake

theorem passesCheck_of_latest (blank : limiter.lastActivity = ∅)
    (checked : AtCheck P (.start limiter) past connection ip) {stamp : Stamp}
    (written : latestStamp P (.start limiter) past ip = some stamp)
    (recent : now - stamp.reading ≤ limiter.idleTimeout) :
    PassesCheck P (.start limiter) past connection ip now := by
  obtain ⟨s, h, keys, reached, found, rfl, point⟩ := checked
  obtain ⟨timeout, latest⟩ := lastActivity_eq_latestStamp blank reached
  have awake : s.limiter.isIdle h.ip now = false := by
    rw [RateLimiter.isIdle, latest, timeout, written]
    exact decide_eq_false (not_lt.mpr recent)
  refine ⟨s, h, s.limiter, h.goto (.serving keys .receive), keys, reached, found, rfl,
    point, ?_, rfl⟩
  simp [handlerStep, point, serveStep, awake]

end

end

/-- In every run of the server, the connections that pass their idle check have
all been active within the timeout, exactly if at no check a connection that has
not is outlasted by another one of its ip. -/
theorem idle_connections_cut (P : Primitives)
    (requestsPerSecond burst idleTimeout : ℚ) (maxPerIp maxTotal : ℤ)
    (events : List ServerEvent) :
    let start := ServerState.start
      (.create requestsPerSecond burst maxPerIp maxTotal idleTimeout)
    (∀ past connection ip now rest,
      events = past ++ .thread connection (.checkIdle now) :: rest →
      PassesCheck P start past connection ip now →
      RecentlyActive P start past connection ip now idleTimeout) ↔
    (∀ past connection ip now rest,
      events = past ++ .thread connection (.checkIdle now) :: rest →
      AtCheck P start past connection ip →
      ¬ Outlasts P start past connection ip now idleTimeout) := by
  intro start
  constructor
  · rintro cut past connection ip now rest here checked
      ⟨inactive, stamp, written, other, recent⟩
    exact inactive (cut past connection ip now rest here
      (passesCheck_of_latest rfl checked written recent))
  · intro fair past connection ip now rest here passes
    obtain ⟨stamp, written, recent⟩ := latest_of_passesCheck rfl passes
    by_contra inactive
    have own : stamp.connection ≠ connection := by
      intro same
      have member := List.mem_filter.mp (List.mem_of_getLast? written)
      have active := active_of_stamp member.1
      rw [same, of_decide_eq_true member.2] at active
      exact inactive ⟨stamp.reading, active, recent⟩
    obtain ⟨s, h, -, -, keys, reached, found, same, point, -⟩ := passes
    exact fair past connection ip now rest here
      ⟨s, h, keys, reached, found, same, point⟩
      ⟨inactive, stamp, written, own, recent⟩

/-! Two connections of one ip.  The first sends frames that are no requests; the
second sends a request. -/

def strayFrames : Sock where
  incoming :=
    match buildFrame .transparent .error mediatedKeys.sessionId [1]
        (some mediatedKeys.encKey) (some mediatedKeys.macKey) zeroNonce with
    | .ok frame => frame
    | .error _ => []
  cuts := []
  ending := .timeout
  outgoing := []

def sharedIpPast : List ServerEvent :=
  [.accept "10.0.0.1", .accept "10.0.0.1"] ++
    [.whitelist true, .tryAdd 0, .handshaked (.ok mediatedKeys),
      .checkIdle 0].map (.thread 0) ++
    [.whitelist true, .tryAdd 0, .handshaked (.ok mediatedKeys), .checkIdle 0,
      .received (mediatedStream [1]), .touched 250].map (.thread 1) ++
    [.received strayFrames, .checkIdle 260, .received strayFrames].map (.thread 0)

theorem idle_connection_outlasted :
    let start := ServerState.start (.create 10 20 5 50 300)
    ¬ ∀ events past connection ip now rest,
        events = past ++ .thread connection (.checkIdle now) :: rest →
        PassesCheck .transparent start past connection ip now →
        RecentlyActive .transparent start past connection ip now 300 := by
  intro start cut
  have ran : ((run (serverStep .transparent) start sharedIpPast).bind fun s =>
      s.handlers[0]?.map fun h => (h.ip, h.point, s.limiter.isIdle h.ip 400)) =
      some ("10.0.0.1", .serving mediatedKeys .idleCheck, false) := by
    decide +kernel
  obtain ⟨s, reached, view⟩ := Option.bind_eq_some_iff.mp ran
  obtain ⟨h, found, parts⟩ := Option.map_eq_some_iff.mp view
  obtain ⟨ip, parts⟩ := Prod.mk.inj parts
  obtain ⟨point, awake⟩ := Prod.mk.inj parts
  obtain ⟨reading, active, recent⟩ := cut _ sharedIpPast 0 "10.0.0.1" 400 [] rfl
    ⟨s, h, s.limiter, h.goto (.serving mediatedKeys .receive), mediatedKeys, reached,
      found, ip, point, by simp [handlerStep, point, serveStep, awake], rfl⟩
  cases active with
  | admitted admits =>
      obtain ⟨before, rest, -, here, -⟩ := admits
      have member : ServerEvent.thread 0 (.tryAdd reading) ∈ sharedIpPast :=
        here ▸ List.mem_append_right _ List.mem_cons_self
      obtain rfl : reading = 0 := by simpa [sharedIpPast] using member
      exact absurd recent (by decide +kernel)
  | delivered before rest stream keys request here last carries =>
      have member : ServerEvent.thread 0 (.touched reading) ∈ sharedIpPast :=
        here ▸ List.mem_append_right _ List.mem_cons_self
      simp [sharedIpPast] at member

end VpnTunnel.Server
