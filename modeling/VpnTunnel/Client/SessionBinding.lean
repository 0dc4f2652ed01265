import VpnTunnel.Client.Attributes

namespace VpnTunnel.Client

open VpnTunnel.Crypto
open VpnTunnel.Foundation

/-! The socket that the attributes name is open, authenticated, and the one that
their session id and keys belong to. -/

/-- The frame carries the request under the session id and keys of the session. -/
def WrittenUnder (P : Primitives) (keys : SessionKeys) :
    SocketAction → Prop
  | .wrote request frame => ∃ urandom,
      buildFrame P .dataRequest keys.sessionId request (some keys.encKey)
        (some keys.macKey) urandom = .ok frame
  | .handshaked _ | .closed => False

/-- A socket that is open and authenticated, with what was written to it since. -/
def Live (P : Primitives) (keys : SessionKeys) (log : List SocketAction) : Prop :=
  ∃ writes, log = .handshaked keys :: writes ∧
    ∀ action ∈ writes, WrittenUnder P keys action

/-- The whole life of a socket: requests go out after the handshake, under what
it returned, and never after the socket was closed. -/
inductive Disciplined (P : Primitives) : List SocketAction → Prop
  | fresh : Disciplined P []
  | live {keys : SessionKeys} {log : List SocketAction}
      (alive : Live P keys log) : Disciplined P log
  | closed {keys : SessionKeys} {log : List SocketAction}
      (alive : Live P keys log) : Disciplined P (log ++ [.closed])

theorem Live.wrote {P : Primitives} {keys : SessionKeys}
    {log : List SocketAction} (alive : Live P keys log) {request frame : Bytes} {urandom : GcmNonce}
    (built : buildFrame P .dataRequest keys.sessionId request (some keys.encKey)
      (some keys.macKey) urandom = .ok frame) :
    Live P keys (log ++ [.wrote request frame]) := by
  obtain ⟨writes, rfl, under⟩ := alive
  refine ⟨writes ++ [.wrote request frame], rfl, ?_⟩
  intro action member
  rcases List.mem_append.mp member with earlier | last
  · exact under action earlier
  · obtain rfl := List.mem_singleton.mp last
    exact ⟨urandom, built⟩

theorem live_handshaked {P : Primitives} {keys : SessionKeys} :
    Live P keys [.handshaked keys] :=
  ⟨[], rfl, nofun⟩

namespace Tunnel

/-- The socket is the one whose handshake returned the triple in the attributes. -/
def Session (P : Primitives) (t : Tunnel) (sock : ℕ) : Prop :=
  ∃ keys log, t.sockets[sock]? = some log ∧ Live P keys log ∧
    t.attributes.sessionId = some keys.sessionId ∧
    t.attributes.encKey = some keys.encKey ∧
    t.attributes.macKey = some keys.macKey

structure Bound (P : Primitives) (t : Tunnel) : Prop where
  connected : t.attributes.connected = t.attributes.sock.isSome
  session : ∀ sock, t.attributes.sock = some sock → t.Session P sock

structure Disconnected (t : Tunnel) : Prop where
  sock : t.attributes.sock = none
  connected : t.attributes.connected = false

/-- The sockets have all been used as they should. -/
def Tidy (P : Primitives) (t : Tunnel) : Prop :=
  ∀ log ∈ t.sockets, Disciplined P log

/-- `self._sock` has been assigned; the socket was authenticated just now. -/
def Assigned (t : Tunnel) (keys : SessionKeys) : Prop :=
  ∃ sock, t.attributes.sock = some sock ∧
    t.sockets[sock]? = some [.handshaked keys]

section

variable {P : Primitives} {t : Tunnel} {keys : SessionKeys}

theorem Disconnected.bound (apart : t.Disconnected) : t.Bound P where
  connected := by rw [apart.connected, apart.sock]; rfl
  session := by
    intro sock named
    rw [apart.sock] at named
    cases named

theorem getElem?_record (sock index : ℕ) (action : SocketAction) :
    (t.record sock action).sockets[index]? = t.sockets[index]?.map fun log =>
      if sock = index then log ++ [action] else log := by
  change (t.sockets.modify sock _)[index]? = _
  rw [List.getElem?_modify]
  congr

theorem getElem?_record_self {sock : ℕ} {log : List SocketAction}
    (found : t.sockets[sock]? = some log) (action : SocketAction) :
    (t.record sock action).sockets[sock]? = some (log ++ [action]) := by
  rw [getElem?_record, found]
  simp

/-- Only the socket itself is changed. -/
theorem Tidy.record (tidy : t.Tidy P) {sock : ℕ} {log : List SocketAction}
    {action : SocketAction} (found : t.sockets[sock]? = some log)
    (allowed : Disciplined P (log ++ [action])) :
    (t.record sock action).Tidy P := by
  intro other member
  obtain ⟨index, at_⟩ := List.mem_iff_getElem?.mp member
  rw [getElem?_record] at at_
  obtain ⟨before, was, same⟩ := Option.map_eq_some_iff.mp at_
  by_cases own : sock = index
  · subst own
    obtain rfl := Option.some.inj (found.symm.trans was)
    rw [if_pos rfl] at same
    exact same ▸ allowed
  · rw [if_neg own] at same
    exact same ▸ tidy before (List.mem_of_getElem? was)

theorem tidy_closeSock (tidy : t.Tidy P) (bound : t.Bound P) :
    t.closeSock.Tidy P := by
  unfold closeSock
  split
  · exact tidy
  · rename_i sock named
    obtain ⟨keys, log, found, alive, -⟩ := bound.session sock named
    exact tidy.record found (.closed alive)

theorem tidy_append (tidy : t.Tidy P) :
    ({ t with sockets := t.sockets ++ [[]] } : Tunnel).Tidy P := by
  intro log member
  rcases List.mem_append.mp member with old | new
  · exact tidy log old
  · obtain rfl := List.mem_singleton.mp new
    exact .fresh

/-- Where the attributes name a socket, the request goes there, under its own
session. -/
theorem sendRequest_bound (tidy : t.Tidy P) (bound : t.Bound P)
    (named : t.attributes.sock ≠ none) (request : Bytes) (urandom : GcmNonce)
    (fault : Option PyError) {after : Tunnel} {outcome : Option PyError}
    (sent : t.sendRequest P request urandom fault = (after, outcome)) :
    after.Tidy P ∧ after.Bound P ∧ after.attributes.sock ≠ none := by
  obtain ⟨sock, here⟩ := Option.ne_none_iff_exists'.mp named
  obtain ⟨keys, log, found, alive, sid, enc, mac⟩ := bound.session sock here
  simp only [sendRequest, sid, enc, mac, here] at sent
  cases built : buildFrame P .dataRequest keys.sessionId request
      (some keys.encKey) (some keys.macKey) urandom with
  | error error =>
      rw [built] at sent
      cases sent
      exact ⟨tidy, bound, named⟩
  | ok frame =>
      rw [built] at sent
      cases sent
      have longer := alive.wrote built
      refine ⟨tidy.record found (.live longer), ⟨bound.connected, ?_⟩, named⟩
      intro other also
      obtain rfl := Option.some.inj (here.symm.trans also)
      exact ⟨keys, _, getElem?_record_self found _, longer, sid, enc, mac⟩

end

end Tunnel

/-! What is true at each statement under the lock. -/

def MethodPoint.inside : MethodPoint → Bool
  | .done _ | .waiting _ | .backoff _ _ _ => false
  | _ => true

/-- The attributes and the socket in a local variable, at a point inside. -/
def MethodPoint.Stage (P : Primitives) (t : Tunnel) : MethodPoint → Prop
  | .entered _ | .closeSock _ => t.Bound P
  | .clearSock _ => True
  | .clearConnected _ => t.attributes.sock = none
  | .openSock _ => t.Disconnected
  | .tcpConnect _ sock | .handshake _ sock =>
      t.Disconnected ∧ t.sockets[sock]? = some []
  | .setSock _ sock keys =>
      t.Disconnected ∧ t.sockets[sock]? = some [.handshaked keys]
  | .setSessionId _ keys => t.Assigned keys
  | .setEncKey _ keys =>
      t.Assigned keys ∧ t.attributes.sessionId = some keys.sessionId
  | .setMacKey _ keys =>
      t.Assigned keys ∧ t.attributes.sessionId = some keys.sessionId ∧
        t.attributes.encKey = some keys.encKey
  | .setConnected _ => ∃ sock, t.attributes.sock = some sock ∧ t.Session P sock
  | .sendFrame _ _ | .recvFrame _ _ => t.Bound P ∧ t.attributes.sock ≠ none
  | .done _ | .waiting _ | .backoff _ _ _ => True

def MethodPoint.Holds (P : Primitives) (point : MethodPoint) (t : Tunnel) :
    Prop :=
  t.Tidy P ∧ point.Stage P t

def Tunnel.Settled (P : Primitives) (t : Tunnel) : Prop :=
  t.Tidy P ∧ t.Bound P

section

variable {P : Primitives} {maxRetries : ℕ} {t : Tunnel}

/-- The deeds of the methods under the lock discipline. -/
abbrev MethodDeed.Allowed (P : Primitives) (point : MethodPoint) (t : Tunnel)
    (deed : Deed MethodPoint Tunnel) : Prop :=
  deed.Allowed (fun point => point.inside = true) (Tunnel.Settled P)
    (MethodPoint.Holds P) point t

theorem inside_nextAttempt (request : Bytes) (attempt : ℕ)
    (lastErr : Option PyError) :
    ¬ (nextAttempt maxRetries request attempt lastErr).inside = true := by
  unfold nextAttempt
  split <;> exact nofun

theorem inside_afterException (error : PyError) (method : Method) :
    ¬ (method.afterException error).inside = true := by
  cases method <;> exact nofun

/-- Every exception of `_do_connect` leaves the client disconnected. -/
theorem allowed_failed {point : MethodPoint} {method : Method} (error : PyError)
    (inside : point.inside = true)
    (apart : point.Holds P t → t.Disconnected) :
    MethodDeed.Allowed P point t
      (.release t (method.afterException error)) :=
  ⟨inside, inside_afterException error method,
    fun holds => ⟨holds.1, (apart holds).bound⟩⟩

theorem allowed_afterClose {point : MethodPoint} {after : Tunnel}
    (method : Method) (inside : point.inside = true)
    (holds : point.Holds P t → after.Tidy P ∧ after.Disconnected) :
    MethodDeed.Allowed P point t (method.afterClose after) := by
  cases method with
  | close =>
      refine ⟨inside, nofun, fun before => ?_⟩
      exact ⟨(holds before).1, (holds before).2.bound⟩
  | connect => exact ⟨inside, rfl, holds⟩
  | doRequest request attempt => exact ⟨inside, rfl, holds⟩
  | reconnect request attempt lastErr => exact ⟨inside, rfl, holds⟩

theorem allowed_afterConnect {point : MethodPoint} {after : Tunnel}
    (method : Method) (inside : point.inside = true)
    (holds : point.Holds P t →
      after.Settled P ∧ after.attributes.sock ≠ none) :
    MethodDeed.Allowed P point t (method.afterConnect after) := by
  cases method with
  | connect => exact ⟨inside, nofun, fun before => (holds before).1⟩
  | close => exact ⟨inside, nofun, fun before => (holds before).1⟩
  | doRequest request attempt =>
      refine ⟨inside, rfl, fun before => ?_⟩
      obtain ⟨⟨tidy, bound⟩, named⟩ := holds before
      exact ⟨tidy, bound, named⟩
  | reconnect request attempt lastErr =>
      exact ⟨inside, nofun, fun before => (holds before).1⟩

theorem allowed_sendFrame (maxRetries : ℕ) (request : Bytes) (attempt : ℕ)
    (urandom : GcmNonce) (fault : Option PyError) {deed : Deed MethodPoint Tunnel}
    (does : methodProgram P maxRetries (.sendFrame request attempt) t
      (.sent urandom fault) = some deed) :
    MethodDeed.Allowed P (.sendFrame request attempt) t deed := by
  rw [methodProgram] at does
  cases sent : t.sendRequest P request urandom fault with
  | mk after outcome =>
      rw [sent] at does
      have kept : (MethodPoint.sendFrame request attempt).Holds P t →
          after.Tidy P ∧ after.Bound P ∧ after.attributes.sock ≠ none := by
        rintro ⟨tidy, bound, named⟩
        exact Tunnel.sendRequest_bound tidy bound named request urandom fault
          sent
      cases outcome with
      | none =>
          cases does
          exact ⟨rfl, rfl, kept⟩
      | some error =>
          cases does
          exact ⟨rfl, nofun, fun before => ⟨(kept before).1, (kept before).2.1⟩⟩

theorem allowed_recvFrame (maxRetries : ℕ) (request : Bytes) (attempt : ℕ)
    (stream : Sock) {deed : Deed MethodPoint Tunnel}
    (does : methodProgram P maxRetries (.recvFrame request attempt) t
      (.received stream) = some deed) :
    MethodDeed.Allowed P (.recvFrame request attempt) t deed := by
  rw [methodProgram] at does
  have kept : (MethodPoint.recvFrame request attempt).Holds P t →
      t.Settled P := by
    rintro ⟨tidy, bound, -⟩
    exact ⟨tidy, bound⟩
  split at does
  · cases does
    exact ⟨rfl, nofun, kept⟩
  · cases does
    exact ⟨rfl, nofun, kept⟩

/-- No statement of the methods breaks the binding. -/
theorem methodProgram_lawful :
    Lawful (methodProgram P maxRetries) (fun point => point.inside = true)
      (Tunnel.Settled P) (MethodPoint.Holds P) := by
  intro point t event deed does
  change MethodDeed.Allowed P point t deed
  unfold methodProgram at does
  split at does
  case h_1 | h_2 =>
    cases does
    exact ⟨nofun, nofun⟩
  case h_3 request =>
    cases does
    exact ⟨nofun, inside_nextAttempt request 1 none⟩
  case h_4 method =>
    cases does
    exact ⟨nofun, rfl, id⟩
  case h_5 request attempt =>
    split at does
    · cases does
      exact ⟨rfl, rfl, id⟩
    · rename_i ready
      cases does
      refine ⟨rfl, rfl, fun holds => ⟨holds.1, holds.2, ?_⟩⟩
      exact fun unnamed => ready (.inr unnamed)
  case h_6 method _ =>
    cases does
    exact ⟨rfl, rfl, id⟩
  case h_7 method =>
    cases does
    exact ⟨rfl, rfl, fun holds => ⟨Tunnel.tidy_closeSock holds.1 holds.2, trivial⟩⟩
  case h_8 method =>
    cases does
    exact ⟨rfl, rfl, fun holds => ⟨holds.1, rfl⟩⟩
  case h_9 method =>
    cases does
    exact allowed_afterClose method rfl fun holds => ⟨holds.1, holds.2, rfl⟩
  case h_10 method error =>
    cases does
    exact allowed_failed error rfl fun holds => holds.2
  case h_11 method =>
    cases does
    refine ⟨rfl, rfl, ?_⟩
    rintro ⟨tidy, apart⟩
    exact ⟨Tunnel.tidy_append tidy, ⟨apart.sock, apart.connected⟩,
      List.getElem?_concat_length⟩
  case h_12 method sock error =>
    cases does
    exact allowed_failed error rfl fun holds => holds.2.1
  case h_13 method sock =>
    cases does
    exact ⟨rfl, rfl, id⟩
  case h_14 method sock error =>
    cases does
    exact allowed_failed error rfl fun holds => holds.2.1
  case h_15 method sock keys =>
    cases does
    refine ⟨rfl, rfl, ?_⟩
    rintro ⟨tidy, apart, found⟩
    exact ⟨tidy.record found (.live live_handshaked),
      ⟨apart.sock, apart.connected⟩, Tunnel.getElem?_record_self found _⟩
  case h_16 method sock keys =>
    cases does
    refine ⟨rfl, rfl, ?_⟩
    rintro ⟨tidy, -, found⟩
    exact ⟨tidy, sock, rfl, found⟩
  case h_17 method keys =>
    cases does
    exact ⟨rfl, rfl, fun holds => ⟨holds.1, holds.2, rfl⟩⟩
  case h_18 method keys =>
    cases does
    exact ⟨rfl, rfl, fun holds => ⟨holds.1, holds.2.1, holds.2.2, rfl⟩⟩
  case h_19 method keys =>
    cases does
    refine ⟨rfl, rfl, ?_⟩
    rintro ⟨tidy, ⟨sock, named, found⟩, sid, enc⟩
    exact ⟨tidy, sock, named, keys, _, found, live_handshaked, sid, enc, rfl⟩
  case h_20 method =>
    cases does
    refine allowed_afterConnect method rfl ?_
    rintro ⟨tidy, sock, named, session⟩
    refine ⟨⟨tidy, ?_, ?_⟩, ?_⟩
    · change true = t.attributes.sock.isSome
      rw [named]
      rfl
    · intro other also
      obtain rfl := Option.some.inj (named.symm.trans also)
      exact session
    · exact Option.ne_none_iff_exists'.mpr ⟨sock, named⟩
  case h_21 request attempt urandom fault =>
    exact allowed_sendFrame maxRetries request attempt urandom fault does
  case h_22 request attempt stream =>
    exact allowed_recvFrame maxRetries request attempt stream does
  case h_23 request attempt lastErr =>
    cases does
    exact ⟨nofun, inside_nextAttempt request (attempt + 1) lastErr⟩
  case h_24 => cases does

theorem settled_create : Tunnel.create.Settled P := by
  refine ⟨?_, Tunnel.Disconnected.bound ⟨rfl, rfl⟩⟩
  intro log member
  cases member

theorem outside_done (outcome : MethodOutcome) :
    ¬ (MethodPoint.done outcome).inside = true := nofun

theorem sound_of_run {s : TunnelThreads} {events : List (ℕ × MethodEvent)}
    (reached : run (threadsStep P maxRetries) .create events = some s) :
    s.Sound (fun point => point.inside = true) (Tunnel.Settled P)
      (MethodPoint.Holds P) :=
  Monitor.Sound.of_run methodProgram_lawful
    (Monitor.Sound.start (outside_done _) settled_create) reached

theorem failed_cases {point : MethodPoint} {error : PyError}
    {deed : Deed MethodPoint Tunnel}
    (does : methodProgram P maxRetries point t (.failed error) = some deed) :
    (∃ method : Method, deed = .release t (method.afterException error)) ∧
      point.inside = true ∧ (point.Holds P t → t.Disconnected) := by
  cases point with
  | openSock method =>
      cases does
      exact ⟨⟨method, rfl⟩, rfl, fun holds => holds.2⟩
  | tcpConnect method sock | handshake method sock =>
      cases does
      exact ⟨⟨method, rfl⟩, rfl, fun holds => holds.2.1⟩
  | entered method => cases method <;> cases does
  | _ => cases does

end

/-- Whatever the threads do and wherever they fail: while the lock is free the
attributes are those of one open authenticated socket or of none, no socket was
ever written to but under its own session, and a failed connect leaves none. -/
theorem tunnel_session_binding (P : Primitives) (maxRetries : ℕ)
    (events : List (ℕ × MethodEvent)) (s : TunnelThreads)
    (reached : run (threadsStep P maxRetries) .create events = some s) :
    (s.lock = none → s.shared.Bound P) ∧
      (∀ log ∈ s.shared.sockets, Disciplined P log) ∧
      ∀ thread error next,
        threadsStep P maxRetries s (thread, .failed error) = some next →
        next.lock = none ∧ next.shared.Disconnected := by
  have sound := sound_of_run reached
  refine ⟨fun free => (sound.free free).2, ?_, ?_⟩
  · cases taken : s.lock with
    | none => exact (sound.free taken).1
    | some thread => exact (sound.held thread taken).1
  · intro thread error next stepped
    obtain ⟨deed, does, performed⟩ := Monitor.step_cases stepped
    obtain ⟨⟨method, rfl⟩, inside, apart⟩ := failed_cases does
    have holder := (sound.exclusive thread).mp inside
    cases performed
    exact ⟨rfl, apart (sound.held thread holder)⟩

/-! A first connect that fails in its handshake, a second one that succeeds, and
a request of another thread that is cut short by a time-out. -/

def sampleSession : SessionKeys where
  sessionId := List.replicate sessionIdSize 1
  encKey := List.replicate aesKeySize 2
  macKey := List.replicate hmacDigestSize 3

/-- `connect` up to the handshake. -/
def sampleConnect (thread : ℕ) : List (ℕ × MethodEvent) :=
  (thread, .connect) :: List.replicate 7 (thread, .next)

def sampleCalls : List (ℕ × MethodEvent) :=
  sampleConnect 0 ++ [(0, .failed .timeout)] ++
    sampleConnect 0 ++ [(0, .handshaked sampleSession)] ++
    List.replicate 5 (0, .next) ++
    [(1, .sendRequest [7]), (1, .next), (1, .next),
      (1, .sent zeroNonce (some .timeout))]

theorem tunnel_session_binding_sample :
    ∃ s, run (threadsStep .transparent 3) .create sampleCalls = some s ∧
      s.shared.attributes.sock = some 1 ∧ s.shared.Bound .transparent := by
  have ran : (run (threadsStep .transparent 3) .create sampleCalls).isSome =
      true := by decide +kernel
  obtain ⟨s, reached⟩ := Option.isSome_iff_exists.mp ran
  have ends : (run (threadsStep .transparent 3) .create sampleCalls).map
      (fun s => (s.lock, s.shared.attributes.sock)) = some (none, some 1) := by
    decide +kernel
  rw [reached, Option.map_some, Option.some.injEq, Prod.mk.injEq] at ends
  exact ⟨s, reached, ends.2,
    (tunnel_session_binding .transparent 3 sampleCalls s reached).1 ends.1⟩

end VpnTunnel.Client
