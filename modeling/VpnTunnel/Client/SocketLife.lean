import VpnTunnel.Client.AtomicMethods

namespace VpnTunnel.Client

open VpnTunnel.Crypto
open VpnTunnel.Foundation

/-! The sessions that the client has opened: all but the one in use are closed. -/

/-- A handshake returned on the socket, and nobody has closed it since. -/
def OpenSession (log : List SocketAction) : Prop := log ≠ [] ∧ .closed ∉ log

namespace Tunnel

/-- The socket that the attributes name is the only one with an open session. -/
structure Sole (t : Tunnel) : Prop where
  named : ∀ sock, t.attributes.sock = some sock → sock < t.sockets.length
  only : ∀ index log, t.sockets[index]? = some log →
    (OpenSession log ↔ t.attributes.sock = some index)

variable {P : Primitives} {t : Tunnel}

theorem sole_create : create.Sole where
  named := nofun
  only := nofun

theorem openSession_closed {log : List SocketAction} :
    ¬ OpenSession (log ++ [.closed]) :=
  fun alive => alive.2 (List.mem_append_right log (List.mem_singleton.mpr rfl))

theorem Sole.closeSocket (sole : t.Sole) : t.closeSocket.Sole where
  named := nofun
  only := by
    intro index log found
    refine iff_of_false ?_ nofun
    change t.closeSock.sockets[index]? = some log at found
    unfold closeSock at found
    split at found
    case h_1 unnamed =>
      rw [sole.only index log found, unnamed]
      exact nofun
    case h_2 sock named =>
      rw [getElem?_record] at found
      obtain ⟨before, was, same⟩ := Option.map_eq_some_iff.mp found
      by_cases own : sock = index
      · rw [if_pos own] at same
        exact same ▸ openSession_closed
      · rw [if_neg own] at same
        rw [← same, sole.only index before was, named, Option.some.injEq]
        exact own

theorem closeSocket_unnamed (t : Tunnel) : t.closeSocket.attributes.sock = none := rfl

theorem getElem?_concat_cases {sockets : List (List SocketAction)}
    {last log : List SocketAction} {index : ℕ}
    (found : (sockets ++ [last])[index]? = some log) :
    sockets[index]? = some log ∧ index < sockets.length ∨
      index = sockets.length ∧ log = last := by
  rcases Nat.lt_trichotomy index sockets.length with old | rfl | beyond
  · rw [List.getElem?_append_left old] at found
    exact .inl ⟨found, old⟩
  · rw [List.getElem?_concat_length] at found
    exact .inr ⟨rfl, (Option.some.inj found).symm⟩
  · have outside : (sockets ++ [last]).length ≤ index := by
      rw [List.length_append]
      exact beyond
    rw [List.getElem?_eq_none outside] at found
    cases found

theorem Sole.doConnect (sole : t.Sole) (trial : ConnectTrial) :
    (t.doConnect trial).1.Sole := by
  have closed := sole.closeSocket
  cases trial with
  | noSocket error => exact closed
  | failed error =>
      refine ⟨nofun, ?_⟩
      intro index log found
      rcases getElem?_concat_cases found with ⟨old, -⟩ | ⟨-, rfl⟩
      · exact closed.only index log old
      · exact iff_of_false (fun alive => alive.1 rfl) nofun
  | handshaked keys =>
      refine ⟨?_, ?_⟩
      · intro sock named
        obtain rfl := Option.some.inj named
        change _ < (t.closeSocket.sockets ++ [_]).length
        simp
      · intro index log found
        change OpenSession log ↔ some t.closeSocket.sockets.length = some index
        rw [Option.some.injEq]
        rcases getElem?_concat_cases found with ⟨old, before⟩ | ⟨rfl, rfl⟩
        · refine iff_of_false ?_ (Nat.ne_of_gt before)
          rw [closed.only index log old, closeSocket_unnamed]
          exact nofun
        · exact iff_of_true ⟨nofun, by simp⟩ rfl

theorem Sole.wrote (sole : t.Sole) {sock : ℕ} {request frame : Bytes}
    (named : t.attributes.sock = some sock) :
    (t.record sock (.wrote request frame)).Sole where
  named := by
    intro other also
    change other < (t.sockets.modify sock _).length
    rw [List.length_modify]
    exact sole.named other also
  only := by
    intro index log found
    rw [getElem?_record] at found
    obtain ⟨before, was, same⟩ := Option.map_eq_some_iff.mp found
    have here := sole.only index before was
    by_cases own : sock = index
    · rw [if_pos own] at same
      obtain ⟨-, unclosed⟩ := here.mpr (own ▸ named)
      refine iff_of_true ?_ (own ▸ named)
      rw [← same]
      refine ⟨List.append_ne_nil_of_right_ne_nil before nofun, ?_⟩
      simpa using unclosed
    · rw [if_neg own] at same
      exact same ▸ here

theorem Sole.exchange (sole : t.Sole) (request : Bytes) (answers : Answers) :
    (t.exchange P request answers).1.Sole := by
  have sent : (t.sendRequest P request answers.urandom answers.fault).1.Sole := by
    unfold sendRequest
    split
    · exact sole
    · split
      · exact sole
      · split
        · exact sole
        · exact sole.wrote ‹_›
  unfold Tunnel.exchange
  split <;> rename_i same <;> rw [same] at sent <;> exact sent

theorem Sole.doRequest (sole : t.Sole) (request : Bytes) (answers : Answers) :
    (t.doRequest P request answers).1.Sole := by
  unfold Tunnel.doRequest
  split
  · have connected := sole.doConnect answers.trial
    split
    · rename_i same
      rw [same] at connected
      exact connected
    · rename_i same
      rw [same] at connected
      exact connected.exchange request answers
  · exact sole.exchange request answers

end Tunnel

section

variable {P : Primitives} {maxRetries : ℕ}

theorem sole_atomically {t : Tunnel} (sole : t.Sole) (answers : Answers)
    (method : Method) : (method.atomically P t answers).2.Sole := by
  cases method with
  | connect =>
      have connected := sole.doConnect answers.trial
      unfold Method.atomically
      dsimp only
      split <;> rename_i same <;> rw [same] at connected <;> exact connected
  | close => exact sole.closeSocket
  | doRequest request attempt =>
      have requested := sole.doRequest (P := P) request answers
      unfold Method.atomically
      dsimp only
      split <;> rename_i same <;> rw [same] at requested <;> exact requested
  | reconnect request attempt lastErr => exact sole.doConnect answers.trial

theorem sole_callersStep {s next : Callers} {event : ℕ × CallersEvent}
    (sole : s.shared.Sole)
    (stepped : callersStep P maxRetries s event = some next) :
    next.shared.Sole := by
  obtain ⟨thread, event⟩ := event
  dsimp only [callersStep] at stepped
  split at stepped
  case h_5 method answers _ =>
    cases stepped
    exact sole_atomically sole answers method
  case h_6 => cases stepped
  all_goals
    cases stepped
    exact sole

end

theorem Live.unclosed {P : Primitives} {keys : SessionKeys}
    {log : List SocketAction} (alive : Live P keys log) : .closed ∉ log := by
  obtain ⟨writes, rfl, under⟩ := alive
  intro member
  rcases List.mem_cons.mp member with same | written
  · cases same
  · exact under .closed written

/-- A socket is closed at most once, and nothing happens on it afterwards. -/
theorem Disciplined.closed_last {P : Primitives} {log : List SocketAction}
    (disciplined : Disciplined P log) :
    log.count .closed ≤ 1 ∧
      (.closed ∈ log → log.getLast? = some .closed) := by
  cases disciplined with
  | fresh => exact ⟨Nat.zero_le 1, nofun⟩
  | live alive =>
      rw [List.count_eq_zero.mpr alive.unclosed]
      exact ⟨Nat.zero_le 1, fun member => absurd member alive.unclosed⟩
  | closed alive =>
      rw [List.count_append, List.count_eq_zero.mpr alive.unclosed]
      exact ⟨Nat.le_refl 1, fun _ => List.getLast?_concat⟩

theorem sole_of_run {P : Primitives} {maxRetries : ℕ}
    {events : List (ℕ × MethodEvent)} {s : TunnelThreads}
    (reached : run (threadsStep P maxRetries) .create events = some s)
    (free : s.lock = none) : s.shared.Sole := by
  obtain ⟨serial, ran, -⟩ := Monitor.serial_of_run
    (methodProgram_lawful (P := P)) methodProgram_blind (outside_done _)
    settled_create reached free
  obtain ⟨calls, called, -⟩ := run_matched Serial.seen
    (fun _ _ _ _ stepped => callers_of_serial stepped) ran
  have kept : ∀ (before : Callers) event (after : Callers), before.shared.Sole →
      callersStep P maxRetries before event = some after → after.shared.Sole :=
    fun _ _ _ sole stepped => sole_callersStep sole stepped
  exact run_invariant kept called Tunnel.sole_create

/-- Whatever the threads do and wherever they fail: while the lock is free, the only
session left open is that of the socket in use; every other socket on which a
handshake returned has been closed, once and after everything else. -/
theorem tunnel_sessions_closed (P : Primitives) (maxRetries : ℕ)
    (events : List (ℕ × MethodEvent)) (s : TunnelThreads)
    (reached : run (threadsStep P maxRetries) .create events = some s)
    (free : s.lock = none) (index : ℕ) (log : List SocketAction)
    (found : s.shared.sockets[index]? = some log) :
    (OpenSession log ↔ s.shared.attributes.sock = some index) ∧
      log.count .closed ≤ 1 ∧
      (.closed ∈ log → log.getLast? = some .closed) := by
  have disciplined : Disciplined P log :=
    ((sound_of_run reached).free free).1 log (List.mem_of_getElem? found)
  exact ⟨(sole_of_run reached free).only index log found, disciplined.closed_last⟩

/-- The time-out of the other thread, and its reconnect. -/
def sampleReconnect : List (ℕ × MethodEvent) :=
  sampleCalls ++ List.replicate 7 (1, .next) ++ [(1, .handshaked sampleSession)] ++
    List.replicate 5 (1, .next)

theorem tunnel_sessions_closed_sample :
    ∃ s log, run (threadsStep .transparent 3) .create sampleReconnect = some s ∧
      s.shared.attributes.sock = some 2 ∧ s.shared.sockets[1]? = some log ∧
      .closed ∈ log ∧ log.getLast? = some .closed ∧
      (OpenSession log ↔ s.shared.attributes.sock = some 1) := by
  have ran : (run (threadsStep .transparent 3) .create sampleReconnect).map
      (fun s => (s.lock, s.shared.attributes.sock,
        s.shared.sockets[1]?.any fun log => log.contains .closed)) =
        some (none, some 2, true) := by decide +kernel
  obtain ⟨s, reached, same⟩ := Option.map_eq_some_iff.mp ran
  rw [Prod.mk.injEq, Prod.mk.injEq] at same
  obtain ⟨free, named, closed⟩ := same
  obtain ⟨log, found, member⟩ := (Option.any_eq_true _ _).mp closed
  obtain ⟨sole, -, last⟩ := tunnel_sessions_closed .transparent 3 sampleReconnect s
    reached free 1 log found
  have inside : .closed ∈ log := List.contains_iff_mem.mp member
  exact ⟨s, log, reached, named, found, inside, last inside, sole⟩

end VpnTunnel.Client
