import VpnTunnel.Client.SessionBinding
import VpnTunnel.Foundation.Serial

namespace VpnTunnel.Client

open VpnTunnel.Crypto
open VpnTunnel.Foundation

/-! `TunnelClient` as an object whose methods happen at once: `_close_socket`,
`_do_connect` and `_do_request` as functions of the attributes and of the answers
they get. -/

/-- What `_do_connect` meets after its `_close_socket`. -/
inductive ConnectTrial
  | noSocket (error : PyError)
  /-- `connect` or `client_handshake` raised on the new socket. -/
  | failed (error : PyError)
  | handshaked (keys : SessionKeys)
  deriving DecidableEq, Repr

namespace Tunnel

def closeSocket (t : Tunnel) : Tunnel :=
  t.closeSock.assign fun self => { self with sock := none, connected := false }

def doConnect (t : Tunnel) (trial : ConnectTrial) : Tunnel × Option PyError :=
  let t := t.closeSocket
  match trial with
  | .noSocket error => (t, some error)
  | .failed error => ({ t with sockets := t.sockets ++ [[]] }, some error)
  | .handshaked keys =>
      ({ attributes :=
          { sock := some t.sockets.length, sessionId := some keys.sessionId,
            encKey := some keys.encKey, macKey := some keys.macKey,
            connected := true }
         sockets := t.sockets ++ [[.handshaked keys]] }, none)

end Tunnel

/-- What one locked section is answered. -/
structure Answers where
  trial : ConnectTrial
  urandom : GcmNonce
  fault : Option PyError
  stream : Sock

namespace Tunnel

/-- `_do_request` once there is a connection. -/
def exchange (P : Primitives) (t : Tunnel) (request : Bytes) (answers : Answers) :
    Tunnel × Except PyError Bytes :=
  match t.sendRequest P request answers.urandom answers.fault with
  | (t, some error) => (t, .error error)
  | (t, none) => (t, t.receiveReply P answers.stream)

def doRequest (P : Primitives) (t : Tunnel) (request : Bytes)
    (answers : Answers) : Tunnel × Except PyError Bytes :=
  if t.attributes.connected = false ∨ t.attributes.sock = none then
    match t.doConnect answers.trial with
    | (t, some error) => (t, .error error)
    | (t, none) => t.exchange P request answers
  else t.exchange P request answers

end Tunnel

/-- A `with self._lock` block, and where its caller stands after it. -/
def Method.atomically (P : Primitives) (t : Tunnel) (answers : Answers) :
    Method → MethodPoint × Tunnel
  | .connect =>
      match t.doConnect answers.trial with
      | (t, none) => (.done (.returned none), t)
      | (t, some error) => (.done (.raised error), t)
  | .close => (.done (.returned none), t.closeSocket)
  | .doRequest request attempt =>
      match t.doRequest P request answers with
      | (t, .ok response) => (.done (.returned (some response)), t)
      | (t, .error error) => (.waiting (.reconnect request attempt error), t)
  | .reconnect request attempt lastErr =>
      (.backoff request attempt lastErr, (t.doConnect answers.trial).1)

abbrev Callers := Serial MethodPoint Tunnel

inductive CallersEvent
  | connect
  | close
  | sendRequest (request : Bytes)
  /-- `time.sleep`, and the next attempt. -/
  | retry
  | atomically (answers : Answers)

def callersStep (P : Primitives) (maxRetries : ℕ) (s : Callers) :
    ℕ × CallersEvent → Option Callers
  | (thread, event) =>
      match s.points thread, event with
      | .done _, .connect => some (s.goto thread (.waiting .connect))
      | .done _, .close => some (s.goto thread (.waiting .close))
      | .done _, .sendRequest request =>
          some (s.goto thread (nextAttempt maxRetries request 1 none))
      | .backoff request attempt lastErr, .retry =>
          some (s.goto thread
            (nextAttempt maxRetries request (attempt + 1) lastErr))
      | .waiting method, .atomically answers =>
          let after := method.atomically P s.shared answers
          some { s.goto thread after.1 with shared := after.2 }
      | _, _ => none

def Callers.create : Callers := .start (.done (.returned none)) .create

/-! The statements of a locked section, one after the other, do what the method
does at once. -/

section

variable {P : Primitives} {maxRetries : ℕ} {t : Tunnel}
  {out : MethodPoint × Tunnel}

abbrev MethodSection (P : Primitives) (maxRetries : ℕ) (point : MethodPoint)
    (t : Tunnel) (out : MethodPoint × Tunnel) : Prop :=
  Section (methodProgram P maxRetries) point t out

abbrev MethodDeed.Leads (P : Primitives) (maxRetries : ℕ)
    (out : MethodPoint × Tunnel) (deed : Deed MethodPoint Tunnel) : Prop :=
  deed.Leads (methodProgram P maxRetries) out

theorem section_closeSocket {method : Method}
    (ends : MethodSection P maxRetries (.closeSock method) t out) :
    MethodDeed.Leads P maxRetries out (method.afterClose t.closeSocket) := by
  have closed : MethodSection P maxRetries (.clearSock method) t.closeSock out := by
    apply ends.only (.work t.closeSock (.clearSock method))
    intro event other does
    cases event <;> cases does
    rfl
  have cleared : MethodSection P maxRetries (.clearConnected method)
      (t.closeSock.assign fun self => { self with sock := none }) out := by
    apply closed.only (.work _ (.clearConnected method))
    intro event other does
    cases event <;> cases does
    rfl
  apply cleared.only (method.afterClose t.closeSocket)
  intro event other does
  cases event <;> cases does
  rfl

theorem section_assign {method : Method} {sock : ℕ} {keys : SessionKeys}
    (ends : MethodSection P maxRetries (.setSock method sock keys) t out) :
    MethodDeed.Leads P maxRetries out (method.afterConnect (t.assign fun _ =>
      { sock := some sock, sessionId := some keys.sessionId,
        encKey := some keys.encKey, macKey := some keys.macKey,
        connected := true })) := by
  have named : MethodSection P maxRetries (.setSessionId method keys)
      (t.assign fun self => { self with sock := some sock }) out := by
    apply ends.only (.work _ (.setSessionId method keys))
    intro event other does
    cases event <;> cases does
    rfl
  have identified : MethodSection P maxRetries (.setEncKey method keys)
      (t.assign fun self =>
        { self with sock := some sock, sessionId := some keys.sessionId })
      out := by
    apply named.only (.work _ (.setEncKey method keys))
    intro event other does
    cases event <;> cases does
    rfl
  have encrypted : MethodSection P maxRetries (.setMacKey method keys)
      (t.assign fun self =>
        { self with sock := some sock, sessionId := some keys.sessionId,
                    encKey := some keys.encKey }) out := by
    apply identified.only (.work _ (.setMacKey method keys))
    intro event other does
    cases event <;> cases does
    rfl
  have authenticated : MethodSection P maxRetries (.setConnected method)
      (t.assign fun self =>
        { self with sock := some sock, sessionId := some keys.sessionId,
                    encKey := some keys.encKey, macKey := some keys.macKey })
      out := by
    apply encrypted.only (.work _ (.setConnected method))
    intro event other does
    cases event <;> cases does
    rfl
  apply authenticated.only
  intro event other does
  cases event <;> cases does
  rfl

theorem Tunnel.record_new (t : Tunnel) (action : SocketAction) :
    ({ t with sockets := t.sockets ++ [[]] } : Tunnel).record t.sockets.length
        action =
      { t with sockets := t.sockets ++ [[action]] } := by
  have changed := List.modifyTailIdx_add
    (List.modifyHead fun log : List SocketAction => log ++ [action]) 0 t.sockets [[]]
  exact congrArg (fun sockets => ({ t with sockets } : Tunnel)) changed

/-- `_do_connect` after its `_close_socket`: the three places where it can raise,
and the session it ends with. -/
theorem section_openSock {method : Method}
    (ends : MethodSection P maxRetries (.openSock method) t.closeSocket out) :
    (∃ trial error after, t.doConnect trial = (after, some error) ∧
      out = (method.afterException error, after)) ∨
    ∃ trial after, t.doConnect trial = (after, none) ∧
      MethodDeed.Leads P maxRetries out (method.afterConnect after) := by
  obtain ⟨event, deed, does, leads⟩ := ends.deed
  cases event with
  | failed error =>
      cases does
      exact .inl ⟨.noSocket error, error, _, rfl, leads⟩
  | next =>
      cases does
      obtain ⟨event, deed, does, leads⟩ := Section.deed leads
      cases event with
      | failed error =>
          cases does
          exact .inl ⟨.failed error, error, _, rfl, leads⟩
      | next =>
          cases does
          obtain ⟨event, deed, does, leads⟩ := Section.deed leads
          cases event with
          | failed error =>
              cases does
              exact .inl ⟨.failed error, error, _, rfl, leads⟩
          | handshaked keys =>
              cases does
              refine .inr ⟨.handshaked keys, _, rfl, ?_⟩
              have assigned := section_assign leads
              rw [Tunnel.record_new] at assigned
              exact assigned
          | _ => cases does
      | _ => cases does
  | _ => cases does

theorem section_doConnect {method : Method}
    (ends : MethodSection P maxRetries (.closeSock method) t out)
    (opens : method ≠ .close) :
    (∃ trial error after, t.doConnect trial = (after, some error) ∧
      out = (method.afterException error, after)) ∨
    ∃ trial after, t.doConnect trial = (after, none) ∧
      MethodDeed.Leads P maxRetries out (method.afterConnect after) := by
  apply section_openSock
  have closed := section_closeSocket ends
  cases method with
  | close => exact absurd rfl opens
  | _ => exact closed

/-- The rest of `_do_request`. -/
theorem section_exchange {request : Bytes} {attempt : ℕ}
    (ends : MethodSection P maxRetries (.sendFrame request attempt) t out)
    (trial : ConnectTrial) :
    ∃ answers : Answers, answers.trial = trial ∧
      out = match t.exchange P request answers with
        | (t, .ok response) => (.done (.returned (some response)), t)
        | (t, .error error) =>
            (.waiting (.reconnect request attempt error), t) := by
  obtain ⟨event, deed, does, leads⟩ := ends.deed
  cases event with
  | sent urandom fault =>
      rw [methodProgram] at does
      cases sent : t.sendRequest P request urandom fault with
      | mk after failed =>
          rw [sent] at does
          cases failed with
          | some error =>
              cases does
              refine ⟨⟨trial, urandom, fault, ⟨[], [], .eof, []⟩⟩, rfl, ?_⟩
              rw [Tunnel.exchange, sent]
              exact leads
          | none =>
              cases does
              obtain ⟨event, deed, does, leads⟩ := Section.deed leads
              cases event with
              | received stream =>
                  refine ⟨⟨trial, urandom, fault, stream⟩, rfl, ?_⟩
                  have exchanged : t.exchange P request
                      ⟨trial, urandom, fault, stream⟩ =
                        (after, after.receiveReply P stream) := by
                    rw [Tunnel.exchange, sent]
                  rw [exchanged]
                  rw [methodProgram] at does
                  cases read : after.receiveReply P stream with
                  | ok response =>
                      rw [read] at does
                      cases does
                      exact leads
                  | error error =>
                      rw [read] at does
                      cases does
                      exact leads
              | _ => cases does
  | _ => cases does

def Answers.connecting (trial : ConnectTrial) : Answers :=
  { trial, urandom := zeroNonce, fault := none,
    stream := { incoming := [], cuts := [], ending := .eof, outgoing := [] } }

theorem section_doRequest {request : Bytes} {attempt : ℕ}
    (ends : MethodSection P maxRetries (.entered (.doRequest request attempt)) t
      out) :
    ∃ answers, out = (Method.doRequest request attempt).atomically P t answers := by
  obtain ⟨event, deed, does, leads⟩ := ends.deed
  cases event with
  | next =>
      rw [methodProgram] at does
      split at does
      case isTrue unconnected =>
        cases does
        have opens : Method.doRequest request attempt ≠ .close := by
          intro same
          cases same
        rcases section_doConnect leads opens with
          ⟨trial, error, after, failed, rfl⟩ | ⟨trial, after, opened, rest⟩
        · refine ⟨.connecting trial, ?_⟩
          have raised : t.doRequest P request (.connecting trial) =
              (after, .error error) := by
            rw [Tunnel.doRequest, if_pos unconnected]
            simp only [Answers.connecting, failed]
          simp only [Method.atomically, raised]
          rfl
        · obtain ⟨answers, rfl, same⟩ := section_exchange rest trial
          refine ⟨answers, ?_⟩
          have went : t.doRequest P request answers =
              after.exchange P request answers := by
            rw [Tunnel.doRequest, if_pos unconnected]
            simp only [opened]
          simp only [Method.atomically, went]
          exact same
      case isFalse ready =>
        cases does
        obtain ⟨answers, -, same⟩ := section_exchange leads (.noSocket .timeout)
        refine ⟨answers, ?_⟩
        have went : t.doRequest P request answers = t.exchange P request answers := by
          rw [Tunnel.doRequest, if_neg ready]
        simp only [Method.atomically, went]
        exact same
  | _ => cases does

/-- Every locked section is its method at once. -/
theorem section_atomically {method : Method}
    (ends : MethodSection P maxRetries (.entered method) t out) :
    ∃ answers, out = method.atomically P t answers := by
  have closing (other : ∀ request attempt, method ≠ .doRequest request attempt) :
      MethodSection P maxRetries (.closeSock method) t out := by
    apply ends.only (.work t (.closeSock method))
    intro event deed does
    cases method with
    | doRequest request attempt => exact absurd rfl (other request attempt)
    | _ =>
        cases event <;> cases does
        rfl
  cases method with
  | doRequest request attempt => exact section_doRequest ends
  | close =>
      have released := section_closeSocket (closing nofun)
      exact ⟨.connecting (.noSocket .timeout), released⟩
  | connect =>
      rcases section_doConnect (closing nofun) nofun with
        ⟨trial, error, after, failed, rfl⟩ | ⟨trial, after, opened, released⟩
      · refine ⟨.connecting trial, ?_⟩
        simp only [Method.atomically, Answers.connecting, failed]
        rfl
      · refine ⟨.connecting trial, ?_⟩
        simp only [Method.atomically, Answers.connecting, opened]
        exact released
  | reconnect request attempt lastErr =>
      rcases section_doConnect (closing nofun) nofun with
        ⟨trial, error, after, failed, rfl⟩ | ⟨trial, after, opened, released⟩
      · refine ⟨.connecting trial, ?_⟩
        simp only [Method.atomically, Answers.connecting, failed]
        rfl
      · refine ⟨.connecting trial, ?_⟩
        simp only [Method.atomically, Answers.connecting, opened]
        exact released

/-- Between its locked sections a method looks at nothing but its own variables. -/
theorem methodProgram_blind :
    Blind (methodProgram P maxRetries) (fun point => point.inside = true) := by
  intro point t other event outside
  cases point with
  | done outcome | waiting method | backoff request attempt lastErr =>
      cases event <;> rfl
  | _ => exact absurd rfl outside

theorem callers_of_serial {s next : Callers} {thread : ℕ}
    {event : SerialEvent MethodEvent}
    (stepped : serialStep (methodProgram P maxRetries) s (thread, event) =
      some next) :
    ∃ also, callersStep P maxRetries s (thread, also) = some next := by
  cases event with
  | move event =>
      dsimp only [serialStep] at stepped
      split at stepped
      case h_2 => cases stepped
      case h_1 point does =>
        cases stepped
        have allowed := methodProgram_lawful _ _ _ _ does
        cases here : s.points thread with
        | done outcome =>
            rw [here] at does
            cases event with
            | connect =>
                cases does
                exact ⟨.connect, by simp only [callersStep, here]⟩
            | close =>
                cases does
                exact ⟨.close, by simp only [callersStep, here]⟩
            | sendRequest request =>
                cases does
                exact ⟨.sendRequest request, by simp only [callersStep, here]⟩
            | _ => cases does
        | waiting method =>
            rw [here] at does
            cases event <;> cases does
        | backoff request attempt lastErr =>
            rw [here] at does
            cases event <;> cases does
            exact ⟨.retry, by simp only [callersStep, here]⟩
        | _ =>
            rw [here] at allowed
            exact absurd rfl allowed.1
  | locked first works last =>
      dsimp only [serialStep] at stepped
      split at stepped
      case h_2 => cases stepped
      case h_1 point does =>
        have allowed := methodProgram_lawful _ _ _ _ does
        obtain ⟨out, ended, same⟩ := Option.map_eq_some_iff.mp stepped
        cases here : s.points thread with
        | waiting method =>
            rw [here] at does
            cases first <;> cases does
            obtain ⟨answers, rfl⟩ := section_atomically ⟨works, last, ended⟩
            refine ⟨.atomically answers, ?_⟩
            simp only [callersStep, here]
            exact congrArg some same
        | done outcome =>
            rw [here] at does
            cases first <;> cases does
        | backoff request attempt lastErr =>
            rw [here] at does
            cases first <;> cases does
        | _ =>
            rw [here] at allowed
            exact absurd rfl allowed.1

end

/-- Any number of threads in any interleaving of their statements do to the client,
and are told by it, what they would if each `with self._lock` block happened at
once, in the order in which the blocks end. -/
theorem tunnel_client_serializable (P : Primitives) (maxRetries : ℕ)
    (events : List (ℕ × MethodEvent)) (s : TunnelThreads)
    (reached : run (threadsStep P maxRetries) .create events = some s)
    (free : s.lock = none) :
    ∃ calls, run (callersStep P maxRetries) .create calls =
        some { points := s.points, shared := s.shared } ∧
      trace (callersStep P maxRetries) Serial.seen .create calls =
        trace (threadsStep P maxRetries)
          (Monitor.outing fun point => point.inside = true) .create events := by
  obtain ⟨serial, ran, alike⟩ := Monitor.serial_of_run
    (methodProgram_lawful (P := P)) methodProgram_blind (outside_done _)
    settled_create reached free
  obtain ⟨calls, called, same⟩ := run_matched Serial.seen
    (fun _ _ _ _ stepped => callers_of_serial stepped) ran
  exact ⟨calls, called, same.trans alike⟩

theorem tunnel_client_serializable_sample :
    ∃ s calls, run (threadsStep .transparent 3) .create sampleCalls = some s ∧
      run (callersStep .transparent 3) .create calls =
        some { points := s.points, shared := s.shared } ∧
      trace (callersStep .transparent 3) Serial.seen .create calls =
        trace (threadsStep .transparent 3)
          (Monitor.outing fun point => point.inside = true) .create
          sampleCalls := by
  have ran : (run (threadsStep .transparent 3) .create sampleCalls).map
      (fun s => s.lock) = some none := by decide +kernel
  obtain ⟨s, reached, free⟩ := Option.map_eq_some_iff.mp ran
  obtain ⟨calls, called, alike⟩ :=
    tunnel_client_serializable .transparent 3 sampleCalls s reached free
  exact ⟨s, calls, reached, called, alike⟩

end VpnTunnel.Client
