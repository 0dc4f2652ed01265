import VpnTunnel.Client.AtomicMethods
import VpnTunnel.Tunnel.Session

namespace VpnTunnel.Tunnel

open VpnTunnel.Crypto
open VpnTunnel.Client

/-! A session is one socket of a `TunnelClient`: what `_do_request` sends and returns
there under its lock is what the client's end of the session sends and returns. -/

def socketFrame : SocketAction → Option Bytes
  | .wrote _ frame => some frame
  | _ => none

/-- The object uses this socket, with the session's keys and frames. -/
structure OnSocket (t : Client.Tunnel) (sock : ℕ) (session : Session) : Prop where
  uses : t.attributes.sock = some sock
  sessionId : t.attributes.sessionId = some session.keys.sessionId
  encKey : t.attributes.encKey = some session.keys.encKey
  macKey : t.attributes.macKey = some session.keys.macKey
  idle : session.awaiting = false
  frames : ∃ log, t.sockets[sock]? = some log ∧
    log.filterMap socketFrame = session.clientFrames

section

variable {P : Primitives} {t : Client.Tunnel} {sock : ℕ} {session : Session}

/-- `client_handshake` has returned. -/
theorem onSocket_connected (t : Client.Tunnel) (ip : Server.Ip) (keys : SessionKeys) :
    OnSocket (t.doConnect (.handshaked keys)).1 t.closeSocket.sockets.length
      (.start ip keys) where
  uses := rfl
  sessionId := rfl
  encKey := rfl
  macKey := rfl
  idle := rfl
  frames := ⟨[.handshaked keys], List.getElem?_concat_length, rfl⟩

theorem OnSocket.receiveReply_eq (on : OnSocket t sock session) (stream : Sock) :
    t.receiveReply P stream = match receiveReply P session.keys stream with
      | .ok response _ => .ok response
      | .error error _ => .error error := by
  rw [Client.Tunnel.receiveReply, on.uses, on.encKey, on.macKey]
  simp only [receiveReply, bind, EStateM.bind]
  cases recvFrame P (some session.keys.encKey) (some session.keys.macKey) stream with
  | error error after => rfl
  | ok frame after =>
      obtain ⟨msgType, sessionId, response⟩ := frame
      simp only [MonadExcept.ofExcept]
      cases readReply msgType response <;> rfl

theorem OnSocket.sendRequest_eq (on : OnSocket t sock session) (request : Bytes)
    (urandom : GcmNonce) (fault : Option PyError) :
    t.sendRequest P request urandom fault =
      match buildFrame P .dataRequest session.keys.sessionId request
          (some session.keys.encKey) (some session.keys.macKey) urandom with
      | .error error => (t, some error)
      | .ok frame => (t.record sock (.wrote request frame), fault) := by
  cases built : buildFrame P .dataRequest session.keys.sessionId request
      (some session.keys.encKey) (some session.keys.macKey) urandom with
  | error error =>
      simp only [Client.Tunnel.sendRequest, on.sessionId, on.encKey, on.macKey, built]
  | ok frame =>
      simp only [Client.Tunnel.sendRequest, on.sessionId, on.encKey, on.macKey,
        on.uses, built]

theorem OnSocket.quiet {last : Session} (on : OnSocket t sock session)
    (keys : last.keys = session.keys) (idle : last.awaiting = false)
    (frames : last.clientFrames = session.clientFrames) : OnSocket t sock last where
  uses := on.uses
  sessionId := keys ▸ on.sessionId
  encKey := keys ▸ on.encKey
  macKey := keys ▸ on.macKey
  idle := idle
  frames := frames ▸ on.frames

theorem OnSocket.wrote {last : Session} {request frame : Bytes}
    (on : OnSocket t sock session) (keys : last.keys = session.keys)
    (idle : last.awaiting = false)
    (frames : last.clientFrames = session.clientFrames ++ [frame]) :
    OnSocket (t.record sock (.wrote request frame)) sock last where
  uses := on.uses
  sessionId := keys ▸ on.sessionId
  encKey := keys ▸ on.encKey
  macKey := keys ▸ on.macKey
  idle := idle
  frames := by
    obtain ⟨log, found, same⟩ := on.frames
    refine ⟨_, Client.Tunnel.getElem?_record_self found _, ?_⟩
    rw [List.filterMap_append, same, frames]
    rfl

/-- `recv_frame` in the session, after the frame went out. -/
theorem OnSocket.received (on : OnSocket t sock session) (sent : Session)
    (keys : sent.keys = session.keys) (awaiting : sent.awaiting = true) :
    ∃ last, sent.clientReceive P = some last ∧ last.keys = sent.keys ∧
      last.awaiting = false ∧ last.clientFrames = sent.clientFrames ∧
      last.returned = sent.returned ++
        (t.receiveReply P sent.toClient.sock).toOption.toList := by
  rw [on.receiveReply_eq, ← keys, Session.clientReceive, if_pos awaiting]
  cases receiveReply P sent.keys sent.toClient.sock with
  | ok response after =>
      refine ⟨_, rfl, rfl, rfl, ?_, ?_⟩
      · simp [Session.clientFrames, clientFrame]
      · simp [Session.returned, returnValue, Except.toOption]
  | error error after =>
      exact ⟨_, rfl, rfl, rfl, rfl, (List.append_nil _).symm⟩

/-- Both ends of what a call does under the lock. -/
theorem exchange_onSocket (on : OnSocket t sock session) (request : Bytes)
    (answers : Client.Answers) (reads : answers.stream = session.toClient.sock) :
    ∃ sent last,
      session.clientSend P request answers.urandom answers.fault = some sent ∧
      (if sent.awaiting = true then sent.clientReceive P = some last
        else last = sent) ∧
      OnSocket (t.exchange P request answers).1 sock last ∧
      last.returned =
        session.returned ++ (t.exchange P request answers).2.toOption.toList := by
  have idle : ¬ session.awaiting = true := by
    rw [on.idle]
    exact Bool.false_ne_true
  rw [Client.Tunnel.exchange, on.sendRequest_eq]
  simp only [Session.clientSend, if_neg idle]
  cases buildFrame P .dataRequest session.keys.sessionId request
      (some session.keys.encKey) (some session.keys.macKey) answers.urandom with
  | error error =>
      refine ⟨_, _, rfl, (if_neg idle).mpr rfl, ?_, ?_⟩
      · exact on.quiet rfl on.idle (by simp [Session.clientFrames, clientFrame])
      · simp [Session.returned, returnValue, Except.toOption]
  | ok frame =>
      obtain ⟨log, logged⟩ : ∃ log, session.clientLog ++
          [ClientAction.passed request] ++ [.framed frame] = log := ⟨_, rfl⟩
      have framed : log.filterMap clientFrame = session.clientFrames ++ [frame] := by
        rw [← logged, List.append_assoc, List.filterMap_append]
        rfl
      have said : log.filterMap returnValue = session.returned := by
        rw [← logged, List.append_assoc, List.filterMap_append]
        exact List.append_nil _
      have wrote : OnSocket (t.record sock (.wrote request frame)) sock
          { session with clientLog := log } :=
        OnSocket.wrote on rfl on.idle framed
      simp only [logged]
      cases faulted : answers.fault with
      | some fault =>
          refine ⟨_, _, rfl, (if_neg Bool.false_ne_true).mpr rfl, ?_, ?_⟩
          · exact wrote.quiet rfl rfl rfl
          · exact said.trans (List.append_nil _).symm
      | none =>
          obtain ⟨last, received, keys, rests, frames, returned⟩ :=
            wrote.received (P := P) { session with clientLog := log, awaiting := true }
              rfl rfl
          refine ⟨_, last, rfl, (if_pos rfl).mpr received, ?_, ?_⟩
          · exact wrote.quiet keys rests frames
          · rw [returned, reads]
            exact congrArg (· ++ _) said

end

end VpnTunnel.Tunnel
