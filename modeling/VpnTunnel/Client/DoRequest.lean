import VpnTunnel.Crypto.Protocol
import VpnTunnel.Foundation.Text

namespace VpnTunnel.Client

open VpnTunnel.Crypto
open VpnTunnel.Foundation

/-! The exchange that `_do_request` makes under its lock. -/

/-- The part of `_do_request` after `recv_frame`: a response or an exception. -/
def readReply (msgType : MessageType) (response : Bytes) :
    Except PyError Bytes :=
  if msgType = .error then
    .error (.runtimeError ("Server error: " ++ decodeReplace response))
  else if msgType ≠ .dataResponse then
    .error (.valueError ("Unexpected message type: " ++ msgType.name))
  else .ok response

def receiveReply (P : Primitives) (keys : SessionKeys) : SockM Bytes := do
  let (msgType, _, response) ←
    recvFrame P (some keys.encKey) (some keys.macKey)
  MonadExcept.ofExcept (readReply msgType response)

theorem readReply_eq_ok {msgType : MessageType} {payload response : Bytes} :
    readReply msgType payload = .ok response ↔
      msgType = .dataResponse ∧ payload = response := by
  unfold readReply
  by_cases failed : msgType = .error
  · simp [failed]
  · by_cases answered : msgType = .dataResponse
    · simp [answered]
    · simp [failed, answered]

theorem receiveReply_eq_ok {P : Primitives} {keys : SessionKeys} {s s' : Sock}
    {response : Bytes} :
    receiveReply P keys s = .ok response s' ↔
      ∃ sessionId, recvFrame P (some keys.encKey) (some keys.macKey) s =
        .ok (.dataResponse, sessionId, response) s' := by
  unfold receiveReply
  cases received : recvFrame P (some keys.encKey) (some keys.macKey) s with
  | error failure next =>
      simp [bind, EStateM.bind, received]
  | ok frame next =>
      obtain ⟨msgType, sessionId, payload⟩ := frame
      cases read : readReply msgType payload with
      | error failure =>
          have other : ¬ (msgType = .dataResponse ∧ payload = response) := by
            rw [← readReply_eq_ok, read]
            simp
          simp only [bind, EStateM.bind, received, read, MonadExcept.ofExcept]
          constructor
          · intro impossible
            cases impossible
          · rintro ⟨_, same⟩
            cases same
            exact absurd ⟨rfl, rfl⟩ other
      | ok result =>
          obtain ⟨rfl, rfl⟩ := readReply_eq_ok.mp read
          simp only [bind, EStateM.bind, received, read, MonadExcept.ofExcept]
          constructor
          · intro same
            cases same
            exact ⟨sessionId, rfl⟩
          · rintro ⟨_, same⟩
            cases same
            rfl

theorem receiveReply_eq_error {P : Primitives} {keys : SessionKeys}
    {s s' : Sock} {failure : PyError}
    (failed : receiveReply P keys s = .error failure s') :
    (∃ earlier, recvFrame P (some keys.encKey) (some keys.macKey) s =
      .error earlier s') ∨
    ∃ msgType sessionId payload,
      recvFrame P (some keys.encKey) (some keys.macKey) s =
        .ok (msgType, sessionId, payload) s' ∧
      msgType ≠ .dataResponse := by
  unfold receiveReply at failed
  cases received : recvFrame P (some keys.encKey) (some keys.macKey) s with
  | error earlier next =>
      simp only [bind, EStateM.bind, received] at failed
      cases failed
      exact .inl ⟨failure, rfl⟩
  | ok frame next =>
      obtain ⟨msgType, sessionId, payload⟩ := frame
      simp only [bind, EStateM.bind, received] at failed
      by_cases answered : msgType = .dataResponse
      · rw [readReply_eq_ok.mpr ⟨answered, rfl⟩] at failed
        cases failed
      · have same : next = s' := by
          cases read : readReply msgType payload with
          | error earlier =>
              rw [read] at failed
              cases failed
              rfl
          | ok response =>
              exact absurd (readReply_eq_ok.mp read).1 answered
        exact .inr ⟨msgType, sessionId, payload, by rw [same], answered⟩

end VpnTunnel.Client
