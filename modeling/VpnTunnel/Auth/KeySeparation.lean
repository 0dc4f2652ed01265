import VpnTunnel.Auth.Agreement

namespace VpnTunnel.Auth

open VpnTunnel.Crypto
open VpnTunnel.Foundation

/-! Whose session ids and keys can be the same. -/

/-- The session id and the session key of a server run that has returned are draws
of its own. -/
def ServerPoint.Drew (log : Log) (point : ServerPoint Symbol) : Prop :=
  ∀ nonceC nonceS keys, point = .returned nonceC nonceS keys →
    ∃ draw, .drew draw ∈ log ∧ .drew (draw + 1) ∈ log ∧
      keys = handshakeKeys idealSuite (SymByte.fresh sessionIdSize draw)
        (SymByte.fresh aesKeySize (draw + 1))

theorem ServerMove.drew {draws drawn : ℕ} {before after : ServerPoint Symbol}
    {more : Log}
    (move : ServerMove idealSuite .client .server draws before after more drawn)
    (log : Log) : after.Drew (log ++ more) := by
  intro nonceC nonceS keys returned
  cases move with
  | hello => cases returned
  | done nonceC nonceS frame challengeResponse sigC accepted challenge verified =>
      cases returned
      exact ⟨draws, by simp, by simp, rfl⟩
  | fault => cases returned
  | rejected => cases returned
  | refused => cases returned

def NetworkState.Drew (s : NetworkState) : Prop :=
  ∀ server ∈ s.servers, server.point.Drew server.log

theorem NetworkMove.drew {s next : NetworkState} (move : NetworkMove s next)
    (drew : s.Drew) : next.Drew := by
  cases move with
  | newClient => exact drew
  | newServer =>
      intro server member
      rcases List.mem_append.mp member with before | new
      · exact drew server before
      · rw [List.mem_singleton.mp new]
        exact nofun
  | client here move known => exact drew
  | @server index run after log drawn here move known =>
      intro server member
      rcases List.mem_or_eq_of_mem_set member with before | rfl
      · exact drew server before
      · exact move.drew run.log

section

variable {sessionId sessionKey otherId otherKey : List Symbol}

end

/-- A run of either function has returned these. -/
def NetworkState.Returned (s : NetworkState) (keys : HandshakeKeys Symbol) : Prop :=
  (∃ client ∈ s.clients, ∃ nonceC nonceS,
    client.point = .returned nonceC nonceS keys) ∨
  ∃ server ∈ s.servers, ∃ nonceC nonceS,
    server.point = .returned nonceC nonceS keys

/-- What is returned is derived from the session id that is returned with it. -/
theorem Secure.derived {s : NetworkState} (secure : Secure s)
    {keys : HandshakeKeys Symbol} (returned : s.Returned keys) :
    ∃ sessionKey, keys = handshakeKeys idealSuite keys.sessionId sessionKey := by
  rcases returned with ⟨client, here, nonceC, nonceS, point⟩ |
    ⟨server, here, nonceC, nonceS, point⟩
  · obtain ⟨frame, sessionKey, -, -, derived⟩ :=
      (secure.clients client here).finished keys (by rw [point]; rfl)
    exact ⟨sessionKey, derived⟩
  · obtain ⟨draw, derived, -⟩ :=
      (secure.servers server here).finished nonceC nonceS keys point
    exact ⟨_, derived⟩

end VpnTunnel.Auth
