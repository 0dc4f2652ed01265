import Mathlib.Algebra.Order.Group.Int
import VpnTunnel.Server.RateLimit

namespace VpnTunnel.Server

open VpnTunnel.Foundation

/-! The connection counters of the limiter. -/

namespace RateLimiter

/-- The two counters agree, no count is stored at zero or below, and no cap is
exceeded. -/
structure Balanced (limiter : RateLimiter) : Prop where
  total : limiter.totalConnections = tally limiter.connections
  positive : ∀ ip count, limiter.connections.lookup ip = some count → 0 < count
  perIp : ∀ ip, limiter.connectionsFor ip ≤ limiter.maxPerIp
  overall : limiter.totalConnections ≤ limiter.maxTotal

theorem balanced_create {requestsPerSecond burst : ℚ}
    {maxPerIp maxTotal : ℤ} {idleTimeout : ℚ}
    (perIp : 0 ≤ maxPerIp) (overall : 0 ≤ maxTotal) :
    (create requestsPerSecond burst maxPerIp maxTotal idleTimeout).Balanced where
  total := rfl
  positive := by
    intro ip count found
    cases found
  perIp := fun _ => perIp
  overall := overall

structure SameCounts (first second : RateLimiter) : Prop where
  connections : second.connections = first.connections
  total : second.totalConnections = first.totalConnections
  perIp : second.maxPerIp = first.maxPerIp
  overall : second.maxTotal = first.maxTotal

theorem SameCounts.refl (limiter : RateLimiter) : SameCounts limiter limiter :=
  ⟨rfl, rfl, rfl, rfl⟩

theorem SameCounts.connectionsFor {first second : RateLimiter}
    (same : SameCounts first second) (ip : Ip) :
    second.connectionsFor ip = first.connectionsFor ip := by
  rw [RateLimiter.connectionsFor, same.connections, RateLimiter.connectionsFor]

theorem sameCounts_findBucket (limiter : RateLimiter) (ip : Ip) (now : ℚ) :
    SameCounts limiter (limiter.findBucket ip now) := by
  unfold findBucket
  split <;> exact ⟨rfl, rfl, rfl, rfl⟩

theorem sameCounts_consumeFor (limiter : RateLimiter) (ip : Ip) (now : ℚ) :
    SameCounts limiter (limiter.consumeFor ip now).2 := by
  unfold consumeFor
  split <;> exact ⟨rfl, rfl, rfl, rfl⟩

theorem sameCounts_touch (limiter : RateLimiter) (ip : Ip) (now : ℚ) :
    SameCounts limiter (limiter.touch ip now) :=
  ⟨rfl, rfl, rfl, rfl⟩

theorem Balanced.of_sameCounts {first second : RateLimiter}
    (balanced : first.Balanced) (same : SameCounts first second) :
    second.Balanced where
  total := by rw [same.total, same.connections, balanced.total]
  positive := by
    rw [same.connections]
    exact balanced.positive
  perIp := by
    intro ip
    rw [same.connectionsFor, same.perIp]
    exact balanced.perIp ip
  overall := by
    rw [same.total, same.overall]
    exact balanced.overall

/-- `second` counts `count` connections for `ip`, and nothing else differs. -/
structure Recounted (first second : RateLimiter) (ip : Ip) (count : ℤ) :
    Prop where
  lookup : ∀ other, second.connections.lookup other =
    if other = ip then (if count = 0 then none else some count)
    else first.connections.lookup other
  tally : tally second.connections =
    Foundation.tally first.connections - first.connectionsFor ip + count
  total : second.totalConnections =
    first.totalConnections - first.connectionsFor ip + count
  perIp : second.maxPerIp = first.maxPerIp
  overall : second.maxTotal = first.maxTotal

section

variable {first second : RateLimiter} {ip : Ip} {count : ℤ}
  (recounted : Recounted first second ip count)
include recounted

theorem Recounted.connectionsFor (other : Ip) :
    second.connectionsFor other =
      if other = ip then count else first.connectionsFor other := by
  rw [RateLimiter.connectionsFor, recounted.lookup]
  by_cases same : other = ip
  · by_cases zero : count = 0
    · simp [same, zero]
    · simp [same, zero]
  · simp [same, RateLimiter.connectionsFor]

theorem Recounted.balanced (balanced : first.Balanced) (nonneg : 0 ≤ count)
    (roomIp : count ≤ first.maxPerIp)
    (roomTotal : first.totalConnections - first.connectionsFor ip + count ≤
      first.maxTotal) : second.Balanced where
  total := by rw [recounted.total, recounted.tally, balanced.total]
  positive := by
    intro other value found
    rw [recounted.lookup] at found
    by_cases same : other = ip
    · by_cases zero : count = 0
      · simp [same, zero] at found
      · simp only [same, zero, if_true, if_false, Option.some.injEq] at found
        omega
    · rw [if_neg same] at found
      exact balanced.positive other value found
  perIp := by
    intro other
    rw [recounted.connectionsFor, recounted.perIp]
    split
    · exact roomIp
    · exact balanced.perIp other
  overall := by
    rw [recounted.total, recounted.overall]
    exact roomTotal

end

section

variable {limiter : RateLimiter} (balanced : limiter.Balanced)
include balanced

theorem Balanced.nonneg (ip : Ip) : 0 ≤ limiter.connectionsFor ip := by
  unfold RateLimiter.connectionsFor
  cases found : limiter.connections.lookup ip with
  | none => exact le_rfl
  | some count => exact (balanced.positive ip count found).le

theorem Balanced.connectionsFor_le_total (ip : Ip) :
    limiter.connectionsFor ip ≤ limiter.totalConnections := by
  rw [balanced.total]
  apply getD_lookup_le_tally
  intro key value found
  exact (balanced.positive key value found).le

theorem Balanced.recounted_tryAddConnection {ip : Ip} {now : ℚ}
    (admitted : (limiter.tryAddConnection ip now).1 = true) :
    Recounted limiter (limiter.tryAddConnection ip now).2 ip
      (limiter.connectionsFor ip + 1) := by
  rcases limiter.tryAddConnection_cases ip now with
    ⟨result, -⟩ | ⟨result, -, -⟩
  · rw [result] at admitted
    cases admitted
  · have nonneg := balanced.nonneg ip
    have nonzero : limiter.connectionsFor ip + 1 ≠ 0 := by omega
    rw [result]
    exact
      { lookup := by
          intro other
          by_cases same : other = ip
          · subst same
            simp [nonzero]
          · simp [same, AList.lookup_insert_ne same]
        tally := tally_insert _ _ _
        total := by
          change limiter.totalConnections + 1 = _
          omega
        perIp := rfl
        overall := rfl }

theorem Balanced.removeConnection_of_zero {ip : Ip}
    (zero : limiter.connectionsFor ip = 0) :
    limiter.removeConnection ip = limiter := by
  have absent : limiter.connections.lookup ip ≠ some 0 := by
    intro found
    exact absurd (balanced.positive ip 0 found) (lt_irrefl 0)
  simp [removeConnection, zero, absent]

/-- Removing where something is counted lowers both counters by one and drops
the entry at zero; the clamp of the total never acts. -/
theorem Balanced.removeConnection_of_pos {ip : Ip}
    (pos : 0 < limiter.connectionsFor ip) :
    limiter.removeConnection ip = { limiter with
      connections :=
        if limiter.connectionsFor ip = 1 then limiter.connections.erase ip
        else limiter.connections.insert ip (limiter.connectionsFor ip - 1)
      totalConnections := limiter.totalConnections - 1 } := by
  have covered := balanced.connectionsFor_le_total ip
  have clamp : max 0 (limiter.totalConnections - 1) =
      limiter.totalConnections - 1 := max_eq_right (by omega)
  by_cases one : limiter.connectionsFor ip = 1
  · simp [removeConnection, clamp, one, erase_insert]
  · have rest : limiter.connectionsFor ip - 1 ≠ 0 := by omega
    simp [removeConnection, pos, clamp, one, rest]

theorem Balanced.recounted_removeConnection {ip : Ip}
    (pos : 0 < limiter.connectionsFor ip) :
    Recounted limiter (limiter.removeConnection ip) ip
      (limiter.connectionsFor ip - 1) := by
  rw [balanced.removeConnection_of_pos pos]
  by_cases one : limiter.connectionsFor ip = 1
  · simp only [one, if_true]
    exact
      { lookup := by
          intro other
          by_cases same : other = ip
          · subst same
            simp
          · simp [same, AList.lookup_erase_ne same]
        tally := by
          have erased := tally_erase limiter.connections ip
          change tally (limiter.connections.erase ip) = _ at erased
          rw [erased]
          change _ - limiter.connectionsFor ip = _
          omega
        total := by
          change limiter.totalConnections - 1 = _
          omega
        perIp := rfl
        overall := rfl }
  · have nonzero : limiter.connectionsFor ip - 1 ≠ 0 := by omega
    simp only [one, if_false]
    exact
      { lookup := by
          intro other
          by_cases same : other = ip
          · subst same
            simp [nonzero]
          · simp [same, AList.lookup_insert_ne same]
        tally := tally_insert _ _ _
        total := by
          change limiter.totalConnections - 1 = _
          omega
        perIp := rfl
        overall := rfl }

theorem Balanced.tryAddConnection (ip : Ip) (now : ℚ) :
    (limiter.tryAddConnection ip now).2.Balanced := by
  rcases limiter.tryAddConnection_cases ip now with
    ⟨result, -⟩ | ⟨result, roomTotal, roomIp⟩
  · rw [result]
    exact balanced
  · have admitted : (limiter.tryAddConnection ip now).1 = true := by
      rw [result]
    have nonneg := balanced.nonneg ip
    exact (balanced.recounted_tryAddConnection admitted).balanced balanced
      (by omega) (by omega) (by omega)

theorem Balanced.removeConnection (ip : Ip) :
    (limiter.removeConnection ip).Balanced := by
  have perIp := balanced.perIp ip
  have overall := balanced.overall
  rcases (balanced.nonneg ip).lt_or_eq with pos | zero
  · exact (balanced.recounted_removeConnection pos).balanced balanced
      (by omega) (by omega) (by omega)
  · rw [balanced.removeConnection_of_zero zero.symm]
    exact balanced

end

end RateLimiter

end VpnTunnel.Server
