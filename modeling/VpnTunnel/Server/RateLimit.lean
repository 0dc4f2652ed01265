import Mathlib.Data.List.AList
import Mathlib.Algebra.Order.Ring.Unbundled.Rat
import VpnTunnel.Foundation.Tally

namespace VpnTunnel.Server

open VpnTunnel.Foundation

abbrev Ip := String

/-! Times and tokens are exact rationals; every clock reading is an argument. -/

structure TokenBucket where
  rate : ℚ
  capacity : ℚ
  tokens : ℚ
  last : ℚ
  deriving DecidableEq, Repr

namespace TokenBucket

def create (rate capacity now : ℚ) : TokenBucket :=
  { rate, capacity, tokens := capacity, last := now }

def consume (bucket : TokenBucket) (now tokens : ℚ) : Bool × TokenBucket :=
  let elapsed := now - bucket.last
  let refilled := min bucket.capacity (bucket.tokens + elapsed * bucket.rate)
  if refilled ≥ tokens then
    (true, { bucket with tokens := refilled - tokens, last := now })
  else
    (false, { bucket with tokens := refilled, last := now })

end TokenBucket

structure RateLimiter where
  rps : ℚ
  burst : ℚ
  maxPerIp : ℤ
  maxTotal : ℤ
  idleTimeout : ℚ
  buckets : AList fun _ : Ip => TokenBucket
  connections : AList fun _ : Ip => ℤ
  totalConnections : ℤ
  lastActivity : AList fun _ : Ip => ℚ

namespace RateLimiter

def create (requestsPerSecond burst : ℚ) (maxConnectionsPerIp
    maxTotalConnections : ℤ) (idleTimeout : ℚ) : RateLimiter :=
  { rps := requestsPerSecond, burst, maxPerIp := maxConnectionsPerIp,
    maxTotal := maxTotalConnections, idleTimeout, buckets := ∅,
    connections := ∅, totalConnections := 0, lastActivity := ∅ }

/-! `check_rate` holds two locks one after the other, so it is two sections:
the limiter's lock to find or create the bucket, then the bucket's own. -/

def findBucket (limiter : RateLimiter) (ip : Ip) (now : ℚ) : RateLimiter :=
  if ip ∈ limiter.buckets then limiter
  else
    { limiter with
      buckets := limiter.buckets.insert ip
        (TokenBucket.create limiter.rps limiter.burst now) }

/-- `bucket.consume()` on the bucket that `findBucket` returned; buckets are
never removed or replaced, so the ip identifies it. -/
def consumeFor (limiter : RateLimiter) (ip : Ip) (now : ℚ) :
    Bool × RateLimiter :=
  match limiter.buckets.lookup ip with
  | none => (false, limiter)
  | some bucket =>
      let (allowed, bucket) := bucket.consume now 1
      (allowed, { limiter with buckets := limiter.buckets.insert ip bucket })

def connectionsFor (limiter : RateLimiter) (ip : Ip) : ℤ :=
  (limiter.connections.lookup ip).getD 0

def tryAddConnection (limiter : RateLimiter) (ip : Ip) (now : ℚ) :
    Bool × RateLimiter :=
  if limiter.totalConnections ≥ limiter.maxTotal then (false, limiter)
  else
    let current := limiter.connectionsFor ip
    if current ≥ limiter.maxPerIp then (false, limiter)
    else
      (true, { limiter with
        connections := limiter.connections.insert ip (current + 1)
        totalConnections := limiter.totalConnections + 1
        lastActivity := limiter.lastActivity.insert ip now })

def removeConnection (limiter : RateLimiter) (ip : Ip) : RateLimiter :=
  let current := limiter.connectionsFor ip
  let limiter :=
    if current > 0 then
      { limiter with
        connections := limiter.connections.insert ip (current - 1)
        totalConnections := max 0 (limiter.totalConnections - 1) }
    else limiter
  if limiter.connections.lookup ip = some 0 then
    { limiter with connections := limiter.connections.erase ip }
  else limiter

def touch (limiter : RateLimiter) (ip : Ip) (now : ℚ) : RateLimiter :=
  { limiter with lastActivity := limiter.lastActivity.insert ip now }

def isIdle (limiter : RateLimiter) (ip : Ip) (now : ℚ) : Bool :=
  match limiter.lastActivity.lookup ip with
  | none => true
  | some last => now - last > limiter.idleTimeout

/-! Which fields each method writes. -/

section Frames

variable (limiter : RateLimiter) (ip : Ip) (now : ℚ)

theorem removeConnection_frame :
    (limiter.removeConnection ip).rps = limiter.rps ∧
      (limiter.removeConnection ip).burst = limiter.burst ∧
      (limiter.removeConnection ip).buckets = limiter.buckets := by
  unfold removeConnection
  dsimp only
  split_ifs <;> exact ⟨rfl, rfl, rfl⟩

theorem tryAddConnection_cases :
    (limiter.tryAddConnection ip now = (false, limiter) ∧
      (limiter.totalConnections ≥ limiter.maxTotal ∨
        limiter.connectionsFor ip ≥ limiter.maxPerIp)) ∨
    (limiter.tryAddConnection ip now = (true, { limiter with
        connections :=
          limiter.connections.insert ip (limiter.connectionsFor ip + 1)
        totalConnections := limiter.totalConnections + 1
        lastActivity := limiter.lastActivity.insert ip now }) ∧
      limiter.totalConnections < limiter.maxTotal ∧
      limiter.connectionsFor ip < limiter.maxPerIp) := by
  unfold tryAddConnection
  by_cases total : limiter.totalConnections ≥ limiter.maxTotal
  · exact .inl ⟨if_pos total, .inl total⟩
  · by_cases perIp : limiter.connectionsFor ip ≥ limiter.maxPerIp
    · exact .inl ⟨by simp [total, perIp], .inr perIp⟩
    · exact .inr ⟨by simp [total, perIp], Int.not_le.mp total,
        Int.not_le.mp perIp⟩

end Frames

end RateLimiter

end VpnTunnel.Server
