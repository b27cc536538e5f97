import LedgerClient.Duration

namespace LedgerClient

structure RetryPolicy where
  tries : UInt32
  interval : Duration
  /-- Whether an answer that has not come is worth another attempt. Off unless asked for: a
  transaction sent twice may be spent twice. -/
  retriesConnections : Bool
  tries_pos : 0 < tries.toNat
deriving DecidableEq

namespace RetryPolicy

def standard : RetryPolicy := ⟨2, .ofMillis 100, false, by decide⟩

def intervalMs (p : RetryPolicy) : BitVec 128 := p.interval.millis

def maxAttempts (p : RetryPolicy) : Nat := min (p.tries.toNat + 1) (UInt32.size - 1)

def describe (p : RetryPolicy) : String :=
  "RetryPolicy \x7b try_count: " ++ p.tries.toNat.repr ++ ", interval: " ++
    p.interval.describe ++ ", retry_on_connection_error: " ++
    (if p.retriesConnections then "true" else "false") ++ " \x7d"

end RetryPolicy

end LedgerClient
