namespace LedgerClient

structure Duration where
  nanos : Nat
  bounded : nanos < UInt64.size * 1000000000
deriving DecidableEq

namespace Duration

def ofMillis (ms : UInt64) : Duration where
  nanos := ms.toNat * 1000000
  bounded := by
    have := ms.toNat_lt_size
    omega

instance : Coe UInt64 Duration := ⟨ofMillis⟩

def millis (d : Duration) : BitVec 128 := .ofNat 128 (d.nanos / 1000000)

/-- Milliseconds after which a timer has let the span pass. It tells no finer time. -/
def ticks (d : Duration) : Nat := (d.nanos + 999999) / 1000000

def decimal (n unit : Nat) : String :=
  if n % unit = 0 then (n / unit).repr
  else
    let digits := (unit + n % unit).repr.toList.drop 1
    (n / unit).repr ++ "." ++ String.ofList (digits.reverse.dropWhile (· == '0')).reverse

def describe (d : Duration) : String :=
  if 1000000000 ≤ d.nanos then decimal d.nanos 1000000000 ++ "s"
  else if 1000000 ≤ d.nanos then decimal d.nanos 1000000 ++ "ms"
  else if 1000 ≤ d.nanos then decimal d.nanos 1000 ++ "µs"
  else d.nanos.repr ++ "ns"

end Duration

end LedgerClient
