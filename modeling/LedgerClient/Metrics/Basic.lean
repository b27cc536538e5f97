namespace LedgerClient

structure Histogram where
  buckets : List Nat
  sum : Float
  count : Nat

namespace Histogram

def bounds : List Float := [0.001, 0.005, 0.01, 0.025, 0.05, 0.1, 0.25, 0.5, 1, 2.5, 5]

def empty : Histogram := ⟨bounds.map fun _ => 0, 0, 0⟩

def tally (x : Float) : List Float → List Nat → List Nat
  | bound :: bounds, n :: ns => if x ≤ bound then (n + 1) :: ns else n :: tally x bounds ns
  | _, ns => ns

def observe (h : Histogram) (x : Float) : Histogram :=
  ⟨tally x bounds h.buckets, h.sum + x, h.count + 1⟩

end Histogram

structure Metrics where
  family : String
  attempts : Nat
  conflicts : Nat
  rebinds : Nat
  failed : Nat
  succeeded : Nat
  latency : Histogram

inductive MetricsError where
  | emptyFamily
deriving DecidableEq

def MetricsError.message : MetricsError → String
  | emptyFamily => "Error: empty prefix namespace"

namespace Metrics

def start (family : String) : Metrics := ⟨family, 0, 0, 0, 0, 0, .empty⟩

def create (family : String) : Except MetricsError Metrics :=
  if family = "" then .error .emptyFamily else .ok (start family)

def finish (m : Metrics) (success : Bool) (seconds : Float) : Metrics :=
  if success then { m with succeeded := m.succeeded + 1, latency := m.latency.observe seconds }
  else { m with failed := m.failed + 1, latency := m.latency.observe seconds }

/-- Counters hold 64 bits and start anew beyond them. -/
def reading (n : Nat) : UInt64 := UInt64.ofNat n

def describe (m : Metrics) : String :=
  "ClientMetrics \x7b submit_attempts_total: " ++ (reading m.attempts).toNat.repr ++
    ", requests_succeeded_total: " ++ (reading m.succeeded).toNat.repr ++
    ", requests_failed_total: " ++ (reading m.failed).toNat.repr ++ " \x7d"

end Metrics

end LedgerClient
