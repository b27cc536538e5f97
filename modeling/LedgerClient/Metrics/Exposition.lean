import LedgerClient.Decimal.Shortest
import LedgerClient.Metrics.Basic

namespace LedgerClient

namespace Exposition

def count (n : Nat) : String := Float.plain (Metrics.reading n).toFloat

def heading (name help kind : String) : List String :=
  ["# HELP " ++ name ++ " " ++ help, "# TYPE " ++ name ++ " " ++ kind]

def counter (name help : String) (n : Nat) : List String :=
  heading name help "counter" ++ [name ++ " " ++ count n]

def bucket (name bound : String) (n : Nat) : String :=
  name ++ "_bucket\x7ble=\"" ++ bound ++ "\"\x7d " ++ count n

def cumulative (name : String) : (below : Nat) → List Float → List Nat → List String
  | below, bound :: bounds, n :: ns =>
    bucket name (Float.plain bound) (below + n) :: cumulative name (below + n) bounds ns
  | _, _, _ => []

def histogram (name help : String) (h : Histogram) : List String :=
  heading name help "histogram" ++ cumulative name 0 Histogram.bounds h.buckets ++
    [bucket name "+Inf" h.count, name ++ "_sum " ++ Float.plain h.sum,
      name ++ "_count " ++ count h.count]

end Exposition

open Exposition in
def Metrics.families (m : Metrics) : List (List String) :=
  let name (s : String) := m.family ++ "_" ++ s
  [counter (name "nonce_conflicts_total")
      "Submissions rejected with NONCE_TOO_LOW or DUPLICATE_NONCE" m.conflicts,
    counter (name "nonce_rebinds_total") "Nonce cache rebinds to the node's account state" m.rebinds,
    histogram (name "request_latency_seconds") "Request latency in seconds, retries included"
      m.latency,
    counter (name "requests_failed_total") "Requests that ended in an error" m.failed,
    counter (name "requests_succeeded_total") "Requests that ended with a committed transaction"
      m.succeeded,
    counter (name "submit_attempts_total") "Transactions submitted to the node, retries included"
      m.attempts]

def Metrics.expose (m : Metrics) : String :=
  String.join (m.families.flatten.map (· ++ "\n"))

end LedgerClient
