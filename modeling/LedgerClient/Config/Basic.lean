import LedgerClient.Json.Fault
import LedgerClient.Metrics.Basic
import LedgerClient.Submission.Policy
import LedgerClient.Transaction.Basic

namespace LedgerClient

inductive Unusable where
  | retryTries
  | policyTries
  | metricsFamily
  | noChain
  | metrics (cause : MetricsError)

inductive ConfigError where
  | notFound
  | notText
  | parse (fault : Json.Fault)
  | unusable (cause : Unusable)

def Unusable.message : Unusable → String
  | retryTries => "retry.try_count must be >= 1"
  | policyTries => "try_count must be >= 1"
  | metricsFamily => "metrics_prefix must not be empty"
  | noChain => "chain_id is not configured"
  | metrics cause => "metrics: " ++ cause.message

def ConfigError.message? : ConfigError → Option String
  | notFound => none
  | notText => none
  | parse (.mismatch cause) => some cause.message
  | parse _ => none
  | unusable cause => some ("invalid config: " ++ cause.message)

inductive LogFormat where
  | pretty
  | json
deriving DecidableEq

def LogFormat.name : LogFormat → String
  | pretty => "pretty"
  | json => "json"

/-- Reads "json" in letters of either case, and anything else as the default. Only letters that
are ASCII turn into those of the name. -/
def LogFormat.ofText (s : String) : LogFormat := if s.toLower = "json" then json else pretty

structure RetryConfig where
  tries : UInt32 := RetryPolicy.standard.tries
  intervalMs : UInt64 := .ofNat RetryPolicy.standard.intervalMs.toNat
  retriesConnections : Bool := RetryPolicy.standard.retriesConnections
deriving DecidableEq

structure ClientConfig where
  chain : Option ChainId := none
  retry : RetryConfig := {}
  logLevel : String := "info"
  logFormat : LogFormat := .pretty
  metricsFamily : String := "nova_client"
deriving DecidableEq

def RetryPolicy.create (tries : UInt32) (interval : Duration) (retriesConnections : Bool) :
    Except ConfigError RetryPolicy :=
  if h : 0 < tries.toNat then .ok ⟨tries, interval, retriesConnections, h⟩
  else .error (.unusable .policyTries)

namespace ClientConfig

def validate (c : ClientConfig) : Except ConfigError Unit :=
  if c.retry.tries = 0 then .error (.unusable .retryTries)
  else if c.metricsFamily = "" then .error (.unusable .metricsFamily)
  else .ok ()

def policy (c : ClientConfig) : Except ConfigError RetryPolicy :=
  RetryPolicy.create c.retry.tries c.retry.intervalMs c.retry.retriesConnections

def chainId (c : ClientConfig) : Except ConfigError ChainId :=
  match c.chain with
  | some chain => .ok chain
  | none => .error (.unusable .noChain)

end ClientConfig

end LedgerClient
