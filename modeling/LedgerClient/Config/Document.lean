import LedgerClient.Config.Basic
import LedgerClient.Transaction.Document

namespace LedgerClient

open Json

def LogFormat.read : Reader LogFormat := choice ([.pretty, .json].map fun f => (name f, f))
def LogFormat.write (f : LogFormat) : Value := .text f.name

namespace RetryConfig

structure Members where
  tries : Option UInt32 := none
  intervalMs : Option UInt64 := none
  retriesConnections : Option Bool := none

def record : Record Members RetryConfig where
  name := "RetryConfig"
  fields := [
    ⟨"try_count", (·.tries.isSome), fun m => return { m with tries := some (← word32) }⟩,
    ⟨"interval_ms", (·.intervalMs.isSome), fun m =>
      return { m with intervalMs := some (← word64) }⟩,
    ⟨"retry_on_connection_error", (·.retriesConnections.isSome), fun m =>
      return { m with retriesConnections := some (← boolean) }⟩]
  start := {}
  closed := true
  fillsTail := true
  finish m :=
    let standard : RetryConfig := {}
    return ⟨m.tries.getD standard.tries, m.intervalMs.getD standard.intervalMs,
      m.retriesConnections.getD standard.retriesConnections⟩

def read : Reader RetryConfig := record.read

def write (r : RetryConfig) : Value :=
  .object [("try_count", .natural r.tries.toNat), ("interval_ms", .natural r.intervalMs.toNat),
    ("retry_on_connection_error", .boolean r.retriesConnections)]

end RetryConfig

namespace ClientConfig

structure Members where
  chain : Option (Option ChainId) := none
  retry : Option RetryConfig := none
  logLevel : Option String := none
  logFormat : Option LogFormat := none
  metricsFamily : Option String := none

def Members.finish (m : Members) : ClientConfig :=
  let standard : ClientConfig := {}
  { chain := m.chain.getD standard.chain
    retry := m.retry.getD standard.retry
    logLevel := m.logLevel.getD standard.logLevel
    logFormat := m.logFormat.getD standard.logFormat
    metricsFamily := m.metricsFamily.getD standard.metricsFamily }

def record : Record Members ClientConfig where
  name := "ClientConfig"
  fields := [
    ⟨"chain_id", (·.chain.isSome), fun m =>
      return { m with chain := some (← optional ChainId.read) }⟩,
    ⟨"retry", (·.retry.isSome), fun m => return { m with retry := some (← RetryConfig.read) }⟩,
    ⟨"log_level", (·.logLevel.isSome), fun m => return { m with logLevel := some (← string) }⟩,
    ⟨"log_format", (·.logFormat.isSome), fun m =>
      return { m with logFormat := some (← LogFormat.read) }⟩,
    ⟨"metrics_prefix", (·.metricsFamily.isSome), fun m =>
      return { m with metricsFamily := some (← string) }⟩]
  start := {}
  closed := true
  fillsTail := true
  finish m := .ok m.finish

def read : Reader ClientConfig := record.read

def write (c : ClientConfig) : Value :=
  .object [("chain_id", Value.optional ChainId.write c.chain), ("retry", c.retry.write),
    ("log_level", .text c.logLevel), ("log_format", c.logFormat.write),
    ("metrics_prefix", .text c.metricsFamily)]

def parse (s : String) : Except ConfigError ClientConfig :=
  match document read s with
  | .error fault => .error (.parse fault)
  | .ok c => .ok c

def load (s : String) : Except ConfigError ClientConfig := do
  let c ← parse s
  c.validate
  return c

def loadFile (content : Option Bytes) : Except ConfigError ClientConfig :=
  match content with
  | none => .error .notFound
  | some b =>
    match b.toText? with
    | none => .error .notText
    | some s => load s

end ClientConfig

end LedgerClient
