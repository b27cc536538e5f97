import LedgerClient.Config.Basic
import LedgerClient.Submission.Requester

namespace LedgerClient

structure Wallet where
  requester : Requester
  client : Client

namespace Wallet

def metrics (config : ClientConfig) : Except ConfigError Metrics :=
  (Metrics.create config.metricsFamily).mapError fun cause => .unusable (.metrics cause)

def ofConfig (signer : Signer) (config : ClientConfig) : Except ClientError Wallet :=
  let wired : Except ConfigError Wallet := do
    config.validate
    let metrics ← metrics config
    return ⟨⟨← config.policy, config.chain⟩, .start signer (some metrics)⟩
  wired.mapError .config

def describe (w : Wallet) : String :=
  "Wallet \x7b signer: " ++ w.client.signer.describe ++ ", requester: " ++
    w.requester.describe w.client.nonces ++ ", .. \x7d"

end Wallet

end LedgerClient
