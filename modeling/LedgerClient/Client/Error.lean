import LedgerClient.Config.Basic
import LedgerClient.Node.Basic
import LedgerClient.Signer.Error

namespace LedgerClient

inductive NonceError where
  | node (cause : NodeError)
  | overflow (address : Address)
deriving DecidableEq

def NonceError.message : NonceError → String
  | node cause => cause.message
  | overflow address => "nonce space exhausted for " ++ address.encode

inductive ClientError where
  | key (cause : KeyError)
  | encoding (cause : EncodingError)
  | signer (cause : SignerError)
  | nonce (cause : NonceError)
  | transaction (cause : TransactionError)
  | config (cause : ConfigError)
  | conflict (cause : Rejection)
  | refused (cause : Rejection)
  | connection (reason : String)
  | chainMismatch (expected actual : ChainId)

namespace ClientError

def message? : ClientError → Option String
  | key cause => cause.message
  | encoding cause => cause.message
  | signer cause => cause.message
  | nonce cause => cause.message
  | transaction cause => cause.message
  | config cause => cause.message?
  | conflict cause => some ("retryable conflict: " ++ cause.message)
  | refused cause => some ("commit failed: " ++ cause.message)
  | connection reason => some ("connection error: " ++ reason)
  | chainMismatch expected actual =>
    some ("chain id mismatch: client is on " ++ expected.encode ++ ", transaction is for " ++
      actual.encode)

def ofNode : NodeError → ClientError
  | .rejected cause => if cause.isRetryable then conflict cause else refused cause
  | .connection reason => connection reason

def isConflict : ClientError → Bool
  | conflict _ => true
  | _ => false

def rejection? : ClientError → Option Rejection
  | conflict cause => some cause
  | refused cause => some cause
  | _ => none

end ClientError

end LedgerClient
