import LedgerClient.Transaction.Signed

namespace LedgerClient

/-- The node's record of an account; `nonce` is that of the last transaction it accepted. -/
structure AccountState where
  address : Address
  nonce : Nonce
  balance : Amount
deriving DecidableEq

inductive CommitStatus where
  | ok
  | nonceTooLow
  | duplicateNonce
  | txAlreadyExists
  | invalidHash
  | invalidSignature
  | invalidFormat
  | insufficientBalance
  | invalidChainId
  | internalError
  | unrecognized
deriving DecidableEq

namespace CommitStatus

def name : CommitStatus → String
  | ok => "OK"
  | nonceTooLow => "NONCE_TOO_LOW"
  | duplicateNonce => "DUPLICATE_NONCE"
  | txAlreadyExists => "TX_ALREADY_EXISTS"
  | invalidHash => "INVALID_HASH"
  | invalidSignature => "INVALID_SIGNATURE"
  | invalidFormat => "INVALID_FORMAT"
  | insufficientBalance => "INSUFFICIENT_BALANCE"
  | invalidChainId => "INVALID_CHAIN_ID"
  | internalError => "INTERNAL_ERROR"
  | unrecognized => "UNRECOGNIZED"

def all : List CommitStatus :=
  [ok, nonceTooLow, duplicateNonce, txAlreadyExists, invalidHash, invalidSignature, invalidFormat,
    insufficientBalance, invalidChainId, internalError, unrecognized]

def ofName? (s : String) : Option CommitStatus := all.find? (·.name == s)

def isRetryable : CommitStatus → Bool
  | nonceTooLow => true
  | duplicateNonce => true
  | _ => false

end CommitStatus

structure Rejection where
  status : CommitStatus
  detail : String
deriving DecidableEq

def Rejection.isRetryable (r : Rejection) : Bool := r.status.isRetryable

def Rejection.message (r : Rejection) : String :=
  "commit rejected with " ++ r.status.name ++ ": " ++ r.detail

inductive NodeError where
  | rejected (cause : Rejection)
  | connection (reason : String)
deriving DecidableEq

def NodeError.message : NodeError → String
  | rejected cause => cause.message
  | connection reason => "connection error: " ++ reason

end LedgerClient
