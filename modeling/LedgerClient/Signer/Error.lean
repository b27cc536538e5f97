import LedgerClient.Signer.KeyStore

namespace LedgerClient

inductive CustodyError where
  | authentication
  | locked
  | connection (reason : String)
  | rejected (reason : String)
deriving DecidableEq

def CustodyError.message : CustodyError → String
  | authentication => "custody rejected the credential"
  | locked => "address is locked in custody"
  | connection reason => "custody unreachable: " ++ reason
  | rejected reason => "custody refused: " ++ reason

inductive CustodyFault where
  | refused (reason : String)
  | notListed (cause : CustodyError)
  | signature (address : Address)
  | messageSignature (address : Address)
deriving DecidableEq

def CustodyFault.message : CustodyFault → String
  | refused reason => reason
  | notListed cause => cause.message
  | signature address => "signature from custody does not verify for " ++ address.encode
  | messageSignature address =>
    "message signature from custody does not verify for " ++ address.encode

inductive SignerError where
  | authentication (address : Address)
  | locked
  | senderMismatch (expected actual : Address)
  | keyStore (cause : KeyStoreError)
  | connection (reason : String)
  | custody (cause : CustodyFault)
  | key (cause : KeyError)
deriving DecidableEq

namespace SignerError

def message : SignerError → String
  | authentication address => "authentication failed for " ++ address.encode
  | locked => "signer is locked"
  | senderMismatch expected actual =>
    "sender mismatch: signer is " ++ expected.encode ++ ", transaction sender is " ++ actual.encode
  | keyStore cause => "key store error: " ++ cause.message
  | connection reason => "key custody connection error: " ++ reason
  | custody cause => "key custody error: " ++ cause.message
  | key cause => cause.message

def ofKeyStore : KeyStoreError → SignerError
  | .authentication address => authentication address
  | .key cause => key cause
  | cause => keyStore cause

def ofCustody (address : Address) : CustodyError → SignerError
  | .authentication => authentication address
  | .locked => locked
  | .connection reason => connection reason
  | .rejected reason => custody (.refused reason)

def ofListing : CustodyError → SignerError
  | .connection reason => connection reason
  | cause => custody (.notListed cause)

end SignerError

end LedgerClient
