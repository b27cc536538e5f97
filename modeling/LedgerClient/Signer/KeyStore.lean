import LedgerClient.Identity.KeyPair
import LedgerClient.Table

namespace LedgerClient

structure Credential where
  password : String
deriving DecidableEq

namespace Credential

def bytes (c : Credential) : Bytes := Bytes.ofText c.password

def describe (_ : Credential) : String := "Credential(***)"

end Credential

inductive KeyStoreError where
  | notFound (address : Address)
  | authentication (address : Address)
  | misfiled (address actual : Address)
  | key (cause : KeyError)
deriving DecidableEq

def KeyStoreError.message : KeyStoreError → String
  | notFound address => "no key stored for " ++ address.encode
  | authentication address => "wrong credential for " ++ address.encode
  | misfiled address actual =>
    "key store backend error: stored key for " ++ address.encode ++ " opens to " ++ actual.encode
  | key cause => cause.message

abbrev KeyStore := Table Address SealedKey

namespace KeyStore

def reveal (k : SealedKey) (address : Address) (c : Credential) : Except KeyStoreError KeyPair :=
  match KeyPair.importSealed k c.bytes with
  | .error .authentication => .error (.authentication address)
  | .error cause => .error (.key cause)
  | .ok key =>
    if key.address = address then .ok key else .error (.misfiled address key.address)

def sealedKey (s : KeyStore) (address : Address) : Except KeyStoreError SealedKey :=
  match s.get? address with
  | some k => .ok k
  | none => .error (.notFound address)

def insertSealed (s : KeyStore) (address : Address) (k : SealedKey) : KeyStore := s.set address k

def save (s : KeyStore) (key : KeyPair) (nonce : Gcm.Nonce) (c : Credential) :
    Except KeyStoreError (Address × KeyStore) :=
  match key.exportSealed nonce c.bytes with
  | .error cause => .error (.key cause)
  | .ok k => .ok (key.address, s.set key.address k)

def load (s : KeyStore) (address : Address) (c : Credential) : Except KeyStoreError KeyPair := do
  reveal (← s.sealedKey address) address c

def handOut (s : KeyStore) (address : Address) (c : Credential) :
    Except KeyStoreError SealedKey := do
  let k ← s.sealedKey address
  let _ ← reveal k address c
  return k

def remove (s : KeyStore) (address : Address) (c : Credential) : Except KeyStoreError KeyStore := do
  let _ ← s.load address c
  return s.erase address

def identities (s : KeyStore) : List Address := Address.sort s.keys

end KeyStore

end LedgerClient
