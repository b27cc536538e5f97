import LedgerClient.Signer.Error
import LedgerClient.Transaction.Signed

namespace LedgerClient

inductive LockOutcome where
  | locked
  | nothingToLock
deriving DecidableEq

def ensureSender (principal : Address) (tx : Transaction) : Except SignerError Unit :=
  if tx.sender = principal then .ok () else .error (.senderMismatch principal tx.sender)

structure LocalSigner where
  store : KeyStore
  unlocked : Option KeyPair

namespace LocalSigner

def ofStore (store : KeyStore) : LocalSigner := ⟨store, none⟩

def ofKeyPair (key : KeyPair) : LocalSigner := ⟨.empty, some key⟩

def key (s : LocalSigner) : Except SignerError KeyPair :=
  match s.unlocked with
  | some key => .ok key
  | none => .error .locked

def unlock (s : LocalSigner) (address : Address) (c : Credential) :
    Except SignerError (Address × LocalSigner) :=
  match s.store.load address c with
  | .error cause => .error (.ofKeyStore cause)
  | .ok key => .ok (key.address, { s with unlocked := some key })

def lock (s : LocalSigner) : LockOutcome × LocalSigner :=
  (if s.unlocked.isSome then .locked else .nothingToLock, { s with unlocked := none })

def sign (s : LocalSigner) (tx : Transaction) : Except SignerError SignedTransaction := do
  let key ← s.key
  ensureSender key.address tx
  (key.signTransaction tx).mapError .key

def signMessage (s : LocalSigner) (message : Bytes) : Except SignerError Signature := do
  let key ← s.key
  (key.sign message).mapError .key

end LocalSigner

structure Session where
  address : Address
  credential : Credential
deriving DecidableEq

structure RemoteSigner where
  session : Option Session
deriving DecidableEq

inductive Signer where
  | resident (s : LocalSigner)
  | remote (s : RemoteSigner)

namespace Signer

def principal? : Signer → Option Address
  | resident s => s.unlocked.map (·.address)
  | remote s => s.session.map (·.address)

def principal (s : Signer) : Except SignerError Address :=
  match s.principal? with
  | some address => .ok address
  | none => .error .locked

def isUnlocked (s : Signer) : Bool := s.principal?.isSome

def describe (s : Signer) : String :=
  let name := match s with
    | resident _ => "LocalSigner"
    | remote _ => "RemoteSigner"
  let principal := match s.principal? with
    | some address => "Some(" ++ address.describe ++ ")"
    | none => "None"
  name ++ " \x7b principal: " ++ principal ++ " \x7d"

end Signer

end LedgerClient
