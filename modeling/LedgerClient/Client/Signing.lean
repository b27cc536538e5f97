import LedgerClient.Client.Task

/-! The signer of a client at work. Custody is trusted with the secrets but not with its answers:
a signature that does not verify never leaves the signer. -/

namespace LedgerClient

namespace Signer

def session? : Signer → Option Session
  | resident _ => none
  | remote s => s.session

def withSession (session : Option Session) : Signer → Signer
  | resident s => resident s
  | remote _ => remote ⟨session⟩

end Signer

namespace Signing

def setSigner (signer : Signer) : Task Unit := modify fun c => { c with signer }

def setSession (session : Option Session) : Task Unit :=
  modify fun c => { c with signer := c.signer.withSession session }

def principal : Action SignerError Address := do
  Action.ofExcept (← get).signer.principal

def askCustody {α : Type} (address : Address) (ask : Task (Except CustodyError α)) :
    Action SignerError α := do
  match ← ask with
  | .ok a => return a
  | .error cause => throw (.ofCustody address cause)

def sign (tx : Transaction) : Action SignerError SignedTransaction := do
  match (← get).signer with
  | .resident s => Action.ofExcept (s.sign tx)
  | .remote _ =>
    let address ← principal
    Action.ofExcept (ensureSender address tx)
    let signature ← askCustody address (Task.call (.custody (.sign address tx)))
    if address.verifiesDigest tx.hash.digest signature then return ⟨tx, signature⟩
    else throw (.custody (.signature address))

def signMessage (message : Bytes) : Action SignerError Signature := do
  match (← get).signer with
  | .resident s => Action.ofExcept (s.signMessage message)
  | .remote _ =>
    let address ← principal
    let signature ← askCustody address (Task.call (.custody (.signMessage address message)))
    if address.verifies message signature then return signature
    else throw (.custody (.messageSignature address))

def signText (text : String) : Action SignerError String := do
  return (← signMessage (Bytes.ofText text)).toBase64

def verifyMessage (message : Bytes) (signature : Signature) : Action SignerError Bool := do
  return (← principal).verifies message signature

def lockReplaced (address : Address) : Option Session → Task Unit
  | some previous =>
    if previous.address = address then pure ()
    else do
      let _ ← Task.call (.custody (.lock previous.address previous.credential))
      pure ()
  | none => pure ()

def unlock (address : Address) (c : Credential) : Action SignerError Address := do
  match (← get).signer with
  | .resident s =>
    let (unlocked, s) ← Action.ofExcept (s.unlock address c)
    setSigner (.resident s)
    return unlocked
  | .remote _ =>
    askCustody address (Task.call (.custody (.unlock address c)))
    let previous := (← get).signer.session?
    setSession (some ⟨address, c⟩)
    lockReplaced address previous
    return address

def restore (session : Session) : Task Unit := do
  if (← get).signer.session?.isNone then setSession (some session)

/-- Locks whatever is unlocked. A session that custody would not lock stays. -/
def lock : Action SignerError LockOutcome := do
  match (← get).signer with
  | .resident s =>
    let (outcome, s) := s.lock
    setSigner (.resident s)
    return outcome
  | .remote s =>
    match s.session with
    | none => return .nothingToLock
    | some session =>
      setSession none
      match ← Task.call (.custody (.lock session.address session.credential)) with
      | .ok () => return .locked
      | .error .locked => return .locked
      | .error cause =>
        restore session
        throw (.ofCustody session.address cause)

def identities : Action SignerError (List Address) := do
  match (← get).signer with
  | .resident s => return s.store.identities
  | .remote _ =>
    match ← Task.call (.custody .list) with
    | .ok addresses => return addresses
    | .error cause => throw (.ofListing cause)

end Signing

end LedgerClient
