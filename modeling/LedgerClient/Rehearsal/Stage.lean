import LedgerClient.Rehearsal.Script

/-! The stage of a rehearsal: a client, and a node and a custody service that follow their cues and
otherwise do what real ones would. -/

namespace LedgerClient.Rehearsal

inductive Event where
  | read (account : Address)
  | submit (tx : SignedTransaction)
  | custody (call : CustodyCall)
  | attempt (nonce : Nonce)
  | nested (step : Step) (answer : Answer)

inductive Opening where
  | stored (saved : List (KeyPair × String))
  | unlocked (key : KeyPair)
  | custody (held : List (KeyPair × String))

inductive Wiring where
  | config (config : ClientConfig)
  | bare (tries : UInt32) (intervalMs : UInt64) (retriesConnections : Bool) (chain : Option ChainId)
      (family : Option String)

structure Stage where
  keys : List KeyPair
  client : Client
  requester : Requester
  spareStore : KeyStore := .empty
  nodeNonces : Table Address Nonce := .empty
  reads : List (Option StateAnswer) := []
  submits : List SubmitCue := []
  custody : List CustodyCue := []
  attempts : List AttemptCue := []
  custodians : Table Address (KeyPair × String) := .empty
  unlocked : List Address := []
  seals : Nat := 0
  events : List Event := []

namespace Stage

def log (e : Event) (st : Stage) : Stage := { st with events := e :: st.events }

def addresses (st : Stage) : List Address := st.keys.map (·.address)

def inOrder (st : Stage) (as : List Address) : List Address :=
  st.addresses.eraseDups.filter (as.contains ·)

def store (st : Stage) : KeyStore :=
  match st.client.signer with
  | .resident s => s.store
  | .remote _ => st.spareStore

def setStore (st : Stage) (store : KeyStore) : Stage :=
  match st.client.signer with
  | .resident s => { st with client := { st.client with signer := .resident { s with store } } }
  | .remote _ => { st with spareStore := store }

def sealNonce (st : Stage) : Gcm.Nonce := ⟨Bytes.bigEndian 12 st.seals, by simp⟩

def save (st : Stage) (key : KeyPair) (password : String) :
    Except KeyStoreError (Address × Stage) := do
  let (a, store) ← st.store.save key st.sealNonce ⟨password⟩
  return (a, { st.setStore store with seals := st.seals + 1 })

def popRead (st : Stage) : Option StateAnswer × Stage :=
  match st.reads with
  | [] => (none, st)
  | answer :: rest => (answer, { st with reads := rest })

def popSubmit (st : Stage) : SubmitCue × Stage :=
  match st.submits with
  | [] => (⟨[], none⟩, st)
  | cue :: rest => (cue, { st with submits := rest })

def popCustody (st : Stage) : CustodyCue × Stage :=
  match st.custody with
  | [] => (⟨[], {}⟩, st)
  | cue :: rest => (cue, { st with custody := rest })

def popAttempt (st : Stage) : AttemptCue × Stage :=
  match st.attempts with
  | [] => (⟨[], none⟩, st)
  | cue :: rest => (cue, { st with attempts := rest })

def readState (a : Address) (st : Stage) : Except NodeError AccountState × Stage :=
  let (answer, st) := (st.log (.read a)).popRead
  match answer with
  | none => (.ok ⟨a, (st.nodeNonces.get? a).getD 0, 0⟩, st)
  | some (.error cause) => (.error cause, st)
  | some (.ok (nonce, other)) => (.ok ⟨other.getD a, nonce, 0⟩, st)

def authenticate (st : Stage) (a : Address) (c : Credential) : Except CustodyError Unit :=
  match st.custodians.get? a with
  | none => .error (.rejected "unknown address")
  | some (_, password) => if c.password = password then .ok () else .error .authentication

def custodySign (st : Stage) (a : Address) (signAs : Option KeyPair) (digest : Digest) :
    Except CustodyError Signature :=
  match st.custodians.get? a with
  | none => .error .locked
  | some (key, _) =>
    if st.unlocked.contains a then
      ((signAs.getD key).signDigest digest).mapError fun cause => .rejected cause.message
    else .error .locked

def custodyAct (signAs : Option KeyPair) : (call : CustodyCall) → Stage → call.Reply × Stage
  | .unlock a c, st =>
    let result := st.authenticate a c
    (result, if result.isOk then { st with unlocked := a :: st.unlocked } else st)
  | .lock a c, st =>
    let result := st.authenticate a c
    (result, if result.isOk then { st with unlocked := st.unlocked.filter (· ≠ a) } else st)
  | .sign a tx, st => (st.custodySign a signAs tx.hash.digest, st)
  | .signMessage a message, st => (st.custodySign a signAs (sha256 message), st)
  | .list, st => (.ok (st.inOrder st.custodians.keys), st)

def custodyFail (cause : CustodyError) : (call : CustodyCall) → call.Reply
  | .unlock _ _ => .error cause
  | .lock _ _ => .error cause
  | .sign _ _ => .error cause
  | .signMessage _ _ => .error cause
  | .list => .error cause

def logCustody (call : CustodyCall) (st : Stage) : Stage :=
  match call with
  | .list => st
  | call => st.log (.custody call)

def custodyCue (call : CustodyCall) (st : Stage) : CustodyCue × Stage :=
  let (cue, st) := (st.logCustody call).popCustody
  match call with
  | .list => ({ cue with steps := [] }, st)
  | _ => (cue, st)

def setUp (keys : List KeyPair) (signer : Signer) : Wiring → Except ClientError Stage
  | .config config => do
    let wallet ← Wallet.ofConfig signer config
    return { keys, client := wallet.client, requester := wallet.requester }
  | .bare tries intervalMs retriesConnections chain family => do
    let policy ← (RetryPolicy.create tries (.ofMillis intervalMs) retriesConnections).mapError .config
    let metrics ← family.mapM fun name =>
      (Metrics.create name).mapError fun cause => .config (.unusable (.metrics cause))
    return { keys, client := .start signer metrics, requester := ⟨policy, chain⟩ }

def saveAll (st : Stage) : List (KeyPair × String) → Except KeyStoreError Stage
  | [] => .ok st
  | (key, password) :: rest => do saveAll (← st.save key password).2 rest

def create (keys : List KeyPair) (opening : Opening) (wiring : Wiring) : Except Failure Stage :=
  match opening with
  | .stored saved => do
    let st ← (setUp keys (.resident (.ofStore .empty)) wiring).mapError .client
    (st.saveAll saved).mapError .keyStore
  | .unlocked key => (setUp keys (.resident (.ofKeyPair key)) wiring).mapError .client
  | .custody held => do
    let st ← (setUp keys (.remote ⟨none⟩) wiring).mapError .client
    return { st with
      custodians := held.foldl (fun t (key, password) => t.set key.address (key, password)) .empty }

def nonceHash (n : Nonce) : TxHash :=
  let b := Bytes.littleEndian 8 n.toNat
  ⟨b ++ b ++ b ++ b, by simp [b]⟩

end Stage

end LedgerClient.Rehearsal
