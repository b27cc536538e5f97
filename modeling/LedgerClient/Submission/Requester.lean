import LedgerClient.Client.Nonces
import LedgerClient.Client.Signing

/-! Requests: a nonce, a submission with it, and further ones with fresh nonces for as long as the
node refuses nothing but the nonce and the policy allows. -/

namespace LedgerClient

inductive Verdict where
  | success (hash : TxHash)
  | conflict (cause : ClientError)
  | fatal (cause : ClientError)

def Verdict.ofResult (policy : RetryPolicy) : Except ClientError TxHash → Verdict
  | .ok hash => success hash
  | .error (.conflict cause) => conflict (.conflict cause)
  | .error (.connection reason) =>
    if policy.retriesConnections then conflict (.connection reason) else fatal (.connection reason)
  | .error cause => fatal cause

structure Requester where
  policy : RetryPolicy
  chain : Option ChainId
deriving DecidableEq

abbrev Builder := Nat → Nonce → Action ClientError TxHash

namespace Requester

def modifyMetrics (f : Metrics → Metrics) : Action ClientError Unit :=
  ExceptT.lift (modify (Client.mapMetrics f))

def countAttempt : Action ClientError Unit :=
  modifyMetrics fun m => { m with attempts := m.attempts + 1 }

def countConflict (cause : ClientError) : Action ClientError Unit :=
  if cause.isConflict then modifyMetrics fun m => { m with conflicts := m.conflicts + 1 }
  else pure ()

def countRebind : Action ClientError Unit :=
  modifyMetrics fun m => { m with rebinds := m.rebinds + 1 }

def seconds (ms : Nat) : Float := (UInt64.ofNat ms).toFloat / 1000

def recorded (x : Action ClientError TxHash) : Action ClientError TxHash := do
  let started := (← get).clock
  let result ← x.outcome
  let ended := (← get).clock
  modifyMetrics (·.finish result.isOk (seconds (ended - started)))
  Action.ofExcept result

def principal : Action ClientError Address := ExceptT.adapt ClientError.signer Signing.principal

def submit (tx : SignedTransaction) : Action ClientError TxHash := do
  match ← Task.call (.submit tx) with
  | .ok hash => return hash
  | .error cause => throw (.ofNode cause)

variable (r : Requester)

def resolveChain (requested : Option ChainId) : Except ClientError ChainId :=
  match r.chain, requested with
  | some expected, some actual =>
    if expected = actual then .ok expected else .error (.chainMismatch expected actual)
  | some chain, none => .ok chain
  | none, some chain => .ok chain
  | none, none => .error (.transaction (.missingField "chain_id"))

/-- Asks the node, waits out the interval and only then takes over the answer, so that a request
dropped before leaves the nonces as they were. -/
def rebindAfterConflict (a : Address) : Action ClientError Nonce := do
  match ← Task.call (.readState a) with
  | .error cause => throw (.ofNode cause)
  | .ok state =>
    Task.call (.sleep r.policy.interval)
    let n ← ExceptT.adapt ClientError.nonce (Nonces.rebindAndAllocate state)
    countRebind
    return n

def conclude (result : Except ClientError TxHash)
    (retry : ClientError → Action ClientError TxHash) : Action ClientError TxHash :=
  match Verdict.ofResult r.policy result with
  | .success hash => return hash
  | .fatal cause => throw cause
  | .conflict cause => do
    countConflict cause
    retry cause

def submitLoop (a : Address) (build : Builder) :
    (left i : Nat) → (n : Nonce) → Action ClientError TxHash
  | 0, i, n => do
    countAttempt
    r.conclude (← (build i n).outcome) throw
  | left + 1, i, n => do
    countAttempt
    r.conclude (← (build i n).outcome) fun _ => do
      submitLoop a build left (i + 1) (← r.rebindAfterConflict a)

def request (build : Builder) : Action ClientError TxHash :=
  recorded do
    let a ← principal
    let n ← ExceptT.adapt ClientError.nonce (Nonces.allocate a)
    r.submitLoop a build r.policy.tries.toNat 0 n

def sendTemplate (t : Template) (chain : ChainId) (n : Nonce) : Action ClientError TxHash := do
  let sender ← principal
  submit (← ExceptT.adapt ClientError.signer (Signing.sign (t.fill chain sender n)))

def send (t : Template) : Action ClientError TxHash :=
  match r.resolveChain t.chain with
  | .error cause => recorded (throw cause)
  | .ok chain => r.request fun _ n => sendTemplate t chain n

def ensureChain (tx : Transaction) : Except ClientError Unit :=
  match r.chain with
  | none => .ok ()
  | some expected =>
    if tx.chain = expected then .ok () else .error (.chainMismatch expected tx.chain)

def ensureOwn (tx : Transaction) : Action ClientError Unit := do
  let a ← principal
  Action.ofExcept ((ensureSender a tx).mapError .signer)

/-- Submits a signed transaction, and after a conflict whatever the builder makes of fresh nonces.
The first submission is one of the attempts that the policy allows. -/
def resubmit (s : SignedTransaction) (build : Builder) : Action ClientError TxHash :=
  recorded do
    Action.ofExcept (r.ensureChain s.tx)
    ensureOwn s.tx
    countAttempt
    r.conclude (← (submit s).outcome) fun cause =>
      match r.policy.tries.toNat with
      | 0 => throw cause
      | left + 1 => do
        r.submitLoop s.tx.sender build left 0 (← r.rebindAfterConflict s.tx.sender)

def resign (tx : Transaction) : Builder := fun _ n => do
  submit (← ExceptT.adapt ClientError.signer (Signing.sign (tx.withNonce n)))

def describe (nonces : NonceBook) : String :=
  let chain := match r.chain with
    | some chain => "Some(" ++ chain.describe ++ ")"
    | none => "None"
  "TxRequester \x7b policy: " ++ r.policy.describe ++ ", chain_id: " ++ chain ++ ", nonces: " ++
    nonces.describe ++ ", .. \x7d"

end Requester

end LedgerClient
