import LedgerClient.Rehearsal.Stage

/-! Playing a script. Time passes only while something sleeps, and a task whose time is up is
dropped where it sleeps, together with all that wait for it. -/

namespace LedgerClient.Rehearsal

/-- The outcome of a part of a play: a value, or the limit that has cut it short, by the number of
limits around that one. -/
abbrev Outcome (α : Type) := Except Nat α

abbrev Player := Step → (limits : List Nat) → Stage → Outcome Answer × Stage

namespace Stage

def firstLimit : List Nat → Option (Nat × Nat)
  | [] => none
  | t :: outer =>
    match firstLimit outer with
    | none => some (t, 0)
    | some (u, level) => if t < u then some (t, outer.length) else some (u, level)

/-- The longest sleep in milliseconds, thirty years of 365 days. A longer one is cut to it. -/
def longestSleep : Nat := 30 * 365 * 24 * 60 * 60 * 1000

def sleep (limits : List Nat) (ms : Nat) (st : Stage) : Outcome Unit × Stage :=
  let wake := st.client.clock + min ms longestSleep
  let advanced (t : Nat) : Stage := { st with client := { st.client with clock := t } }
  match firstLimit limits with
  | none => (.ok (), advanced wake)
  | some (t, level) => if t < wake then (.error level, advanced t) else (.ok (), advanced wake)

def nest (player : Player) (limits : List Nat) : List Step → Stage → Outcome Unit × Stage
  | [], st => (.ok (), st)
  | step :: rest, st =>
    match player step limits st with
    | (.error level, st) => (.error level, st)
    | (.ok answer, st) => nest player limits rest (st.log (.nested step answer))

def cued {α β : Type} (player : Player) (limits : List Nat) (cue : Cue Step β)
    (go : β → Stage → Outcome α × Stage) (st : Stage) : Outcome α × Stage :=
  match nest player limits cue.steps st with
  | (.error level, st) => (.error level, st)
  | (.ok (), st) => go cue.answer st

def attend (player : Player) (limits : List Nat) :
    (call : Call) → Stage → Outcome call.Reply × Stage
  | .readState a, st =>
    let (answer, st) := st.readState a
    (.ok answer, st)
  | .submit tx, st =>
    let (cue, st) := (st.log (.submit tx)).popSubmit
    st.cued player limits cue fun answer st => (.ok (answer.getD (.ok tx.hash)), st)
  | .custody call, st =>
    let (cue, st) := st.custodyCue call
    st.cued player limits cue fun answer st =>
      match answer.error with
      | some cause => (.ok (custodyFail cause call), st)
      | none =>
        let (reply, st) := custodyAct answer.signAs call st
        (.ok reply, st)
  | .attempt n, st =>
    let (cue, st) := (st.log (.attempt n)).popAttempt
    st.cued player limits cue fun answer st =>
      match answer with
      | some cause => (.ok (.error cause), st)
      | none => (.ok (.ok (nonceHash n)), st)
  | .sleep d, st => st.sleep limits d.ticks
  | .turn _, st => (.ok (), st)

def drive {α : Type} (player : Player) (limits : List Nat) : Run α → Stage → Outcome α × Stage
  | .done a client, st => (.ok a, { st with client })
  | .await call client abandon resume, st =>
    match attend player limits call { st with client } with
    | (.error level, st) => (.error level, { st with client := abandon st.client })
    | (.ok reply, st) => drive player limits (resume reply st.client) st

def perform {α : Type} (player : Player) (limits : List Nat) (task : Task α)
    (answer : α → Answer) (st : Stage) : Outcome Answer × Stage :=
  match drive player limits (task st.client) st with
  | (.error level, st) => (.error level, st)
  | (.ok a, st) => (.ok (answer a), st)

def orFailed {ε α : Type} (fail : ε → Failure) (answer : α → Answer) : Except ε α → Answer
  | .ok a => answer a
  | .error cause => .failed (fail cause)

def performAs {ε α : Type} (cause : ε → ClientError) (player : Player) (limits : List Nat)
    (action : Action ε α) (answer : α → Answer) (st : Stage) : Outcome Answer × Stage :=
  perform player limits action.run (orFailed (fun e => .client (cause e)) answer) st

def submission (player : Player) (limits : List Nat) (limitMs : Option Nat)
    (action : Action ClientError TxHash) (st : Stage) : Outcome Answer × Stage :=
  match limitMs with
  | none => st.performAs id player limits action .hash
  | some ms =>
    match st.performAs id player ((st.client.clock + ms) :: limits) action .hash with
    | (.error level, st) =>
      if level = limits.length then (.ok .cancelled, st) else (.error level, st)
    | result => result

def consult {ε α : Type} (fail : ε → Failure) (answer : α → Answer) (st : Stage)
    (result : Except ε α) : Outcome Answer × Stage :=
  (.ok (orFailed fail answer result), st)

def storeFailure (asSigner : Bool) (cause : KeyStoreError) : Failure :=
  if asSigner then .signer (.ofKeyStore cause) else .keyStore cause

def exported (st : Stage) (a : Address) (c : Credential) (asSigner : Bool) : Answer :=
  match st.store.handOut a c with
  | .error cause => .failed (storeFailure asSigner cause)
  | .ok k => orFailed .key (.exported k.bytes.length) (KeyPair.importSealed k c.bytes)

def shown (st : Stage) : Topic → String
  | .signer => st.client.signer.describe
  | .requester => st.requester.describe st.client.nonces
  | .policy =>
    st.requester.policy.describe ++ " " ++
      match st.requester.chain with
      | some chain => "Some(" ++ chain.describe ++ ")"
      | none => "None"
  | .nonces => st.client.nonces.describe
  | .metrics =>
    match st.client.metrics with
    | some m => "Some(" ++ m.describe ++ ")"
    | none => "None"
  | .wallet => (Wallet.mk st.requester st.client).describe
  | .credential password => (Credential.mk password).describe

def play : (fuel : Nat) → Player
  | 0, _, _, st => (.ok .nothing, st)
  | fuel + 1, step, limits, st =>
    let player := play fuel
    let signing {α : Type} (action : Action SignerError α) (answer : α → Answer) :=
      st.performAs .signer player limits action answer
    let allocating (action : Action NonceError Nonce) :=
      st.performAs .nonce player limits action .nonce
    let simply (task : Task Unit) := st.perform player limits task fun _ => .nothing
    match step with
    | .unlock a password => signing (Signing.unlock a ⟨password⟩) .account
    | .lock => signing Signing.lock .lockOutcome
    | .principal => signing Signing.principal .principal
    | .isUnlocked => (.ok (.flag st.client.signer.isUnlocked), st)
    | .sign tx => signing (Signing.sign tx) .signed
    | .signMessage message => signing (Signing.signMessage message) .signature
    | .signText text => signing (Signing.signText text) .text
    | .verifyMessage message der =>
      match Signature.ofDer der with
      | .error cause => (.ok (.failed (.signature cause)), st)
      | .ok sig => signing (Signing.verifyMessage message sig) .flag
    | .identities => signing Signing.identities .accounts
    | .storeSave key password =>
      match st.save key password with
      | .error cause => (.ok (.failed (.keyStore cause)), st)
      | .ok (a, st) => (.ok (.account a), st)
    | .storeInsert a k => (.ok .nothing, st.setStore (st.store.insertSealed a k))
    | .storeLoad a password asSigner =>
      st.consult (storeFailure asSigner) .secret (st.store.load a ⟨password⟩)
    | .storeExport a password asSigner => (.ok (st.exported a ⟨password⟩ asSigner), st)
    | .storeRemove a password asSigner =>
      match st.store.remove a ⟨password⟩ with
      | .error cause => (.ok (.failed (storeFailure asSigner cause)), st)
      | .ok store => (.ok .nothing, st.setStore store)
    | .storeList => (.ok (.accounts st.store.identities), st)
    | .allocate a => allocating (Nonces.allocate a)
    | .bind a n => simply (Nonces.bind a n)
    | .rebind a n => simply (Nonces.rebind ⟨a, n, 0⟩)
    | .rebindAllocate a n => allocating (Nonces.rebindAndAllocate ⟨a, n, 0⟩)
    | .forget a =>
      let st := { st with client := st.client.mapNonces (·.erase a) }
      (.ok (.flag (st.client.nonces.size == 0)), st)
    | .setNonce a n => (.ok .nothing, { st with nodeNonces := st.nodeNonces.set a n })
    | .script submits reads custody =>
      (.ok .nothing, { st with
        submits := st.submits ++ submits
        reads := st.reads ++ reads
        custody := st.custody ++ custody })
    | .sleep ms =>
      match st.sleep limits ms with
      | (.error level, st) => (.error level, st)
      | (.ok (), st) => (.ok .nothing, st)
    | .transfer t limitMs => st.submission player limits limitMs (st.requester.send t)
    | .commit t limitMs => st.submission player limits limitMs (st.requester.send t)
    | .request attempts limitMs =>
      let build : Builder := fun _ n => ExceptT.mk (Task.call (.attempt n))
      let outer := st.attempts
      let (outcome, st) :=
        { st with attempts }.submission player limits limitMs (st.requester.request build)
      (outcome, { st with attempts := outer })
    | .resubmit tx key limitMs =>
      match key.signTransaction tx with
      | .error cause => (.ok (.failed (.key cause)), st)
      | .ok s =>
        st.submission player limits limitMs (st.requester.resubmit s (Requester.resign tx))
    | .describe topic => (.ok (.text (st.shown topic)), st)

def playAlone (fuel : Nat) (step : Step) (st : Stage) : Answer × Stage :=
  match play fuel step [] { st with events := [] } with
  | (.ok answer, st) => (answer, st)
  | (.error _, st) => (.cancelled, st)

def playAll (fuel : Nat) : List Step → Stage → List (Answer × Stage)
  | [], _ => []
  | step :: rest, st =>
    let (answer, st) := playAlone fuel step st
    (answer, st) :: playAll fuel rest st

end Stage

def run (script : List Step) (st : Stage) : List (Answer × Stage) :=
  st.playAll (Step.countAll script) script

end LedgerClient.Rehearsal
