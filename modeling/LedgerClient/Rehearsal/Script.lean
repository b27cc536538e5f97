import LedgerClient.Submission.Wallet

namespace LedgerClient.Rehearsal

structure Cue (σ β : Type) where
  steps : List σ
  answer : β

/-- A node's answer to a submission; none is the transaction's own hash. -/
abbrev SubmitAnswer := Option (Except NodeError TxHash)

/-- A node's answer about an account: a nonce, for the account asked for or for another. -/
abbrev StateAnswer := Except NodeError (Nonce × Option Address)

structure CustodyAnswer where
  error : Option CustodyError := none
  signAs : Option KeyPair := none

abbrev AttemptAnswer := Option ClientError

inductive Topic where
  | signer
  | requester
  | policy
  | nonces
  | metrics
  | wallet
  | credential (password : String)

inductive Step where
  | unlock (account : Address) (password : String)
  | lock
  | principal
  | isUnlocked
  | sign (tx : Transaction)
  | signMessage (message : Bytes)
  | signText (text : String)
  | verifyMessage (message der : Bytes)
  | identities
  | storeSave (key : KeyPair) (password : String)
  | storeInsert (account : Address) (sealedKey : SealedKey)
  | storeLoad (account : Address) (password : String) (asSigner : Bool)
  | storeExport (account : Address) (password : String) (asSigner : Bool)
  | storeRemove (account : Address) (password : String) (asSigner : Bool)
  | storeList
  | allocate (account : Address)
  | bind (account : Address) (nonce : Nonce)
  | rebind (account : Address) (nonce : Nonce)
  | rebindAllocate (account : Address) (nonce : Nonce)
  | forget (account : Address)
  | setNonce (account : Address) (nonce : Nonce)
  | script (submits : List (Cue Step SubmitAnswer)) (reads : List (Option StateAnswer))
      (custody : List (Cue Step CustodyAnswer))
  | sleep (ms : Nat)
  | transfer (template : Template) (limitMs : Option Nat)
  | commit (template : Template) (limitMs : Option Nat)
  | request (attempts : List (Cue Step AttemptAnswer)) (limitMs : Option Nat)
  | resubmit (tx : Transaction) (signedBy : KeyPair) (limitMs : Option Nat)
  | describe (topic : Topic)

abbrev SubmitCue := Cue Step SubmitAnswer
abbrev CustodyCue := Cue Step CustodyAnswer
abbrev AttemptCue := Cue Step AttemptAnswer

namespace Step

mutual

def count : Step → Nat
  | script submits _ custody => 1 + countSubmits submits + countCustody custody
  | request attempts _ => 1 + countAttempts attempts
  | _ => 1

def countAll : List Step → Nat
  | [] => 0
  | s :: rest => s.count + countAll rest

def countSubmits : List (Cue Step SubmitAnswer) → Nat
  | [] => 0
  | ⟨steps, _⟩ :: rest => countAll steps + countSubmits rest

def countCustody : List (Cue Step CustodyAnswer) → Nat
  | [] => 0
  | ⟨steps, _⟩ :: rest => countAll steps + countCustody rest

def countAttempts : List (Cue Step AttemptAnswer) → Nat
  | [] => 0
  | ⟨steps, _⟩ :: rest => countAll steps + countAttempts rest

end

end Step

inductive Failure where
  | client (cause : ClientError)
  | signer (cause : SignerError)
  | keyStore (cause : KeyStoreError)
  | key (cause : KeyError)
  | signature (cause : SignatureError)

inductive Answer where
  | nothing
  | cancelled
  | flag (b : Bool)
  | text (s : String)
  | account (a : Address)
  | principal (a : Address)
  | accounts (as : List Address)
  | lockOutcome (o : LockOutcome)
  | nonce (n : Nonce)
  | hash (h : TxHash)
  | signed (s : SignedTransaction)
  | signature (s : Signature)
  | secret (k : KeyPair)
  | exported (size : Nat) (k : KeyPair)
  | failed (cause : Failure)

end LedgerClient.Rehearsal
