import LedgerClient.Client.State
import LedgerClient.Duration

/-! Tasks of a client. A task runs up to the point where it needs someone else, and goes on from
whatever state the client is in by then. -/

namespace LedgerClient

inductive CustodyCall where
  | unlock (address : Address) (credential : Credential)
  | lock (address : Address) (credential : Credential)
  | sign (address : Address) (tx : Transaction)
  | signMessage (address : Address) (message : Bytes)
  | list
deriving DecidableEq

@[reducible] def CustodyCall.Reply : CustodyCall → Type
  | unlock _ _ => Except CustodyError Unit
  | lock _ _ => Except CustodyError Unit
  | sign _ _ => Except CustodyError Signature
  | signMessage _ _ => Except CustodyError Signature
  | list => Except CustodyError (List Address)

inductive Call where
  | readState (address : Address)
  | submit (tx : SignedTransaction)
  | custody (call : CustodyCall)
  | attempt (nonce : Nonce)
  | sleep (span : Duration)
  | turn (slot : SlotRef)
deriving DecidableEq

@[reducible] def Call.Reply : Call → Type
  | readState _ => Except NodeError AccountState
  | submit _ => Except NodeError TxHash
  | custody call => call.Reply
  | attempt _ => Except ClientError TxHash
  | sleep _ => Unit
  | turn _ => Unit

/-- The course of a task: its end, or a call with the state left behind. `abandon` is what happens
to the state if the task is dropped there. -/
inductive Run (α : Type) where
  | done (a : α) (state : Client)
  | await (call : Call) (state : Client) (abandon : Client → Client)
      (resume : call.Reply → Client → Run α)

def Task (α : Type) := Client → Run α

namespace Run

variable {α β : Type}

def bind : Run α → (α → Task β) → Run β
  | done a s, f => f a s
  | await call s abandon resume, f => await call s abandon fun r s => (resume r s).bind f

theorem bind_done (r : Run α) : r.bind (fun a s => done a s) = r := by
  induction r with
  | done a s => rfl
  | await call s abandon resume ih => simp only [bind, ih]

theorem bind_assoc {γ : Type} (r : Run α) (f : α → Task β) (g : β → Task γ) :
    (r.bind f).bind g = r.bind fun a s => (f a s).bind g := by
  induction r with
  | done a s => rfl
  | await call s abandon resume ih => simp only [bind, ih]

end Run

namespace Task

variable {α : Type}

instance : Monad Task where
  pure a := fun s => .done a s
  bind t f := fun s => (t s).bind f

instance : LawfulMonad Task :=
  .mk' Task (fun t => funext fun s => Run.bind_done (t s)) (fun _ _ => rfl)
    (fun t f g => funext fun s => Run.bind_assoc (t s) f g)

instance : MonadStateOf Client Task where
  get := fun s => .done s s
  set s := fun _ => .done ⟨⟩ s
  modifyGet f := fun s => .done (f s).1 (f s).2

def call (c : Call) : Task c.Reply := fun s => .await c s id fun r s => .done r s

def callHolding (c : Call) (abandon : Client → Client) : Task c.Reply := fun s =>
  .await c s abandon fun r s => .done r s

end Task

abbrev Action (ε α : Type) := ExceptT ε Task α

namespace Action

variable {ε δ α : Type}

def ofExcept (x : Except ε α) : Action ε α := ExceptT.mk (pure x)

def outcome (x : Action ε α) : Action δ (Except ε α) := ExceptT.lift x.run

end Action

end LedgerClient
