import LedgerClient.Client.Task
import Mathlib

/-! Pools of tasks over the same nonces. Which of the tasks goes on, what it is answered, which are
dropped and what becomes of a client apart from its nonces is anybody's choice. -/

namespace LedgerClient

abbrev Replies := (call : Call) → call.Reply

inductive Standing (α : Type) where
  | ready
  | started (run : Run α)
  | dropped

/-- Something that happens to one task of a pool. Tasks of several clients may share their nonces, so
the rest of the client is a new one each time. -/
inductive Happening (ι : Type) where
  | go (i : ι) (rest : Client) (replies : Replies)
  | drop (i : ι) (rest : Client)

structure Pool (ι α : Type) where
  nonces : NonceBook
  standing : ι → Standing α

def Run.state {α : Type} : Run α → Client
  | done _ s => s
  | await _ left _ _ => left

def Run.call? {α : Type} : Run α → Option Call
  | done _ _ => none
  | await call _ _ _ => some call

def NonceBook.blocks (b : NonceBook) : Call → Bool
  | .turn k => (b.find k).held
  | _ => false

namespace Pool

variable {ι α : Type}

def start (b : NonceBook) : Pool ι α := ⟨b, fun _ => .ready⟩

def waits? (p : Pool ι α) (i : ι) : Option Call :=
  match p.standing i with
  | .started (.await call _ _ _) => some call
  | _ => none

def result? (p : Pool ι α) (i : ι) : Option α :=
  match p.standing i with
  | .started (.done x _) => some x
  | _ => none

def found (p : Pool ι α) (rest : Client) : Client := { rest with nonces := p.nonces }

variable [DecidableEq ι] (job : ι → Task α)

def put (p : Pool ι α) (i : ι) (r : Run α) : Pool ι α :=
  ⟨r.state.nonces, Function.update p.standing i (.started r)⟩

def quit (p : Pool ι α) (i : ι) (b : NonceBook) : Pool ι α :=
  ⟨b, Function.update p.standing i .dropped⟩

def step (p : Pool ι α) : Happening ι → Pool ι α
  | .go i rest replies =>
    match p.standing i with
    | .ready => p.put i (job i (p.found rest))
    | .started (.await call _ _ resume) =>
      if p.nonces.blocks call then p else p.put i (resume (replies call) (p.found rest))
    | _ => p
  | .drop i rest =>
    match p.standing i with
    | .ready => p.quit i p.nonces
    | .started (.await _ _ abandon _) => p.quit i (abandon (p.found rest)).nonces
    | _ => p

end Pool

end LedgerClient
