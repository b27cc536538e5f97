import LedgerClient.Client.Task

namespace LedgerClient.Nonces

def modifyBook (f : NonceBook → NonceBook) : Task Unit := modify (Client.mapNonces f)

def awaitTurn (k : SlotRef) : Task Unit := fun s =>
  if (s.nonces.find k).held then Task.call (.turn k) s else .done () s

/-- The slot of an account once nobody else holds it. It is used from then on, though the account be
given another one. -/
def acquire (a : Address) : Task SlotRef := do
  modifyBook (·.touch a)
  let k := (← get).nonces.ref a
  awaitTurn k
  return k

def advance (k : SlotRef) (base : Nonce) : Action NonceError Nonce :=
  match Nonce.next? base with
  | none => throw (.overflow k.account)
  | some n => do
    modifyBook (·.put k n)
    return n

def seed (k : SlotRef) : Action NonceError Nonce := do
  modifyBook (·.hold k)
  let answer ← Task.callHolding (.readState k.account) (Client.mapNonces (·.release k))
  modifyBook (·.release k)
  match answer with
  | .error cause => throw (.node cause)
  | .ok state => return state.nonce

def allocate (a : Address) : Action NonceError Nonce := do
  let k ← acquire a
  match ((← get).nonces.find k).last with
  | some n => advance k n
  | none => advance k (← seed k)

def rebindAndAllocate (state : AccountState) : Action NonceError Nonce := do
  let k ← acquire state.address
  advance k state.nonce

def bind (a : Address) (n : Nonce) : Task Unit := do
  let k ← acquire a
  modifyBook (·.put k n)

def rebind (state : AccountState) : Task Unit := bind state.address state.nonce

def lastUsed (a : Address) : Task Nonce := do
  match (← get).nonces.ref? a with
  | none => return 0
  | some k => do
    awaitTurn k
    return ((← get).nonces.find k).used

def forget (a : Address) : Task Unit := modifyBook (·.erase a)

end LedgerClient.Nonces
