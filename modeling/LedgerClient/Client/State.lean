import LedgerClient.Client.Error
import LedgerClient.Metrics.Basic
import LedgerClient.Signer.Basic
import LedgerClient.Table

namespace LedgerClient

structure Slot where
  last : Option Nonce := none
  held : Bool := false
deriving DecidableEq

def Slot.used (slot : Slot) : Nonce := slot.last.getD 0

/-- The slots of one account. The present one stays until it is forgotten: a nonce asked for anew
would not count the allocations that the node has not seen. -/
structure Shelf where
  past : List Slot := []
  present : Option Slot := none
deriving DecidableEq

/-- A slot, by its account and the number of slots forgotten before it. -/
structure SlotRef where
  account : Address
  index : Nat
deriving DecidableEq

namespace Shelf

def find? (sh : Shelf) (i : Nat) : Option Slot :=
  if i = sh.past.length then sh.present else sh.past[i]?

def touch (sh : Shelf) : Shelf := { sh with present := some (sh.present.getD {}) }

def update (sh : Shelf) (i : Nat) (f : Slot → Slot) : Shelf :=
  if i = sh.past.length then { sh with present := sh.present.map f }
  else { sh with past := sh.past.modify i f }

def forget (sh : Shelf) : Shelf := ⟨sh.past ++ sh.present.toList, none⟩

end Shelf

structure NonceBook where
  shelves : Table Address Shelf

namespace NonceBook

def empty : NonceBook := ⟨.empty⟩

def shelf (b : NonceBook) (a : Address) : Shelf := (b.shelves.get? a).getD {}

def modify (b : NonceBook) (a : Address) (f : Shelf → Shelf) : NonceBook :=
  ⟨b.shelves.set a (f (b.shelf a))⟩

def get? (b : NonceBook) (a : Address) : Option Slot := (b.shelf a).present

def slot (b : NonceBook) (a : Address) : Slot := (b.get? a).getD {}

def ref (b : NonceBook) (a : Address) : SlotRef := ⟨a, (b.shelf a).past.length⟩

def ref? (b : NonceBook) (a : Address) : Option SlotRef := (b.get? a).map fun _ => b.ref a

def find? (b : NonceBook) (k : SlotRef) : Option Slot := (b.shelf k.account).find? k.index

def find (b : NonceBook) (k : SlotRef) : Slot := (b.find? k).getD {}

def touch (b : NonceBook) (a : Address) : NonceBook := b.modify a .touch

def update (b : NonceBook) (k : SlotRef) (f : Slot → Slot) : NonceBook :=
  b.modify k.account (·.update k.index f)

def put (b : NonceBook) (k : SlotRef) (n : Nonce) : NonceBook :=
  b.update k fun slot => { slot with last := some n }

def hold (b : NonceBook) (k : SlotRef) : NonceBook := b.update k fun slot => { slot with held := true }

def release (b : NonceBook) (k : SlotRef) : NonceBook :=
  b.update k fun slot => { slot with held := false }

def erase (b : NonceBook) (a : Address) : NonceBook := b.modify a .forget

def lastUsed (b : NonceBook) (a : Address) : Nonce := (b.slot a).used

def size (b : NonceBook) : Nat := b.shelves.entries.countP (·.2.present.isSome)

def describe (b : NonceBook) : String := "NonceProvider \x7b cached: " ++ b.size.repr ++ " \x7d"

end NonceBook

structure Client where
  signer : Signer
  nonces : NonceBook
  metrics : Option Metrics
  clock : Nat

namespace Client

def start (signer : Signer) (metrics : Option Metrics) : Client := ⟨signer, .empty, metrics, 0⟩

def mapNonces (f : NonceBook → NonceBook) (c : Client) : Client := { c with nonces := f c.nonces }

def mapMetrics (f : Metrics → Metrics) (c : Client) : Client := { c with metrics := c.metrics.map f }

end Client

end LedgerClient
