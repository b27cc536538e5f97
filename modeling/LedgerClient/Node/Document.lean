import LedgerClient.Node.Basic
import LedgerClient.Transaction.Document

namespace LedgerClient

open Json

def CommitStatus.read : Reader CommitStatus := choice (all.map fun s => (s.name, s))
def CommitStatus.write (s : CommitStatus) : Value := .text s.name

namespace Rejection

structure Members where
  status : Option CommitStatus := none
  detail : Option String := none

def record : Record Members Rejection where
  name := "CommitError"
  fields := [
    ⟨"status", (·.status.isSome), fun m => return { m with status := some (← CommitStatus.read) }⟩,
    ⟨"detail", (·.detail.isSome), fun m => return { m with detail := some (← string) }⟩]
  start := {}
  closed := false
  fillsTail := false
  finish m := return ⟨← require "status" m.status, ← require "detail" m.detail⟩

def read : Reader Rejection := record.read

def write (r : Rejection) : Value :=
  .object [("status", r.status.write), ("detail", .text r.detail)]

end Rejection

namespace AccountState

structure Members where
  address : Option Address := none
  nonce : Option Nonce := none
  balance : Option Amount := none

def record : Record Members AccountState where
  name := "AccountState"
  fields := [
    ⟨"address", (·.address.isSome), fun m => return { m with address := some (← Address.read) }⟩,
    ⟨"nonce", (·.nonce.isSome), fun m => return { m with nonce := some (← word64) }⟩,
    ⟨"balance", (·.balance.isSome), fun m => return { m with balance := some (← Amount.read) }⟩]
  start := {}
  closed := false
  fillsTail := false
  finish m := return ⟨← require "address" m.address, ← require "nonce" m.nonce,
    ← require "balance" m.balance⟩

def read : Reader AccountState := record.read

def write (s : AccountState) : Value :=
  .object [("address", s.address.write), ("nonce", .natural s.nonce.toNat),
    ("balance", Amount.write s.balance)]

end AccountState

end LedgerClient
