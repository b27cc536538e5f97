import LedgerClient.Json.Record
import LedgerClient.Json.Writer
import LedgerClient.Transaction.Signed

namespace LedgerClient

open Json

def Address.read : Reader Address := ofText EncodingError.message decode
def Address.write (a : Address) : Value := .text a.encode

def ChainId.read : Reader ChainId := ofText EncodingError.message decode
def ChainId.write (c : ChainId) : Value := .text c.encode

def TxHash.read : Reader TxHash := ofText EncodingError.message decode
def TxHash.write (h : TxHash) : Value := .text h.encode

def SealedKey.read : Reader SealedKey := ofText EncodingError.message decode
def SealedKey.write (k : SealedKey) : Value := .text k.encode

def Signature.read : Reader Signature := ofText SignatureError.message ofBase64
def Signature.write (s : Signature) : Value := .text s.toBase64

def Amount.read : Reader Amount := wide Amount.size
def Amount.write (a : Amount) : Value := .natural a.val

def TxKind.word : TxKind → String
  | normal => "Normal"
  | governance => "Governance"

def TxKind.read : Reader TxKind := choice ([.normal, .governance].map fun k => (word k, k))
def TxKind.write (k : TxKind) : Value := .text k.word

namespace Fee

structure Members where
  limit : Option UInt64 := none
  price : Option Amount := none

def record : Record Members Fee where
  name := "Fee"
  fields := [
    ⟨"limit", (·.limit.isSome), fun m => return { m with limit := some (← word64) }⟩,
    ⟨"price", (·.price.isSome), fun m => return { m with price := some (← Amount.read) }⟩]
  start := {}
  closed := false
  fillsTail := false
  finish m := return ⟨← require "limit" m.limit, ← require "price" m.price⟩

def read : Reader Fee := record.read

def write (f : Fee) : Value :=
  .object [("limit", .natural f.limit.toNat), ("price", Amount.write f.price)]

end Fee

namespace Transaction

structure Members where
  chain : Option ChainId := none
  sender : Option Address := none
  recipient : Option (Option Address) := none
  amount : Option Amount := none
  nonce : Option Nonce := none
  fee : Option Fee := none
  payload : Option Bytes := none
  kind : Option TxKind := none

def Members.finish (m : Members) : Except Fault Transaction := do
  return {
    chain := ← require "chain_id" m.chain
    sender := ← require "sender" m.sender
    recipient := m.recipient.getD none
    amount := ← require "amount" m.amount
    nonce := ← require "nonce" m.nonce
    fee := ← require "fee" m.fee
    payload := ← require "payload" m.payload
    kind := ← require "tx_type" m.kind }

def record : Record Members Transaction where
  name := "RawTransaction"
  fields := [
    ⟨"chain_id", (·.chain.isSome), fun m => return { m with chain := some (← ChainId.read) }⟩,
    ⟨"sender", (·.sender.isSome), fun m => return { m with sender := some (← Address.read) }⟩,
    ⟨"recipient", (·.recipient.isSome), fun m =>
      return { m with recipient := some (← optional Address.read) }⟩,
    ⟨"amount", (·.amount.isSome), fun m => return { m with amount := some (← Amount.read) }⟩,
    ⟨"nonce", (·.nonce.isSome), fun m => return { m with nonce := some (← word64) }⟩,
    ⟨"fee", (·.fee.isSome), fun m => return { m with fee := some (← Fee.read) }⟩,
    ⟨"payload", (·.payload.isSome), fun m => return { m with payload := some (← list byte) }⟩,
    ⟨"tx_type", (·.kind.isSome), fun m => return { m with kind := some (← TxKind.read) }⟩]
  start := {}
  closed := false
  fillsTail := false
  finish := Members.finish

def read : Reader Transaction := record.read

def write (tx : Transaction) : Value :=
  .object [("chain_id", tx.chain.write), ("sender", tx.sender.write),
    ("recipient", Value.optional Address.write tx.recipient), ("amount", Amount.write tx.amount),
    ("nonce", .natural tx.nonce.toNat), ("fee", tx.fee.write),
    ("payload", .list (tx.payload.map fun b => .natural b.toNat)), ("tx_type", tx.kind.write)]

end Transaction

def SignedTransaction.write (s : SignedTransaction) : Value :=
  .object [("raw", s.tx.write), ("signature", s.signature.write), ("hash", s.hash.write)]

end LedgerClient
