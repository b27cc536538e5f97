import LedgerClient.Identity.KeyPair

namespace LedgerClient

def Digest.encode (d : Digest) : String := String.ofList (Base58.encode d.val)

def Digest.decode (text : String) : Except EncodingError Digest :=
  match Base58.decode (trim text.toList) with
  | .error cause => .error (.malformed cause)
  | .ok b => if h : b.length = 32 then .ok ⟨b, h⟩ else .error (.invalidLength 32 b.length)

structure ChainId where
  digest : Digest
deriving DecidableEq

namespace ChainId

def ofName (name : Bytes) : ChainId := ⟨sha256 name⟩

def encode (c : ChainId) : String := Digest.encode c.digest

def decode (text : String) : Except EncodingError ChainId := (Digest.decode text).map (⟨·⟩)

def describe (c : ChainId) : String := "ChainIdHash(" ++ c.encode ++ ")"

end ChainId

structure TxHash where
  digest : Digest
deriving DecidableEq

namespace TxHash

def encode (h : TxHash) : String := Digest.encode h.digest

def decode (text : String) : Except EncodingError TxHash := (Digest.decode text).map (⟨·⟩)

def describe (h : TxHash) : String := "TxHash(" ++ h.encode ++ ")"

end TxHash

inductive TxKind where
  | normal
  | governance
deriving DecidableEq

def TxKind.tag : TxKind → Nat
  | normal => 0
  | governance => 1

def TxKind.name : TxKind → String
  | normal => "NORMAL"
  | governance => "GOVERNANCE"

abbrev Nonce := UInt64

def Nonce.next? (n : Nonce) : Option Nonce :=
  if n.toNat + 1 < UInt64.size then some (n + 1) else none

def Amount.size : Nat := 0x100000000000000000000000000000000

instance : @NeZero Nat Zero.ofOfNat0 Amount.size := ⟨by decide⟩

abbrev Amount := Fin Amount.size

structure Fee where
  limit : UInt64
  price : Amount
deriving DecidableEq

def Fee.zero : Fee := ⟨0, 0⟩

structure Transaction where
  chain : ChainId
  sender : Address
  recipient : Option Address
  amount : Amount
  nonce : Nonce
  fee : Fee
  payload : Bytes
  kind : TxKind
deriving DecidableEq

namespace Transaction

def withNonce (tx : Transaction) (nonce : Nonce) : Transaction := { tx with nonce }

def recipientBytes (tx : Transaction) : Bytes :=
  match tx.recipient with
  | none => []
  | some a => a.toBytes.val

def preimage (tx : Transaction) : Bytes :=
  Bytes.littleEndian 8 tx.nonce.toNat ++ tx.sender.toBytes.val ++ tx.recipientBytes ++
    Bytes.minimal tx.amount.val ++ tx.payload ++ Bytes.littleEndian 8 tx.fee.limit.toNat ++
    Bytes.minimal tx.fee.price.val ++ Bytes.littleEndian 4 tx.kind.tag ++ tx.chain.digest.val

def hash (tx : Transaction) : TxHash := ⟨sha256 tx.preimage⟩

def signedHash (tx : Transaction) (sig : Signature) : TxHash := ⟨sha256 (tx.preimage ++ sig.toDer)⟩

end Transaction

end LedgerClient
