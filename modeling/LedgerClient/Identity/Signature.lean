import LedgerClient.Identity.Der
import LedgerClient.Text.Base64
import LedgerClient.Text.Blank
import LedgerClient.Text.Hex

namespace LedgerClient

open Curve

inductive SignatureError where
  | signingFailed
  | invalidDer
  | nonCanonical
  | invalidBase64
deriving DecidableEq

def SignatureError.message : SignatureError → String
  | signingFailed => "signing failed"
  | invalidDer => "malformed DER signature"
  | nonCanonical => "non-canonical signature: s is in the upper half of the curve order"
  | invalidBase64 => "malformed base64 signature"

structure Signature where
  r : Scalar
  s : Scalar
  low : s.IsLow
deriving DecidableEq

namespace Signature

def pair (sig : Signature) : EcdsaPair := ⟨sig.r, sig.s⟩

def ofPair (sig : EcdsaPair) : Signature :=
  if h : sig.s.IsLow then ⟨sig.r, sig.s, h⟩ else ⟨sig.r, sig.s.neg, Scalar.neg_isLow h⟩

def toDer (sig : Signature) : Bytes := Der.encode sig.r.val sig.s.val

/-- A high second half is refused rather than negated: whoever wrote it should hear of it. -/
def ofDer (b : Bytes) : Except SignatureError Signature :=
  match Der.decode? b with
  | none => .error .invalidDer
  | some (r, s) =>
    match Scalar.ofNat? r, Scalar.ofNat? s with
    | some r, some s => if h : s.IsLow then .ok ⟨r, s, h⟩ else .error .nonCanonical
    | _, _ => .error .invalidDer

def toBase64 (sig : Signature) : String := Base64.encode sig.toDer

def ofBase64 (text : String) : Except SignatureError Signature :=
  match Base64.decode? (trim text.toList) with
  | none => .error .invalidBase64
  | some der => ofDer der

def components (sig : Signature) : Bytes.Exact 32 × Bytes.Exact 32 :=
  (sig.r.toBytes, sig.s.toBytes)

def halfOrder : Bytes :=
  [0x7f, 0xff, 0xff, 0xff, 0xff, 0xff, 0xff, 0xff, 0xff, 0xff, 0xff, 0xff, 0xff, 0xff, 0xff, 0xff,
    0x5d, 0x57, 0x6e, 0x73, 0x57, 0xa4, 0x50, 0x1d, 0xdf, 0xe9, 0x2f, 0x46, 0x68, 0x1b, 0x20, 0xa0]

def isCanonical (sig : Signature) : Bool := !Bytes.lt halfOrder sig.components.2.val

def describe (sig : Signature) : String := "Signature(" ++ Hex.encode sig.toDer ++ ")"

def ofPair? : Option EcdsaPair → Except SignatureError Signature
  | none => .error .signingFailed
  | some pair => .ok (ofPair pair)

def signDigest (secret : Scalar) (digest : Digest) : Except SignatureError Signature :=
  ofPair? (Ecdsa.sign secret digest)

def signMessage (secret : Scalar) (message : Bytes) : Except SignatureError Signature :=
  signDigest secret (sha256 message)

def verifiesDigest (sig : Signature) (key : Point) (digest : Digest) : Bool :=
  Ecdsa.verify key digest sig.pair

end Signature

end LedgerClient
