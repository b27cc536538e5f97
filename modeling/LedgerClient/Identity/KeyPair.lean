import LedgerClient.Identity.Address
import LedgerClient.Identity.SealedKey
import LedgerClient.Identity.Signature

namespace LedgerClient

open Curve

inductive KeyError where
  | invalidSecret
  | decoding (cause : EncodingError)
  | authentication
  | encryption (cause : EncryptionError)
  | signature (cause : SignatureError)
deriving DecidableEq

def KeyError.message : KeyError → String
  | invalidSecret => "invalid private key: wrong length or not a valid secp256k1 scalar"
  | decoding cause => cause.message
  | authentication => "authentication failed: wrong password or corrupted key envelope"
  | encryption cause => cause.message
  | signature cause => cause.message

structure KeyPair where
  secret : Scalar
  address : Address
  owned : address = Address.ofSecret secret

namespace KeyPair

def version : UInt8 := 0xab

def ofSecret (secret : Scalar) : KeyPair := ⟨secret, Address.ofSecret secret, rfl⟩

def generate (candidates : List (Bytes.Exact 32)) : Option KeyPair :=
  (candidates.findSome? fun b => Scalar.ofNat? (Bytes.toNat b.val)).map ofSecret

def ofBytes (raw : Bytes) : Except KeyError KeyPair :=
  if raw.length = 0 ∨ 32 < raw.length then .error .invalidSecret
  else
    match Scalar.ofNat? (Bytes.toNat raw) with
    | none => .error .invalidSecret
    | some secret => .ok (ofSecret secret)

def toBytes (k : KeyPair) : Bytes.Exact 32 := k.secret.toBytes

def encode (k : KeyPair) : String := Versioned.encode version k.toBytes.val

def decode (text : String) : Except KeyError KeyPair :=
  match Versioned.decodeExact version 32 text with
  | .error cause => .error (.decoding cause)
  | .ok raw => ofBytes raw.val

def importSealed (k : SealedKey) (password : Bytes) : Except KeyError KeyPair :=
  match Sealing.disclose password k.bytes with
  | .error .decryptFailed => .error .authentication
  | .error cause => .error (.encryption cause)
  | .ok raw => ofBytes raw

def exportSealed (k : KeyPair) (nonce : Gcm.Nonce) (password : Bytes) :
    Except KeyError SealedKey :=
  match Sealing.enclose nonce password k.toBytes.val with
  | .error cause => .error (.encryption cause)
  | .ok bytes => .ok ⟨bytes⟩

def signDigest (k : KeyPair) (digest : Digest) : Except KeyError Signature :=
  (Signature.signDigest k.secret digest).mapError .signature

def sign (k : KeyPair) (message : Bytes) : Except KeyError Signature :=
  k.signDigest (sha256 message)

def describe (k : KeyPair) : String := "KeyPair(address=" ++ k.address.encode ++ ")"

end KeyPair

def Address.verifiesDigest (a : Address) (digest : Digest) (sig : Signature) : Bool :=
  sig.verifiesDigest a.point digest

def Address.verifies (a : Address) (message : Bytes) (sig : Signature) : Bool :=
  a.verifiesDigest (sha256 message) sig

end LedgerClient
