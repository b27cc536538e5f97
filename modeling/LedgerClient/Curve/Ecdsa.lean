import LedgerClient.Curve.Scalar
import LedgerClient.Digest.Hmac

namespace LedgerClient.Curve

structure EcdsaPair where
  r : Scalar
  s : Scalar
deriving DecidableEq

namespace Ecdsa

def message (digest : Digest) : Residue := Fin.ofNat order (Bytes.toNat digest.val)

def firstScalar : (fuel : Nat) → HmacStream → Option Scalar
  | 0, _ => none
  | fuel + 1, g =>
    let (candidate, g) := g.next
    match Scalar.ofNat? (Bytes.toNat candidate.val) with
    | some k => some k
    | none => firstScalar fuel g.refuse

def nonce? (secret : Scalar) (digest : Digest) : Option Scalar :=
  firstScalar 64 (HmacStream.ofSeed (secret.toBytes.val ++ digest.val))

def signWith (secret nonce : Scalar) (digest : Digest) : Option EcdsaPair := do
  let r ← Scalar.ofNat? (nonce.publicPoint.x.val % order)
  let s ← Scalar.ofNat?
    (inverse nonce.residue * (message digest + r.residue * secret.residue)).val
  pure ⟨r, s⟩

def sign (secret : Scalar) (digest : Digest) : Option EcdsaPair := do
  signWith secret (← nonce? secret digest) digest

def verify (key : Point) (digest : Digest) (sig : EcdsaPair) : Bool :=
  let w := inverse sig.s.residue
  let a := (Jacobian.ofPoint Point.base).mul (message digest * w).val
  let b := (Jacobian.ofPoint key).mul (sig.r.residue * w).val
  (a.add b).toPoint?.any fun point => point.x.val % order == sig.r.val

end Ecdsa

end LedgerClient.Curve
