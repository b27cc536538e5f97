import LedgerClient.Bytes
import LedgerClient.Curve.Point

namespace LedgerClient.Curve

structure Scalar where
  val : Nat
  pos : 0 < val
  lt : val < order
deriving DecidableEq

namespace Scalar

def ofNat? (k : Nat) : Option Scalar :=
  if h : 0 < k ∧ k < order then some ⟨k, h.1, h.2⟩ else none

def residue (k : Scalar) : Residue := ⟨k.val, k.lt⟩

def toBytes (k : Scalar) : Bytes.Exact 32 := ⟨Bytes.bigEndian 32 k.val, by simp⟩

def IsLow (k : Scalar) : Prop := k.val ≤ order / 2

instance (k : Scalar) : Decidable k.IsLow := inferInstanceAs (Decidable (k.val ≤ order / 2))

def neg (k : Scalar) : Scalar where
  val := order - k.val
  pos := Nat.sub_pos_of_lt k.lt
  lt := Nat.sub_lt (Nat.lt_trans k.pos k.lt) k.pos

theorem neg_isLow {k : Scalar} (h : ¬ k.IsLow) : k.neg.IsLow := by
  simp only [IsLow, neg] at *
  omega

/-- The public point of a secret. No multiple below the order is at infinity, so that the
generator is never the answer for want of a point. -/
def publicPoint (k : Scalar) : Point :=
  ((Jacobian.ofPoint Point.base).mul k.val).toPoint?.getD Point.base

end Scalar

end LedgerClient.Curve
