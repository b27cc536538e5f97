import LedgerClient.Curve.Scalar
import LedgerClient.Proofs.Bytes
import LedgerClient.Proofs.Curve.Residue

namespace LedgerClient.Curve.Scalar

variable {k : ℕ} {a b : Scalar}

lemma ext_val (h : a.val = b.val) : a = b := by
  cases a
  cases b
  cases h
  rfl

lemma ofNat?_eq_some : ofNat? k = some a ↔ k = a.val := by
  constructor
  · intro h
    unfold ofNat? at h
    split at h
    · cases h
      rfl
    · cases h
  · rintro rfl
    exact dif_pos ⟨a.pos, a.lt⟩

lemma ofNat?_val (a : Scalar) : ofNat? a.val = some a := ofNat?_eq_some.2 rfl

lemma lt_width (a : Scalar) : a.val < 256 ^ 32 := a.lt.trans (by decide)

lemma toNat_toBytes (a : Scalar) : Bytes.toNat a.toBytes.val = a.val :=
  Bytes.toNat_bigEndian a.lt_width

lemma toBytes_inj : a.toBytes = b.toBytes ↔ a = b := by
  constructor
  · intro h
    apply ext_val
    rw [← toNat_toBytes a, h, toNat_toBytes]
  · rintro rfl
    rfl

lemma neg_not_isLow (h : a.IsLow) : ¬ a.neg.IsLow := by
  have hodd : order % 2 = 1 := by decide
  have hlt := a.lt
  simp only [IsLow, neg] at *
  omega

lemma toZMod_residue_ne_zero (k : Scalar) : toZMod k.residue ≠ 0 := by
  rw [Ne, toZMod_eq_zero, Fin.ext_iff]
  exact k.pos.ne'

lemma toZMod_residue_neg (k : Scalar) : toZMod k.neg.residue = -toZMod k.residue := by
  rw [toZMod, residue, neg, Nat.cast_sub k.lt.le, ZMod.natCast_self, zero_sub]
  rfl

end LedgerClient.Curve.Scalar
