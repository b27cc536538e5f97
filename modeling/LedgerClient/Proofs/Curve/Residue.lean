import LedgerClient.Proofs.Curve.Prime

namespace LedgerClient.Curve

instance : Fact p.Prime := ⟨prime_p⟩

instance : Fact order.Prime := ⟨prime_order⟩

variable {m : ℕ} {a b : Fin m}

def toZMod (a : Fin m) : ZMod m := (a.val : ZMod m)

lemma toZMod_surjective [NeZero m] (r : ZMod m) : ∃ a : Fin m, toZMod a = r :=
  ⟨⟨r.val, r.val_lt⟩, ZMod.natCast_zmod_val r⟩

lemma toZMod_injective : Function.Injective (toZMod (m := m)) := by
  intro a b h
  have hmod := (ZMod.natCast_eq_natCast_iff' _ _ _).1 h
  rwa [Nat.mod_eq_of_lt a.isLt, Nat.mod_eq_of_lt b.isLt, ← Fin.ext_iff] at hmod

@[simp] lemma toZMod_mul : toZMod (a * b) = toZMod a * toZMod b := by
  rw [toZMod, Fin.val_mul, ZMod.natCast_mod, Nat.cast_mul]
  rfl

@[simp] lemma toZMod_add : toZMod (a + b) = toZMod a + toZMod b := by
  rw [toZMod, Fin.val_add, ZMod.natCast_mod, Nat.cast_add]
  rfl

@[simp] lemma toZMod_sub : toZMod (a - b) = toZMod a - toZMod b := by
  rw [toZMod, Fin.sub_def, ZMod.natCast_mod, Nat.cast_add, Nat.cast_sub b.isLt.le,
    ZMod.natCast_self, zero_sub, neg_add_eq_sub]
  rfl

@[simp] lemma toZMod_neg : toZMod (-a) = -toZMod a := by
  rw [toZMod, Fin.neg_def, ZMod.natCast_mod, Nat.cast_sub a.isLt.le, ZMod.natCast_self, zero_sub]
  rfl

@[simp] lemma toZMod_zero [NeZero m] : toZMod (0 : Fin m) = 0 := by
  rw [toZMod, Fin.val_zero, Nat.cast_zero]

@[simp] lemma toZMod_one [NeZero m] : toZMod (1 : Fin m) = 1 := by
  rw [toZMod, Fin.val_one', ZMod.natCast_mod, Nat.cast_one]

@[simp] lemma toZMod_ofNat [NeZero m] (n : ℕ) [n.AtLeastTwo] :
    toZMod (ofNat(n) : Fin m) = ofNat(n) := by
  change ((n % m : ℕ) : ZMod m) = OfNat.ofNat n
  rw [ZMod.natCast_mod]
  exact Nat.cast_ofNat

lemma toZMod_eq_zero [NeZero m] : toZMod a = 0 ↔ a = 0 := by
  rw [← toZMod_zero, toZMod_injective.eq_iff]

lemma toZMod_power {e : ℕ} (he : e < 2 ^ 256) : toZMod (power a e) = toZMod a ^ e := by
  rw [toZMod, power_val a he, ZMod.natCast_mod, Nat.cast_pow]
  rfl

lemma toZMod_inverse [Fact m.Prime] (hm : m < 2 ^ 256) (ha : toZMod a ≠ 0) :
    toZMod (inverse a) = (toZMod a)⁻¹ := by
  have h₂ : 2 ≤ m := (Fact.out : m.Prime).two_le
  have hpow : toZMod a ^ (m - 2) * toZMod a = 1 := by
    rw [← pow_succ, show m - 2 + 1 = m - 1 by omega, ZMod.pow_card_sub_one_eq_one ha]
  rw [inverse, toZMod_power (by omega)]
  exact eq_inv_of_mul_eq_one_left hpow

end LedgerClient.Curve
