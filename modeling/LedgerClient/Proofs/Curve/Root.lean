import LedgerClient.Curve.Point
import LedgerClient.Proofs.Curve.Residue

namespace LedgerClient.Curve

namespace Field

variable {y z x : Field} {odd : Bool}

lemma toZMod_cubic (x : Field) : toZMod (x * x * x + 7) = toZMod x ^ 3 + 7 := by
  rw [toZMod_add, toZMod_mul, toZMod_mul, toZMod_ofNat]
  ring

lemma mul_self_eq_cubic_iff :
    y * y = x * x * x + 7 ↔ (y.val : ZMod p) ^ 2 = (x.val : ZMod p) ^ 3 + 7 := by
  rw [← toZMod_injective.eq_iff, toZMod_cubic, toZMod_mul, ← pow_two]
  rfl

lemma exists_root_iff :
    (∃ y : Field, y * y = x * x * x + 7) ↔ IsSquare ((x.val : ZMod p) ^ 3 + 7) := by
  rw [isSquare_iff_exists_sq]
  constructor
  · rintro ⟨y, hy⟩
    exact ⟨toZMod y, (mul_self_eq_cubic_iff.1 hy).symm⟩
  · rintro ⟨r, hr⟩
    obtain ⟨y, rfl⟩ := toZMod_surjective r
    exact ⟨y, mul_self_eq_cubic_iff.2 hr.symm⟩

lemma root_mul_root (y : Field) : (y * y).root * (y * y).root = y * y := by
  have he : (p + 1) / 4 < 2 ^ 256 := by decide
  have hp : 2 * ((p + 1) / 4 + (p + 1) / 4) = p + 1 := by decide
  apply toZMod_injective
  rw [toZMod_mul, root, toZMod_power he, toZMod_mul, ← pow_add, ← pow_two, ← pow_mul, hp, pow_succ,
    ZMod.pow_card]
  exact (pow_two _).symm

lemma cube_add_seven_ne_zero (x : Field) : x * x * x + 7 ≠ 0 := by
  intro h
  have hcube : toZMod (-7 : Field) = toZMod x ^ 3 := by
    rw [toZMod_neg, toZMod_ofNat, neg_eq_iff_add_eq_zero, add_comm, ← toZMod_cubic, h]
    rfl
  have hx : toZMod x ≠ 0 := by
    intro hx
    rw [hx, zero_pow (by decide)] at hcube
    have hseven : (-7 : Field) = 0 := toZMod_injective hcube
    exact absurd hseven (by decide +kernel)
  -- The powers of nonzero cubes to a third of p - 1 are one.
  have hpower : toZMod (power (-7 : Field) ((p - 1) / 3)) = toZMod 1 := by
    have hp : 3 * ((p - 1) / 3) = p - 1 := by decide
    rw [toZMod_power (by decide), hcube, ← pow_mul, hp, ZMod.pow_card_sub_one_eq_one hx]
    rfl
  exact absurd (toZMod_injective hpower) (by decide +kernel)

lemma isOdd_neg (hy : y ≠ 0) : (-y).isOdd = !y.isOdd := by
  have hodd : p % 2 = 1 := by decide
  have hpos : 0 < y.val := Nat.pos_of_ne_zero fun h => hy (Fin.ext h)
  have hval : (-y).val = p - y.val := by
    rw [Fin.neg_def]
    exact Nat.mod_eq_of_lt (Nat.sub_lt (hpos.trans y.isLt) hpos)
  have hlt := y.isLt
  rw [isOdd, isOdd, hval]
  rcases Nat.mod_two_eq_zero_or_one y.val with h | h
  · have h' : (p - y.val) % 2 = 1 := by omega
    rw [h, h']
    rfl
  · have h' : (p - y.val) % 2 = 0 := by omega
    rw [h, h']
    rfl

lemma eq_of_square (hs : y * y = z * z) (hp : y.isOdd = z.isOdd) : y = z := by
  have hs' : toZMod y * toZMod y = toZMod z * toZMod z := by rw [← toZMod_mul, hs, toZMod_mul]
  rcases mul_self_eq_mul_self_iff.1 hs' with h | h
  · exact toZMod_injective h
  obtain rfl : y = -z := toZMod_injective (h.trans toZMod_neg.symm)
  by_cases hz : z = 0
  · subst hz
    rfl
  · rw [isOdd_neg hz] at hp
    exact absurd hp (Bool.not_ne_self _)

def ofParity (odd : Bool) (z : Field) : Field := if z.isOdd = odd then z else -z

lemma ofParity_mul_ofParity (odd : Bool) (z : Field) : z.ofParity odd * z.ofParity odd = z * z := by
  unfold ofParity
  split
  · rfl
  · exact toZMod_injective (by simp)

lemma isOdd_ofParity (hz : z ≠ 0) : (z.ofParity odd).isOdd = odd := by
  unfold ofParity
  split
  · assumption
  · rename_i h
    rw [isOdd_neg hz, Bool.eq_not.2 h, Bool.not_not]

end Field

end LedgerClient.Curve
