import LedgerClient.Proofs.Curve.Recovery

/-! The points of the curve, with one at infinity, are a group, and the arithmetic in Jacobian
coordinates is that of the group. -/

namespace LedgerClient.Curve

open WeierstrassCurve

def curve : Affine (ZMod p) := ⟨0, 0, 0, 0, 7⟩

abbrev Group := curve.Point

variable {x y x₁ x₂ y₁ l : ZMod p}

lemma equation_iff : curve.Equation x y ↔ y ^ 2 = x ^ 3 + 7 := by
  rw [Affine.equation_iff]
  simp [curve]

lemma negY_eq : curve.negY x y = -y := by
  simp [curve, Affine.negY]

lemma addX_eq : curve.addX x₁ x₂ l = l ^ 2 - x₁ - x₂ := by
  simp [curve, Affine.addX]

lemma addY_eq : curve.addY x₁ x₂ y₁ l = -(l * (l ^ 2 - x₁ - x₂ - x₁) + y₁) := by
  rw [Affine.addY, Affine.negAddY, negY_eq, addX_eq]

lemma two_ne_zero_field : (2 : ZMod p) ≠ 0 := by
  rw [← toZMod_ofNat, Ne, toZMod_eq_zero]
  decide +kernel

lemma ne_zero_of_equation (h : curve.Equation x y) : y ≠ 0 := by
  rintro rfl
  obtain ⟨x, rfl⟩ := toZMod_surjective x
  have hcubic := equation_iff.1 h
  rw [zero_pow two_ne_zero, ← Field.toZMod_cubic, eq_comm, toZMod_eq_zero] at hcubic
  exact Field.cube_add_seven_ne_zero x hcubic

lemma ne_negY (h : curve.Equation x y) : y ≠ curve.negY x y := by
  rw [negY_eq, Ne, eq_neg_iff_add_eq_zero, ← two_mul]
  exact mul_ne_zero two_ne_zero_field (ne_zero_of_equation h)

lemma slope_self (h : curve.Equation x y) : curve.slope x x y y = 3 * x ^ 2 / (2 * y) := by
  rw [Affine.slope_of_Y_ne rfl (ne_negY h), negY_eq]
  simp [curve, two_mul]

lemma nonsingular_iff : curve.Nonsingular x y ↔ y ^ 2 = x ^ 3 + 7 := by
  rw [Affine.nonsingular_iff, ← equation_iff]
  exact and_iff_left_of_imp fun h => .inr (ne_negY h)

namespace Point

variable {q q' : Point}

lemma nonsingular (q : Point) : curve.Nonsingular (toZMod q.x) (toZMod q.y) :=
  nonsingular_iff.2 (Field.mul_self_eq_cubic_iff.1 q.onCurve)

def toGroup (q : Point) : Group := .some _ _ q.nonsingular

lemma toGroup_injective : Function.Injective toGroup := by
  rintro ⟨x, y, h⟩ ⟨x', y', h'⟩ heq
  obtain ⟨hx, hy⟩ := Affine.Point.some.inj heq
  obtain rfl : x = x' := toZMod_injective hx
  obtain rfl : y = y' := toZMod_injective hy
  rfl

lemma toGroup_ne_zero (q : Point) : q.toGroup ≠ 0 :=
  Affine.Point.some_ne_zero _

lemma x_eq_of_toGroup_neg (h : q.toGroup = -q'.toGroup) : q.x = q'.x :=
  toZMod_injective (Affine.Point.some.inj h).1

lemma exists_toGroup {P : Group} (h : P ≠ 0) : ∃ q : Point, q.toGroup = P := by
  cases P with
  | zero => exact absurd rfl h
  | some x y hn =>
    obtain ⟨x, rfl⟩ := toZMod_surjective x
    obtain ⟨y, rfl⟩ := toZMod_surjective y
    exact ⟨⟨x, y, Field.mul_self_eq_cubic_iff.2 (nonsingular_iff.1 hn)⟩, rfl⟩

end Point

namespace Jacobian

structure Represents (a : Jacobian) (x y : ZMod p) : Prop where
  z : toZMod a.z ≠ 0
  x : toZMod a.x = x * toZMod a.z ^ 2
  y : toZMod a.y = y * toZMod a.z ^ 3

namespace Represents

variable {a b : Jacobian} {x y x₁ y₁ x₂ y₂ : ZMod p}

lemma z_ne (h : a.Represents x y) : a.z ≠ 0 := fun hz => h.z (toZMod_eq_zero.2 hz)

lemma double (h : a.Represents x y) (he : curve.Equation x y) :
    a.double.Represents (curve.addX x x (curve.slope x x y y))
      (curve.addY x x y (curve.slope x x y y)) := by
  have hz := h.z
  have hy := ne_zero_of_equation he
  have h₂ := two_ne_zero_field
  refine ⟨?_, ?_, ?_⟩
  · simp only [Jacobian.double, toZMod_mul, toZMod_ofNat, h.y]
    exact mul_ne_zero h₂ (mul_ne_zero (mul_ne_zero hy (pow_ne_zero 3 hz)) hz)
  · simp only [Jacobian.double, toZMod_mul, toZMod_sub, toZMod_ofNat, h.x, h.y, slope_self he,
      addX_eq]
    field_simp
    ring
  · simp only [Jacobian.double, toZMod_mul, toZMod_sub, toZMod_ofNat, h.x, h.y, slope_self he,
      addY_eq]
    field_simp
    ring

section Add

variable (ha : a.Represents x₁ y₁) (hb : b.Represents x₂ y₂)
include ha hb

lemma width : toZMod (b.x * (a.z * a.z) - a.x * (b.z * b.z)) =
    (x₂ - x₁) * (toZMod a.z * toZMod b.z) ^ 2 := by
  simp only [toZMod_sub, toZMod_mul, ha.x, hb.x]
  ring

lemma height : toZMod (b.y * (a.z * a.z * a.z) - a.y * (b.z * b.z * b.z)) =
    (y₂ - y₁) * (toZMod a.z * toZMod b.z) ^ 3 := by
  simp only [toZMod_sub, toZMod_mul, ha.y, hb.y]
  ring

lemma width_eq_zero : b.x * (a.z * a.z) - a.x * (b.z * b.z) = 0 ↔ x₁ = x₂ := by
  rw [← toZMod_eq_zero, ha.width hb, mul_eq_zero,
    or_iff_left (pow_ne_zero 2 (mul_ne_zero ha.z hb.z)), sub_eq_zero, eq_comm]

lemma height_eq_zero : b.y * (a.z * a.z * a.z) - a.y * (b.z * b.z * b.z) = 0 ↔ y₁ = y₂ := by
  rw [← toZMod_eq_zero, ha.height hb, mul_eq_zero,
    or_iff_left (pow_ne_zero 3 (mul_ne_zero ha.z hb.z)), sub_eq_zero, eq_comm]

lemma add_eq_double (hx : x₁ = x₂) (hy : y₁ = y₂) : a.add b = a.double := by
  rw [Jacobian.add, if_neg ha.z_ne, if_neg hb.z_ne]
  exact (if_pos ((ha.width_eq_zero hb).2 hx)).trans (if_pos ((ha.height_eq_zero hb).2 hy))

lemma add_eq_infinity (hx : x₁ = x₂) (hy : y₁ ≠ y₂) : a.add b = infinity := by
  rw [Jacobian.add, if_neg ha.z_ne, if_neg hb.z_ne]
  exact (if_pos ((ha.width_eq_zero hb).2 hx)).trans (if_neg (mt (ha.height_eq_zero hb).1 hy))

lemma add (hx : x₁ ≠ x₂) :
    (a.add b).Represents (curve.addX x₁ x₂ (curve.slope x₁ x₂ y₁ y₂))
      (curve.addY x₁ x₂ y₁ (curve.slope x₁ x₂ y₁ y₂)) := by
  have hz := mul_ne_zero ha.z hb.z
  have hza := ha.z
  have hzb := hb.z
  have h₁ : x₁ - x₂ ≠ 0 := sub_ne_zero.2 hx
  have h₂ : x₂ - x₁ ≠ 0 := sub_ne_zero.2 hx.symm
  rw [Jacobian.add, if_neg ha.z_ne, if_neg hb.z_ne]
  dsimp only
  rw [if_neg (mt (ha.width_eq_zero hb).1 hx), Affine.slope_of_X_ne hx]
  refine ⟨?_, ?_, ?_⟩
  · simp only [toZMod_mul, ha.width hb]
    exact mul_ne_zero (mul_ne_zero h₂ (pow_ne_zero 2 hz)) hz
  · simp only [toZMod_mul, toZMod_sub, toZMod_ofNat, ha.x, ha.y, hb.x, hb.y, addX_eq]
    field_simp
    ring
  · simp only [toZMod_mul, toZMod_sub, toZMod_ofNat, ha.x, ha.y, hb.x, hb.y, addY_eq]
    field_simp
    ring

end Add

end Represents

inductive Denotes : Jacobian → Group → Prop
  | infinity {a : Jacobian} (h : a.z = 0) : Denotes a 0
  | point {a : Jacobian} {x y : ZMod p} (h : curve.Nonsingular x y) (ha : a.Represents x y) :
      Denotes a (.some x y h)

lemma denotes_ofPoint (q : Point) : (ofPoint q).Denotes q.toGroup :=
  .point q.nonsingular ⟨by simp [ofPoint], by simp [ofPoint], by simp [ofPoint]⟩

lemma denotes_infinity : infinity.Denotes 0 := .infinity rfl

namespace Denotes

variable {a b : Jacobian} {P Q : Group}

lemma double (h : a.Denotes P) : a.double.Denotes (P + P) := by
  cases h with
  | infinity h =>
    rw [add_zero]
    refine .infinity (toZMod_eq_zero.1 ?_)
    simp [Jacobian.double, h]
  | point h ha =>
    rw [Affine.Point.add_self_of_Y_ne (ne_negY h.1)]
    exact .point _ (ha.double h.1)

lemma add (hP : a.Denotes P) (hQ : b.Denotes Q) : (a.add b).Denotes (P + Q) := by
  cases hP with
  | infinity ha =>
    rw [Jacobian.add, if_pos ha, zero_add]
    exact hQ
  | @point x₁ y₁ h₁ ha =>
    cases hQ with
    | infinity hb =>
      rw [Jacobian.add, if_neg ha.z_ne, if_pos hb, add_zero]
      exact .point h₁ ha
    | @point x₂ y₂ h₂ hb =>
      by_cases hx : x₁ = x₂
      · subst hx
        by_cases hy : y₁ = y₂
        · subst hy
          rw [ha.add_eq_double hb rfl rfl]
          exact double (.point h₁ ha)
        · have hneg := (Affine.Y_eq_of_X_eq h₁.1 h₂.1 rfl).resolve_left hy
          rw [ha.add_eq_infinity hb rfl hy, Affine.Point.add_of_Y_eq rfl hneg]
          exact denotes_infinity
      · rw [Affine.Point.add_of_X_ne hx]
        exact .point _ (ha.add hb hx)

lemma foldr (ha : a.Denotes P) (k n : ℕ) (hb : b.Denotes Q) :
    ((List.range n).foldr (fun i r => if k.testBit i then r.double.add a else r.double) b).Denotes
      (2 ^ n • Q + (k % 2 ^ n) • P) := by
  induction n generalizing b Q with
  | zero => simpa [Nat.mod_one] using hb
  | succ n ih =>
    rw [List.range_succ, List.foldr_append, List.foldr_cons, List.foldr_nil]
    have hstep : (if k.testBit n then b.double.add a else b.double).Denotes
        (2 • Q + (k.testBit n).toNat • P) := by
      rw [two_nsmul]
      cases k.testBit n with
      | false => simpa using hb.double
      | true => simpa using hb.double.add ha
    have h := ih hstep
    rwa [nsmul_add, ← mul_nsmul', ← mul_nsmul', ← pow_succ, add_assoc, ← add_nsmul,
      ← mod_two_pow_succ] at h

lemma mul (ha : a.Denotes P) {k : ℕ} (hk : k < 2 ^ 256) : (a.mul k).Denotes (k • P) := by
  have h := ha.foldr k 256 denotes_infinity
  rwa [nsmul_zero, zero_add, Nat.mod_eq_of_lt hk] at h

lemma toPoint? (h : a.Denotes P) :
    (P = 0 ∧ a.toPoint? = none) ∨ ∃ q, P = q.toGroup ∧ a.toPoint? = some q := by
  cases h with
  | infinity h => exact .inl ⟨rfl, if_pos h⟩
  | point h ha =>
    have hz := ha.z
    refine .inr ?_
    obtain ⟨q, hq⟩ := Point.exists_toGroup (Affine.Point.some_ne_zero h)
    obtain ⟨rfl, rfl⟩ := Affine.Point.some.inj hq
    refine ⟨q, rfl, (if_neg ha.z_ne).trans ?_⟩
    have hi : toZMod (inverse a.z) = (toZMod a.z)⁻¹ := toZMod_inverse (by decide) hz
    rw [Point.ofCoordinates?_eq_some]
    constructor
    · apply toZMod_injective
      simp only [toZMod_mul, hi, ha.x]
      field_simp
    · apply toZMod_injective
      simp only [toZMod_mul, hi, ha.y]
      field_simp

end Denotes

end Jacobian

end LedgerClient.Curve
