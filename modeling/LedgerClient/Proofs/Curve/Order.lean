import LedgerClient.Proofs.Curve.Ecdsa

/-! The group has prime order, so that every point of the curve has one secret. -/

namespace LedgerClient.Curve

open WeierstrassCurve

namespace Point

variable {q q' : Point}

lemma code_injective : Function.Injective fun q : Point => (q.x, q.y.isOdd) := by
  intro q q' h
  have hq : recover? q.y.isOdd q.x = some q := recover?_eq_some.2 ⟨rfl, rfl⟩
  have hq' : recover? q.y.isOdd q.x = some q' :=
    recover?_eq_some.2 ⟨(congrArg Prod.fst h).symm, (congrArg Prod.snd h).symm⟩
  exact Option.some.inj (hq.symm.trans hq')

instance : Finite Point := .of_injective _ code_injective

lemma card_le : Nat.card Point ≤ p * 2 := by
  refine (Nat.card_le_card_of_injective _ code_injective).trans_eq ?_
  rw [Nat.card_prod, Nat.card_fin, Nat.card_eq_fintype_card, Fintype.card_bool]

lemma toGroup_eq_or_neg (h : q.x = q'.x) : q.toGroup = q'.toGroup ∨ q.toGroup = -q'.toGroup := by
  have hx : toZMod q.x = toZMod q'.x := congrArg toZMod h
  rcases Affine.Y_eq_of_X_eq q.nonsingular.1 q'.nonsingular.1 hx with hy | hy
  · left
    simp only [toGroup, hx, hy]
  · right
    rw [toGroup, toGroup, Affine.Point.neg_some]
    simp only [hx, hy]

end Point

lemma toGroup_surjective : Function.Surjective fun q : Option Point => q.elim 0 Point.toGroup := by
  intro P
  by_cases hP : P = 0
  · exact ⟨none, hP.symm⟩
  · obtain ⟨q, rfl⟩ := Point.exists_toGroup hP
    exact ⟨some q, rfl⟩

instance : Finite Group := .of_surjective _ toGroup_surjective

lemma card_group_le : Nat.card Group ≤ p * 2 + 1 := by
  have h := Nat.card_le_card_of_surjective _ toGroup_surjective
  rw [Finite.card_option] at h
  exact h.trans (Nat.succ_le_succ Point.card_le)

lemma addOrderOf_ne_two (P : Group) : addOrderOf P ≠ 2 := by
  intro h
  have hP : P ≠ 0 := by
    rintro rfl
    simp at h
  obtain ⟨q, rfl⟩ := Point.exists_toGroup hP
  have hzero := addOrderOf_nsmul_eq_zero q.toGroup
  rw [h, two_nsmul, ← eq_neg_iff_add_eq_zero] at hzero
  exact ne_negY q.nonsingular.1 (Affine.Point.some.inj hzero).2

lemma card_group : Nat.card Group = order := by
  obtain ⟨c, hc⟩ : order ∣ Nat.card Group := addOrderOf_base ▸ addOrderOf_dvd_natCard _
  -- There are too few points for the third multiple, and the second is even.
  have hlt : c < 3 := by
    by_contra hge
    have hmul : order * 3 ≤ order * c := Nat.mul_le_mul_left _ (not_lt.1 hge)
    have hlarge : p * 2 + 1 < order * 3 := by decide +kernel
    exact absurd (hmul.trans (hc ▸ card_group_le)) hlarge.not_ge
  have hodd : ¬ 2 ∣ c := by
    intro h
    obtain ⟨P, hP⟩ := exists_prime_addOrderOf_dvd_card' 2 (hc ▸ h.mul_left order)
    exact addOrderOf_ne_two P hP
  obtain rfl : c = 1 := by omega
  rw [hc, mul_one]

lemma exists_publicPoint (q : Point) : ∃ k : Scalar, k.publicPoint = q := by
  have hq : q.toGroup ∈ AddSubmonoid.multiples Point.base.toGroup :=
    mem_multiples_of_prime_card card_group Point.base.toGroup_ne_zero
  obtain ⟨n, hn⟩ := hq
  have hmod : (n % order) • Point.base.toGroup = q.toGroup := by
    rw [← hn]
    exact nsmul_base_eq_iff.2 (ZMod.natCast_mod n order)
  have hpos : 0 < n % order := by
    refine Nat.pos_of_ne_zero fun h => q.toGroup_ne_zero ?_
    rw [← hmod, h, zero_nsmul]
  refine ⟨⟨n % order, hpos, Nat.mod_lt n (by decide)⟩, Point.toGroup_injective ?_⟩
  rw [Scalar.toGroup_publicPoint, hmod]

end LedgerClient.Curve
