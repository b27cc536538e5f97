import LedgerClient.Proofs.Curve.Order

/-! What a signature binds. It may be good for two digests, but only if these solve an equation
with the secrets that they are accepted for. -/

namespace LedgerClient.Curve.Ecdsa

def challenge (r secret : Scalar) (digest : Digest) : Residue :=
  message digest + r.residue * secret.residue

/-- A first half serves two digests under two secrets: the challenges are equal up to the sign, or
the half is so small that it is the residue of two abscissas. -/
def Confuses (r secret secret' : Scalar) (digest digest' : Digest) : Prop :=
  challenge r secret digest = challenge r secret' digest' ∨
    challenge r secret digest = -challenge r secret' digest' ∨ r.val + order < p

variable {secret secret' : Scalar} {digest digest' : Digest} {sig : EcdsaPair} {key : Point}

lemma exists_toGroup_of_verify (h : verify key digest sig = true) :
    ∃ q : Point, q.toGroup = (message digest * inverse sig.s.residue).val • Point.base.toGroup +
        (sig.r.residue * inverse sig.s.residue).val • key.toGroup ∧
      q.x.val % order = sig.r.val := by
  have ha := (Jacobian.denotes_ofPoint Point.base).mul
    ((message digest * inverse sig.s.residue).isLt.trans order_lt)
  have hb := (Jacobian.denotes_ofPoint key).mul
    ((sig.r.residue * inverse sig.s.residue).isLt.trans order_lt)
  rw [verify] at h
  rcases (ha.add hb).toPoint? with ⟨-, hp⟩ | ⟨q, hq, hp⟩
  · rw [hp] at h
    cases h
  · rw [hp, Option.any_some, beq_iff_eq] at h
    exact ⟨q, hq.symm, h⟩

lemma toZMod_mul_inverse (x : Residue) (s : Scalar) :
    toZMod (x * inverse s.residue) = toZMod x * (toZMod s.residue)⁻¹ := by
  rw [toZMod_mul, toZMod_inverse order_lt s.toZMod_residue_ne_zero]

lemma toGroup_of_verify (h : verify secret.publicPoint digest sig = true) :
    ∃ q : Point, q.toGroup =
        (challenge sig.r secret digest * inverse sig.s.residue).val • Point.base.toGroup ∧
      q.x.val % order = sig.r.val := by
  obtain ⟨q, hq, hx⟩ := exists_toGroup_of_verify h
  refine ⟨q, hq.trans (toGroup_eq_of_toZMod ?_).symm, hx⟩
  change toZMod (challenge sig.r secret digest * inverse sig.s.residue) * _ = _
  rw [toZMod_mul_inverse, inv_mul_cancel_right₀ sig.s.toZMod_residue_ne_zero, challenge, toZMod_add,
    toZMod_mul]

lemma eq_of_mod {r : ℕ} (hr : p ≤ r + order) {x : Field} (hx : x.val % order = r) : x.val = r := by
  have hdiv := Nat.div_add_mod x.val order
  have hlt := x.isLt
  rcases Nat.eq_zero_or_pos (x.val / order) with h₀ | hpos
  · rw [h₀, mul_zero, zero_add, hx] at hdiv
    exact hdiv.symm
  · have hle := Nat.le_mul_of_pos_right order hpos
    omega

lemma confuses_of_verify (h : verify secret.publicPoint digest sig = true)
    (h' : verify secret'.publicPoint digest' sig = true) :
    Confuses sig.r secret secret' digest digest' := by
  obtain ⟨q, hq, hx⟩ := toGroup_of_verify h
  obtain ⟨q', hq', hx'⟩ := toGroup_of_verify h'
  have hs := inv_ne_zero sig.s.toZMod_residue_ne_zero
  rw [Confuses, ← or_assoc, or_iff_not_imp_right, not_lt]
  intro hsmall
  have hpoint : q.x = q'.x := Fin.ext ((eq_of_mod hsmall hx).trans (eq_of_mod hsmall hx').symm)
  -- With one abscissa the two points are equal up to the sign, and so are their multiples.
  rcases Point.toGroup_eq_or_neg hpoint with heq | hneg
  · left
    rw [hq, hq', nsmul_base_eq_iff] at heq
    apply toZMod_injective
    change toZMod (_ * _) = toZMod (_ * _) at heq
    rw [toZMod_mul_inverse, toZMod_mul_inverse] at heq
    exact mul_right_cancel₀ hs heq
  · right
    rw [hq, hq', eq_neg_iff_add_eq_zero, ← add_nsmul, ← zero_nsmul Point.base.toGroup,
      nsmul_base_eq_iff, Nat.cast_add, Nat.cast_zero, add_eq_zero_iff_eq_neg] at hneg
    apply toZMod_injective
    change toZMod (_ * _) = -toZMod (_ * _) at hneg
    rw [toZMod_mul_inverse, toZMod_mul_inverse, ← neg_mul] at hneg
    rw [toZMod_neg]
    exact mul_right_cancel₀ hs hneg

section Both

variable {r s nonce : Scalar} {q : Point}

lemma signWith_of_eq (hr : nonce.publicPoint.x.val % order = r.val)
    (hs : (inverse nonce.residue * challenge r secret digest).val = s.val) :
    signWith secret nonce digest = some ⟨r, s⟩ :=
  Option.bind_eq_some_iff.2 ⟨r, Scalar.ofNat?_eq_some.2 hr,
    Option.bind_eq_some_iff.2 ⟨s, Scalar.ofNat?_eq_some.2 hs, rfl⟩⟩

lemma exists_signWith_both (hq : q.x.val % order = r.val)
    (hc : challenge r secret digest = -challenge r secret digest')
    (hne : challenge r secret digest ≠ 0) :
    ∃ nonce nonce' pair, signWith secret nonce digest = some pair ∧
      signWith secret nonce' digest' = some pair := by
  obtain ⟨nonce, rfl⟩ := exists_publicPoint q
  have hnonce := nonce.toZMod_residue_ne_zero
  -- The opposite nonce undoes the opposite challenge, and its point has the same abscissa.
  have hhalf : inverse nonce.residue * challenge r secret digest =
      inverse nonce.neg.residue * challenge r secret digest' := by
    apply toZMod_injective
    rw [toZMod_mul, toZMod_mul, toZMod_inverse order_lt hnonce,
      toZMod_inverse order_lt nonce.neg.toZMod_residue_ne_zero, nonce.toZMod_residue_neg, hc,
      toZMod_neg, inv_neg, neg_mul, mul_neg]
  have hpos : 0 < (inverse nonce.residue * challenge r secret digest).val := by
    refine Nat.pos_of_ne_zero fun h => hne (toZMod_eq_zero.1 ?_)
    have hzero : toZMod (inverse nonce.residue * challenge r secret digest) = 0 := by
      rw [toZMod, h, Nat.cast_zero]
    rw [toZMod_mul, toZMod_inverse order_lt hnonce, mul_eq_zero] at hzero
    exact hzero.resolve_left (inv_ne_zero hnonce)
  obtain ⟨s, hs⟩ : ∃ s : Scalar, (inverse nonce.residue * challenge r secret digest).val = s.val := by
    generalize inverse nonce.residue * challenge r secret digest = half at hpos
    exact ⟨⟨half.val, hpos, half.isLt⟩, rfl⟩
  have hq' : nonce.neg.publicPoint.x.val % order = r.val := nonce.publicPoint_neg_x ▸ hq
  have hs' := (congrArg Fin.val hhalf).symm.trans hs
  exact ⟨nonce, nonce.neg, ⟨r, s⟩, signWith_of_eq hq hs, signWith_of_eq hq' hs'⟩

end Both

end LedgerClient.Curve.Ecdsa
