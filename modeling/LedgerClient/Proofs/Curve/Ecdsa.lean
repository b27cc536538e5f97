import LedgerClient.Curve.Ecdsa
import LedgerClient.Proofs.Curve.Group
import LedgerClient.Proofs.Curve.Scalar

namespace LedgerClient.Curve

open Jacobian

lemma order_lt : order < 2 ^ 256 := by decide

lemma order_nsmul_base : order • Point.base.toGroup = 0 := by
  have h := (denotes_ofPoint Point.base).mul order_lt
  have hz : ((ofPoint Point.base).mul order).z = 0 := by decide +kernel
  rcases h.toPoint? with ⟨h₀, -⟩ | ⟨q, -, hq⟩
  · exact h₀
  · rw [Jacobian.toPoint?, if_pos hz] at hq
    cases hq

lemma addOrderOf_base : addOrderOf Point.base.toGroup = order :=
  addOrderOf_eq_prime order_nsmul_base Point.base.toGroup_ne_zero

lemma nsmul_base_eq_iff {j k : ℕ} :
    j • Point.base.toGroup = k • Point.base.toGroup ↔ (j : ZMod order) = k := by
  rw [nsmul_eq_nsmul_iff_modEq, addOrderOf_base, ZMod.natCast_eq_natCast_iff]

namespace Scalar

lemma toGroup_publicPoint (k : Scalar) : k.publicPoint.toGroup = k.val • Point.base.toGroup := by
  have hne : k.val • Point.base.toGroup ≠ 0 := by
    rw [← zero_nsmul Point.base.toGroup, Ne, nsmul_base_eq_iff, Nat.cast_zero]
    exact k.toZMod_residue_ne_zero
  rcases ((denotes_ofPoint Point.base).mul (k.lt.trans order_lt)).toPoint? with ⟨h₀, -⟩ | ⟨q, hq, h⟩
  · exact absurd h₀ hne
  · rw [publicPoint, h, hq]
    rfl

lemma publicPoint_neg_x (k : Scalar) : k.neg.publicPoint.x = k.publicPoint.x := by
  apply Point.x_eq_of_toGroup_neg
  rw [eq_neg_iff_add_eq_zero, toGroup_publicPoint, toGroup_publicPoint, ← add_nsmul, neg,
    Nat.sub_add_cancel k.lt.le, order_nsmul_base]

end Scalar

namespace Ecdsa

variable {secret nonce : Scalar} {digest : Digest} {sig : EcdsaPair} {key : Point}

lemma verify_of_toGroup_eq {q : Point} (h : q.toGroup =
      (message digest * inverse sig.s.residue).val • Point.base.toGroup +
        (sig.r.residue * inverse sig.s.residue).val • key.toGroup)
    (hq : q.x.val % order = sig.r.val) : verify key digest sig = true := by
  have ha := (denotes_ofPoint Point.base).mul
    ((message digest * inverse sig.s.residue).isLt.trans order_lt)
  have hb := (denotes_ofPoint key).mul
    ((sig.r.residue * inverse sig.s.residue).isLt.trans order_lt)
  rcases (ha.add hb).toPoint? with ⟨h₀, -⟩ | ⟨q', hq', hp⟩
  · exact absurd (h.trans h₀) q.toGroup_ne_zero
  · obtain rfl := Point.toGroup_injective (h.trans hq')
    rw [verify, hp, Option.any_some, hq, beq_self_eq_true]

lemma toGroup_eq_of_toZMod {c : ℕ} (hs : (c : ZMod order) * toZMod sig.s.residue =
      toZMod (message digest) + toZMod sig.r.residue * toZMod secret.residue) :
    c • Point.base.toGroup =
      (message digest * inverse sig.s.residue).val • Point.base.toGroup +
        (sig.r.residue * inverse sig.s.residue).val • secret.publicPoint.toGroup := by
  have hne := sig.s.toZMod_residue_ne_zero
  rw [Scalar.toGroup_publicPoint, ← mul_nsmul', ← add_nsmul, nsmul_base_eq_iff, Nat.cast_add,
    Nat.cast_mul]
  change _ = toZMod (message digest * inverse sig.s.residue) +
    toZMod (sig.r.residue * inverse sig.s.residue) * toZMod secret.residue
  rw [toZMod_mul, toZMod_mul, toZMod_inverse order_lt hne]
  -- This is the proof of knowledge solved for the nonce.
  field_simp
  exact hs

lemma signWith_eq_some (h : signWith secret nonce digest = some sig) :
    nonce.publicPoint.x.val % order = sig.r.val ∧
      (nonce.val : ZMod order) * toZMod sig.s.residue =
        toZMod (message digest) + toZMod sig.r.residue * toZMod secret.residue := by
  obtain ⟨r, hr, h⟩ := Option.bind_eq_some_iff.1 h
  obtain ⟨s, hs, h⟩ := Option.bind_eq_some_iff.1 h
  obtain rfl := Option.some.inj h
  refine ⟨Scalar.ofNat?_eq_some.1 hr, ?_⟩
  have hval := Scalar.ofNat?_eq_some.1 hs
  have hres : s.residue = inverse nonce.residue * (message digest + r.residue * secret.residue) :=
    Fin.ext hval.symm
  have hne := nonce.toZMod_residue_ne_zero
  change toZMod nonce.residue * toZMod s.residue = _
  rw [hres, toZMod_mul, toZMod_inverse order_lt hne, mul_inv_cancel_left₀ hne, toZMod_add, toZMod_mul]

lemma verify_signWith (h : signWith secret nonce digest = some sig) :
    verify secret.publicPoint digest sig = true := by
  obtain ⟨hx, hs⟩ := signWith_eq_some h
  exact verify_of_toGroup_eq (nonce.toGroup_publicPoint.trans (toGroup_eq_of_toZMod hs)) hx

lemma verify_signWith_neg (h : signWith secret nonce digest = some sig) :
    verify secret.publicPoint digest ⟨sig.r, sig.s.neg⟩ = true := by
  obtain ⟨hx, hs⟩ := signWith_eq_some h
  have hneg : toZMod nonce.neg.residue * toZMod sig.s.neg.residue =
      toZMod (message digest) + toZMod sig.r.residue * toZMod secret.residue := by
    rw [Scalar.toZMod_residue_neg, Scalar.toZMod_residue_neg, neg_mul_neg]
    exact hs
  have hgroup := @toGroup_eq_of_toZMod secret digest ⟨sig.r, sig.s.neg⟩ _ hneg
  refine verify_of_toGroup_eq (nonce.neg.toGroup_publicPoint.trans hgroup) ?_
  rwa [nonce.publicPoint_neg_x]

theorem verify_sign (h : sign secret digest = some sig) :
    verify secret.publicPoint digest sig = true ∧
      verify secret.publicPoint digest ⟨sig.r, sig.s.neg⟩ = true := by
  obtain ⟨nonce, -, h⟩ := Option.bind_eq_some_iff.1 h
  exact ⟨verify_signWith h, verify_signWith_neg h⟩

end Ecdsa

end LedgerClient.Curve
