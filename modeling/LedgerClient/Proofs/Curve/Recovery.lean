import LedgerClient.Proofs.Curve.Root

namespace LedgerClient.Curve.Point

variable {odd : Bool} {x y : Field} {q : Point}

lemma ofCoordinates?_eq_some : ofCoordinates? x y = some q ↔ q.x = x ∧ q.y = y := by
  obtain ⟨x', y', hq⟩ := q
  constructor
  · intro h
    unfold ofCoordinates? at h
    split at h
    · cases h
      exact ⟨rfl, rfl⟩
    · cases h
  · rintro ⟨rfl, rfl⟩
    exact dif_pos hq

lemma recover?_eq (odd : Bool) (x : Field) :
    recover? odd x = ofCoordinates? x ((x * x * x + 7).root.ofParity odd) := rfl

lemma recover?_eq_some : recover? odd x = some q ↔ q.x = x ∧ q.y.isOdd = odd := by
  have hne : (q.x * q.x * q.x + 7).root ≠ 0 := by
    intro h
    have hzero := Field.root_mul_root q.y
    rw [q.onCurve, h] at hzero
    exact Field.cube_add_seven_ne_zero q.x hzero.symm
  rw [recover?_eq, ofCoordinates?_eq_some]
  refine and_congr_right fun hx => ?_
  subst hx
  constructor
  · intro hy
    rw [hy, Field.isOdd_ofParity hne]
  · intro hodd
    refine Field.eq_of_square ?_ (hodd.trans (Field.isOdd_ofParity hne).symm)
    rw [Field.ofParity_mul_ofParity, ← q.onCurve, Field.root_mul_root]

lemma exists_recover?_iff :
    (∃ q, recover? odd x = some q) ↔ ∃ y : Field, y * y = x * x * x + 7 := by
  constructor
  · rintro ⟨q, hq⟩
    obtain ⟨rfl, -⟩ := recover?_eq_some.1 hq
    exact ⟨q.y, q.onCurve⟩
  · rintro ⟨y, hy⟩
    have hroot := Field.ofParity_mul_ofParity odd (x * x * x + 7).root
    rw [← hy, Field.root_mul_root, hy] at hroot
    rw [recover?_eq]
    generalize (x * x * x + 7).root.ofParity odd = z at hroot ⊢
    exact ⟨⟨x, z, hroot⟩, ofCoordinates?_eq_some.2 ⟨rfl, rfl⟩⟩

lemma exists_iff : (∃ q : Point, q.x = x ∧ q.y = y) ↔
    (y.val : ZMod p) ^ 2 = (x.val : ZMod p) ^ 3 + 7 := by
  rw [← Field.mul_self_eq_cubic_iff]
  constructor
  · rintro ⟨q, rfl, rfl⟩
    exact q.onCurve
  · intro h
    exact ⟨⟨x, y, h⟩, rfl, rfl⟩

end LedgerClient.Curve.Point
