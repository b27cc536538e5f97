import LedgerClient.Identity.Address
import LedgerClient.Proofs.Curve.Recovery
import LedgerClient.Proofs.Text.Versioned

/-! The bytes of an address are a parity and an abscissa over which the curve has a point. They tell
the point, and all such bytes are an address. -/

namespace LedgerClient

namespace Address

open Curve

variable {b rest : Bytes} {parity : UInt8} {a : Address}

inductive Compressed : Bytes → Prop
  | mk {parity : UInt8} {rest : Bytes} (sign : parity = 2 ∨ parity = 3) (length : rest.length = 32)
      (lt : Bytes.toNat rest < p) (square : IsSquare ((Bytes.toNat rest : ZMod p) ^ 3 + 7)) :
      Compressed (parity :: rest)

lemma decompress?_eq (odd : Bool) (h : Bytes.toNat rest < p) :
    decompress? odd rest = Point.recover? odd ⟨Bytes.toNat rest, h⟩ := dif_pos h

lemma decompress?_eq_some {odd : Bool} {q : Point} :
    decompress? odd rest = some q ↔ q.x.val = Bytes.toNat rest ∧ q.y.isOdd = odd := by
  constructor
  · intro h
    by_cases hlt : Bytes.toNat rest < p
    · rw [decompress?_eq odd hlt] at h
      obtain ⟨hx, hodd⟩ := Point.recover?_eq_some.1 h
      exact ⟨congrArg Fin.val hx, hodd⟩
    · cases (dif_neg hlt).symm.trans h
  · rintro ⟨hx, hodd⟩
    rw [decompress?_eq odd (hx ▸ q.x.isLt), Point.recover?_eq_some]
    exact ⟨Fin.ext hx, hodd⟩

lemma ofBytes_cons_eq_ok :
    ofBytes (parity :: rest) = .ok a ↔
      rest.length = 32 ∧ (parity = 2 ∨ parity = 3) ∧ decompress? (parity = 3) rest = some a.point := by
  have hlength : ¬ (parity :: rest).length ≠ size ↔ rest.length = 32 := by simp [size]
  have hsign : ¬ (parity ≠ 2 ∧ parity ≠ 3) ↔ parity = 2 ∨ parity = 3 := by tauto
  simp only [ofBytes, ite_error_eq_ok, hlength, hsign]
  refine and_congr_right fun _ => and_congr_right fun _ => ?_
  obtain ⟨q⟩ := a
  cases decompress? (parity = 3) rest <;> simp

lemma parityByte_eq (odd : Bool) :
    (parityByte odd = 2 ∨ parityByte odd = 3) ∧ (parityByte odd = 3 : Bool) = odd := by
  cases odd <;> decide

lemma ofBytes_eq_ok : ofBytes b = .ok a ↔ b = a.toBytes.val := by
  have hw : p < 256 ^ 32 := by decide
  have hx : Bytes.toNat (Bytes.bigEndian 32 a.point.x.val) = a.point.x.val :=
    Bytes.toNat_bigEndian (a.point.x.isLt.trans hw)
  cases b with
  | nil => exact iff_of_false nofun nofun
  | cons parity rest =>
    rw [ofBytes_cons_eq_ok, decompress?_eq_some]
    constructor
    · rintro ⟨hlength, hparity, hpoint, hodd⟩
      have hrest : Bytes.bigEndian 32 (Bytes.toNat rest) = rest := hlength ▸ Bytes.bigEndian_toNat rest
      have hsign : parityByte (parity = 3) = parity := by
        rcases hparity with rfl | rfl <;> rfl
      simp only [toBytes, hpoint, hodd, hrest, hsign]
    · intro h
      obtain ⟨rfl, rfl⟩ := List.cons.inj h
      exact ⟨Bytes.length_bigEndian _ _, (parityByte_eq _).1, hx.symm, (parityByte_eq _).2.symm⟩

lemma toBytes_injective : Function.Injective toBytes := by
  intro a b h
  have ha : ofBytes a.toBytes.val = .ok a := ofBytes_eq_ok.2 rfl
  exact Except.ok.inj (ha.symm.trans (ofBytes_eq_ok.2 (congrArg Subtype.val h)))

lemma exists_ofBytes_iff : (∃ a, ofBytes b = .ok a) ↔ Compressed b := by
  constructor
  · rintro ⟨a, h⟩
    cases b with
    | nil => cases h
    | cons parity rest =>
      obtain ⟨length, sign, hpoint⟩ := ofBytes_cons_eq_ok.1 h
      obtain ⟨hx, -⟩ := decompress?_eq_some.1 hpoint
      refine .mk sign length (hx ▸ a.point.x.isLt) ?_
      rw [← hx, ← Field.exists_root_iff]
      exact ⟨a.point.y, a.point.onCurve⟩
  · rintro @⟨parity, rest, sign, length, lt, square⟩
    obtain ⟨q, hq⟩ := Point.exists_recover?_iff.2 (Field.exists_root_iff (x := ⟨_, lt⟩).2 square)
    exact ⟨⟨q⟩, ofBytes_cons_eq_ok.2 ⟨length, sign, (decompress?_eq _ lt).trans hq⟩⟩

lemma faithful : Faithful encode decode :=
  (Versioned.faithful_exact version size).bind fun _ _ => ofBytes_eq_ok.trans Subtype.ext_iff.symm

/-- Bytes are read as an address exactly if they compress a point of the curve, and then as the
address of that point; the text of an address holds its bytes. -/
theorem address_bytes :
    (∀ x y, (∃ q : Point, q.x = x ∧ q.y = y) ↔
        (y.val : ZMod p) ^ 2 = (x.val : ZMod p) ^ 3 + 7) ∧
      (∀ b, (∃ a, ofBytes b = .ok a) ↔ Compressed b) ∧
      (∀ b a, ofBytes b = .ok a ↔
        b = (if a.point.y.val % 2 = 1 then 3 else 2) :: Bytes.bigEndian 32 a.point.x.val) ∧
      (∀ q : Point, ofBytes (toBytes ⟨q⟩).val = .ok ⟨q⟩) ∧ Faithful encode decode := by
  refine ⟨fun x y => Point.exists_iff, fun b => exists_ofBytes_iff, fun b a => ?_,
    fun q => ofBytes_eq_ok.2 rfl, faithful⟩
  rw [ofBytes_eq_ok, toBytes, parityByte, Field.isOdd]
  simp only [beq_iff_eq]

end Address

end LedgerClient
