import LedgerClient.Identity.Signature
import LedgerClient.Proofs.Curve.Scalar
import LedgerClient.Proofs.Identity.Der
import LedgerClient.Proofs.Text.Base64
import LedgerClient.Proofs.Text.Versioned

namespace LedgerClient

open Curve

namespace Der

lemma length_content_le {n : ℕ} (h : n < 256 ^ 32) : (content n).length ≤ 33 := by
  have hd : Denotes n (0 :: Bytes.bigEndian 32 n) :=
    .mk (by decide) ((Bytes.toNat_replicate_append 1 _).trans (Bytes.toNat_bigEndian h))
  simpa using (shortest_iff.2 rfl).length_le hd

lemma length_integers_lt (a b : Scalar) : (integer a.val ++ integer b.val).length < 128 := by
  have ha := length_content_le a.lt_width
  have hb := length_content_le b.lt_width
  rw [length_integers]
  omega

lemma distinguished_scalars {a b : Scalar} {der : Bytes} :
    Distinguished a.val b.val der ↔ der = encode a.val b.val :=
  distinguished_iff.trans (and_iff_right (length_integers_lt a b))

end Der

namespace Signature

variable {b der : Bytes} {r s : ℕ} {sig : Signature}

structure Canonical (r s : ℕ) (der : Bytes) : Prop where
  first : 1 ≤ r ∧ r < order
  second : 1 ≤ s ∧ s ≤ order / 2
  encoded : Der.Distinguished r s der

lemma decode?_encode (a b : Scalar) : Der.decode? (Der.encode a.val b.val) = some (a.val, b.val) :=
  Der.decode?_eq_some.2 ⟨Der.length_integers_lt a b, rfl⟩

lemma ofDer_encode (a b : Scalar) :
    ofDer (Der.encode a.val b.val) =
      if h : b.IsLow then .ok ⟨a, b, h⟩ else .error .nonCanonical := by
  simp only [ofDer, decode?_encode, Scalar.ofNat?_val]

lemma ofDer_eq_ok : ofDer b = .ok sig ↔ b = sig.toDer := by
  constructor
  · intro h
    unfold ofDer at h
    split at h
    · cases h
    rename_i r s hd
    obtain ⟨-, rfl⟩ := Der.decode?_eq_some.1 hd
    split at h
    · rename_i r' s' hr hs
      obtain rfl := Scalar.ofNat?_eq_some.1 hr
      obtain rfl := Scalar.ofNat?_eq_some.1 hs
      obtain ⟨hlow, h⟩ := dite_else_error_eq_ok.1 h
      cases h
      rfl
    · cases h
  · rintro rfl
    exact (ofDer_encode sig.r sig.s).trans (dif_pos sig.low)

lemma canonical (sig : Signature) : Canonical sig.r.val sig.s.val sig.toDer where
  first := ⟨sig.r.pos, sig.r.lt⟩
  second := ⟨sig.s.pos, sig.low⟩
  encoded := Der.distinguished_scalars.2 rfl

lemma Canonical.exists_toDer (h : Canonical r s der) :
    ∃ sig : Signature, sig.r.val = r ∧ sig.s.val = s ∧ sig.toDer = der := by
  obtain ⟨⟨hr, hr'⟩, ⟨hs, hs'⟩, hd⟩ := h
  have hlt : s < order := hs'.trans_lt (by decide)
  let sig : Signature := ⟨⟨r, hr, hr'⟩, ⟨s, hs, hlt⟩, hs'⟩
  exact ⟨sig, rfl, rfl, (Der.distinguished_scalars (a := sig.r) (b := sig.s).1 hd).symm⟩

lemma toDer_inj {sig sig' : Signature} (h : sig.toDer = sig'.toDer) : sig = sig' := by
  have hs : ofDer sig.toDer = .ok sig := ofDer_eq_ok.2 rfl
  exact Except.ok.inj (hs.symm.trans (ofDer_eq_ok.2 h))

lemma faithful : Faithful toBase64 ofBase64 where
  read_eq_ok sig text := by
    rw [toBase64, Base64.encode, trimmed_eq_ofList, ofBase64, ← Base64.decode?_eq_some]
    cases Base64.decode? (trim text.toList) with
    | none => simp
    | some b => simpa using ofDer_eq_ok
  read_write sig := by
    have ht := trim_of_forall (Base64.not_isBlank_encodeChars sig.toDer)
    rw [toBase64, Base64.encode, ofBase64, String.toList_ofList, ht, Base64.decode?_encodeChars]
    exact ofDer_eq_ok.2 rfl

lemma isCanonical_eq_true (sig : Signature) : sig.isCanonical = true := by
  have hl : halfOrder.length = sig.s.toBytes.val.length := sig.s.toBytes.property.symm
  have hh : Bytes.toNat halfOrder = order / 2 := by decide +kernel
  have hlt : ¬ Bytes.lt halfOrder sig.s.toBytes.val := by
    rw [Bytes.lt_iff hl, hh, Scalar.toNat_toBytes]
    exact not_lt.2 sig.low
  simpa [isCanonical, components] using hlt

/-- Bytes are read as a signature exactly if they are the shortest form of two numbers in the range
of its halves, and then they are its bytes. Two signatures with the same halves have the same bytes,
none has a twin with a negated second half, and each has one text. -/
theorem signature_forms :
    (∀ der, (∃ sig, ofDer der = .ok sig) ↔ ∃ r s, Canonical r s der) ∧
      (∀ der sig r s, ofDer der = .ok sig → Canonical r s der →
        sig.toDer = der ∧ sig.components.1.val = Bytes.bigEndian 32 r ∧
          sig.components.2.val = Bytes.bigEndian 32 s ∧ sig.isCanonical = true) ∧
      (∀ der der' sig sig', ofDer der = .ok sig → ofDer der' = .ok sig' →
        sig.components = sig'.components → der = der') ∧
      (∀ der der' r s, Canonical r s der → Der.Distinguished r (order - s) der' →
        ofDer der' = .error .nonCanonical) ∧
      ∀ text sig, ofBase64 text = .ok sig ↔ trimmed text = sig.toBase64 := by
  refine ⟨fun der => ⟨?_, ?_⟩, ?_, ?_, ?_, fun text sig => faithful.read_eq_ok sig text⟩
  · rintro ⟨sig, h⟩
    obtain rfl := ofDer_eq_ok.1 h
    exact ⟨_, _, sig.canonical⟩
  · rintro ⟨r, s, h⟩
    obtain ⟨sig, -, -, rfl⟩ := h.exists_toDer
    exact ⟨sig, ofDer_eq_ok.2 rfl⟩
  · intro der sig r s h hc
    obtain ⟨sig', rfl, rfl, rfl⟩ := hc.exists_toDer
    obtain rfl := toDer_inj (ofDer_eq_ok.1 h)
    exact ⟨rfl, rfl, rfl, isCanonical_eq_true _⟩
  · intro der der' sig sig' h h' hc
    obtain ⟨hr, hs⟩ := Prod.mk.inj hc
    rw [ofDer_eq_ok.1 h, ofDer_eq_ok.1 h', toDer, toDer, Scalar.toBytes_inj.1 hr,
      Scalar.toBytes_inj.1 hs]
  · intro der der' r s hc hd
    obtain ⟨sig, rfl, rfl, -⟩ := hc.exists_toDer
    obtain rfl := (Der.distinguished_scalars (a := sig.r) (b := sig.s.neg)).1 hd
    rw [ofDer_encode]
    exact dif_neg (Scalar.neg_not_isLow sig.low)

theorem signature_forms_twin :
    let r := 0xb07e721516dff165bca1b1933e81a2937ee5ab8157273657debe646fabaea791
    let s := 0x4d1c7c6aae9881807baef9b3c42e6eaa2143d4fe05e6b729156fe2ad819b3786
    let der : Bytes := [0x30, 0x45, 0x02, 0x21, 0x00] ++ Bytes.bigEndian 32 r ++ [0x02, 0x20] ++
      Bytes.bigEndian 32 s
    let twin : Bytes := [0x30, 0x46, 0x02, 0x21, 0x00] ++ Bytes.bigEndian 32 r ++
      [0x02, 0x21, 0x00] ++ Bytes.bigEndian 32 (order - s)
    (∃ sig, ofDer der = .ok sig ∧ sig.toDer = der ∧ sig.isCanonical = true) ∧
      ofDer twin = .error .nonCanonical := by
  intro r s der twin
  have hc : Canonical r s der :=
    { first := by decide
      second := by decide
      encoded := Der.distinguished_iff.2 ⟨by decide +kernel, by decide +kernel⟩ }
  have ht : Der.Distinguished r (order - s) twin :=
    Der.distinguished_iff.2 ⟨by decide +kernel, by decide +kernel⟩
  obtain ⟨hread, hform, -, htwin, -⟩ := signature_forms
  obtain ⟨sig, hsig⟩ := (hread der).2 ⟨r, s, hc⟩
  obtain ⟨hder, -, -, hcanonical⟩ := hform der sig r s hsig hc
  exact ⟨⟨sig, hsig, hder, hcanonical⟩, htwin der twin r s hc ht⟩

end Signature

end LedgerClient
