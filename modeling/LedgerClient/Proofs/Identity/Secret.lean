import LedgerClient.Identity.KeyPair
import LedgerClient.Proofs.Curve.Scalar
import LedgerClient.Proofs.Identity.Sealing
import LedgerClient.Proofs.Text.Kinds

/-! A secret is brought in as bytes, as text or sealed. The three ways agree on which secrets there
are, and each takes back what the key gives out. -/

namespace LedgerClient

open Curve

variable {raw password : Bytes} {nonce : Gcm.Nonce} {k : KeyPair} {e : KeyError}

lemma Bytes.bigEndian_eq_padLeft {width : ℕ} (h : raw.length ≤ width) :
    bigEndian width (toNat raw) = padLeft width raw := by
  rw [← bigEndian_toNat (padLeft width raw), length_padLeft h, padLeft, toNat_replicate_append]

namespace SealedKey

lemma decode_encode {k : SealedKey} (h : Sealing.overhead ≤ k.bytes.length) :
    decode k.encode = .ok k := by
  rw [decode, encode, (Versioned.faithful version).read_write]
  exact if_neg h.not_gt

end SealedKey

namespace KeyPair

structure Admissible (raw : Bytes) : Prop where
  length_pos : 1 ≤ raw.length
  length_le : raw.length ≤ 32
  pos : 1 ≤ Bytes.toNat raw
  le : Bytes.toNat raw ≤ order - 1

lemma ofSecret_secret (k : KeyPair) : ofSecret k.secret = k := by
  obtain ⟨secret, address, rfl⟩ := k
  rfl

lemma ofBytes_eq_ok :
    ofBytes raw = .ok k ↔ (1 ≤ raw.length ∧ raw.length ≤ 32) ∧ Bytes.toNat raw = k.secret.val := by
  have hlength : ¬ (raw.length = 0 ∨ 32 < raw.length) ↔ 1 ≤ raw.length ∧ raw.length ≤ 32 := by omega
  rw [ofBytes, ite_error_eq_ok, hlength]
  refine and_congr_right fun _ => ?_
  rw [← Scalar.ofNat?_eq_some]
  cases h : Scalar.ofNat? (Bytes.toNat raw) with
  | none => simp
  | some secret =>
    rw [Option.some.injEq, Except.ok.injEq]
    constructor
    · rintro rfl
      rfl
    · rintro rfl
      exact k.ofSecret_secret

lemma exists_ofBytes_iff : (∃ k, ofBytes raw = .ok k) ↔ Admissible raw := by
  have horder : 0 < order := by decide
  simp only [ofBytes_eq_ok]
  constructor
  · rintro ⟨k, ⟨hpos, hle⟩, hvalue⟩
    exact ⟨hpos, hle, hvalue ▸ k.secret.pos, hvalue ▸ Nat.le_sub_one_of_lt k.secret.lt⟩
  · rintro ⟨hpos, hle, h₁, h₂⟩
    exact ⟨ofSecret ⟨Bytes.toNat raw, h₁, by omega⟩, ⟨hpos, hle⟩, rfl⟩

lemma eq_invalidSecret (h : ofBytes raw = .error e) : e = .invalidSecret := by
  unfold ofBytes at h
  split at h
  · cases h
    rfl
  · split at h
    · cases h
      rfl
    · cases h

lemma ofBytes_toBytes (k : KeyPair) : ofBytes k.toBytes.val = .ok k := by
  rw [ofBytes_eq_ok, k.toBytes.property]
  exact ⟨by decide, k.secret.toNat_toBytes⟩

lemma toBytes_of_ofBytes (h : ofBytes raw = .ok k) : k.toBytes.val = Bytes.padLeft 32 raw := by
  obtain ⟨⟨-, hle⟩, hvalue⟩ := ofBytes_eq_ok.1 h
  rw [← Bytes.bigEndian_eq_padLeft hle, hvalue]
  rfl

lemma importSealed_of_enclose {b : Bytes} (h : Sealing.enclose nonce password raw = .ok b) :
    importSealed ⟨b⟩ password = ofBytes raw := by
  obtain ⟨hle, rfl⟩ := Sealing.enclose_eq_ok.1 h
  rw [importSealed, Sealing.disclose_envelope hle]

lemma decode_encode_version (raw : Bytes) :
    decode (Versioned.encode version raw) =
      if raw.length = 32 then ofBytes raw else .error (.decoding (.invalidLength 32 raw.length)) := by
  rw [decode, Versioned.decodeExact, (Versioned.faithful version).read_write, exceptBind_ok]
  by_cases h : raw.length = 32
  · rw [dif_pos h, if_pos h]
  · rw [dif_neg h, if_neg h]

lemma decode_encode (k : KeyPair) : decode k.encode = .ok k := by
  rw [encode, decode_encode_version, if_pos k.toBytes.property, ofBytes_toBytes]

lemma enclose_toBytes (k : KeyPair) (nonce : Gcm.Nonce) (password : Bytes) :
    Sealing.enclose nonce password k.toBytes.val =
      .ok (Sealing.envelope nonce password k.toBytes.val) :=
  Sealing.enclose_eq_ok.2 ⟨k.toBytes.property.le.trans (by decide), rfl⟩

lemma exportSealed_eq (k : KeyPair) (nonce : Gcm.Nonce) (password : Bytes) :
    k.exportSealed nonce password = .ok ⟨Sealing.envelope nonce password k.toBytes.val⟩ := by
  rw [exportSealed, enclose_toBytes]

/-- Bytes, an envelope and a text are taken for the same secret or refused alike, but that a text
has to hold thirty-two bytes; and a key that is given out in either form is taken back. -/
theorem secret_forms (raw password : Bytes) (nonce : Gcm.Nonce) :
    ((∃ k, ofBytes raw = .ok k) ↔ Admissible raw) ∧
      (∀ k, ofBytes raw = .ok k →
        k.secret.val = Bytes.toNat raw ∧ k.toBytes.val = Bytes.padLeft 32 raw) ∧
      (∀ e, ofBytes raw = .error e → e = .invalidSecret) ∧
      ((∃ b, Sealing.enclose nonce password raw = .ok b) ↔ raw.length ≤ Gcm.plaintextLimit) ∧
      (∀ b, Sealing.enclose nonce password raw = .ok b →
        importSealed ⟨b⟩ password = ofBytes raw) ∧
      decode (Versioned.encode 0xab raw) =
        (if raw.length = 32 then ofBytes raw
          else .error (.decoding (.invalidLength 32 raw.length))) ∧
      ∀ k : KeyPair, ofBytes k.toBytes.val = .ok k ∧ decode k.encode = .ok k ∧
        ∃ sealedKey, k.exportSealed nonce password = .ok sealedKey ∧
          SealedKey.decode sealedKey.encode = .ok sealedKey ∧
          importSealed sealedKey password = .ok k := by
  refine ⟨exists_ofBytes_iff, fun k h => ?_, fun e => eq_invalidSecret, ?_,
    fun b => importSealed_of_enclose, decode_encode_version raw, fun k => ?_⟩
  · exact ⟨(ofBytes_eq_ok.1 h).2.symm, toBytes_of_ofBytes h⟩
  · simp only [Sealing.enclose_eq_ok, exists_and_left, exists_eq, and_true]
  · refine ⟨k.ofBytes_toBytes, k.decode_encode, _, k.exportSealed_eq nonce password,
      SealedKey.decode_encode (by simp), ?_⟩
    rw [importSealed_of_enclose (k.enclose_toBytes nonce password), ofBytes_toBytes]

end KeyPair

end LedgerClient
