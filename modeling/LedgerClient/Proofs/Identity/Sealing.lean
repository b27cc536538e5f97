import LedgerClient.Identity.SealedKey
import LedgerClient.Proofs.Cipher.Gcm
import LedgerClient.Proofs.Except

namespace LedgerClient.Sealing

variable {nonce : Gcm.Nonce} {password plaintext b : Bytes}

def envelope (nonce : Gcm.Nonce) (password plaintext : Bytes) : Bytes :=
  nonce.val ++ Gcm.output (deriveKey password) nonce plaintext

@[simp] lemma length_envelope (nonce : Gcm.Nonce) (password plaintext : Bytes) :
    (envelope nonce password plaintext).length = plaintext.length + overhead := by
  rw [envelope, List.length_append, nonce.property, Gcm.length_output, overhead]
  omega

lemma enclose_eq_ok :
    enclose nonce password plaintext = .ok b ↔
      plaintext.length ≤ Gcm.plaintextLimit ∧ b = envelope nonce password plaintext := by
  have hsome (text : Bytes) : Gcm.encrypt (deriveKey password) nonce plaintext = some text ↔ _ :=
    Gcm.encrypt_eq_some
  rw [enclose]
  cases h : Gcm.encrypt (deriveKey password) nonce plaintext with
  | none =>
    have hlong : ¬ plaintext.length ≤ Gcm.plaintextLimit := fun hle => by
      cases h.symm.trans ((hsome _).2 ⟨hle, rfl⟩)
    simp [hlong]
  | some text =>
    obtain ⟨hle, rfl⟩ := (hsome text).1 h
    simp [hle, envelope, eq_comm]

example : (deriveKey [112, 119]).val =
    Bytes.bigEndian 32 0x1a34b4554cacbe70b353dae480197d0d00186d33bcf0143c9e7d65db4fd9d921 := by
  decide +kernel

lemma disclose_append {text : Bytes} (h : 16 ≤ text.length) :
    disclose password (nonce.val ++ text) =
      (Gcm.decrypt (deriveKey password) nonce text).elim (.error .decryptFailed) .ok := by
  have hlong : ¬ (nonce.val ++ text).length < overhead := by
    rw [List.length_append, nonce.property, overhead]
    omega
  have htake : (nonce.val ++ text).take 12 = nonce.val := List.take_left' nonce.property
  have hdrop : (nonce.val ++ text).drop 12 = text := List.drop_left' nonce.property
  rw [disclose, dif_neg hlong]
  simp only [htake, hdrop, Subtype.coe_eta]
  cases Gcm.decrypt (deriveKey password) nonce text with
  | none => rfl
  | some plaintext => rfl

lemma exists_eq_append_of_long (h : overhead ≤ b.length) :
    ∃ (nonce : Gcm.Nonce) (text : Bytes), 16 ≤ text.length ∧ b = nonce.val ++ text := by
  rw [overhead] at h
  refine ⟨⟨b.take 12, ?_⟩, b.drop 12, ?_, (List.take_append_drop 12 b).symm⟩
  · rw [List.length_take]
    omega
  · rw [List.length_drop]
    omega

lemma disclose_of_short (h : b.length < overhead) :
    disclose password b = .error .ciphertextTooShort := by
  rw [disclose, dif_pos h]

lemma disclose_of_long (h : overhead ≤ b.length) :
    (∃ plaintext, disclose password b = .ok plaintext) ∨
      disclose password b = .error .decryptFailed := by
  obtain ⟨nonce, text, htext, rfl⟩ := exists_eq_append_of_long h
  rw [disclose_append htext]
  cases Gcm.decrypt (deriveKey password) nonce text with
  | none => exact .inr rfl
  | some plaintext => exact .inl ⟨plaintext, rfl⟩

lemma overhead_le_of_disclose (h : disclose password b = .ok plaintext) : overhead ≤ b.length := by
  by_contra hshort
  cases h.symm.trans (disclose_of_short (not_le.1 hshort))

lemma disclose_eq_ok :
    disclose password b = .ok plaintext ↔
      plaintext.length ≤ Gcm.ciphertextLimit ∧ ∃ nonce, b = envelope nonce password plaintext := by
  constructor
  · intro h
    obtain ⟨nonce, text, htext, rfl⟩ := exists_eq_append_of_long (overhead_le_of_disclose h)
    rw [disclose_append htext] at h
    cases hsome : Gcm.decrypt (deriveKey password) nonce text with
    | none => simp [hsome] at h
    | some p =>
      obtain rfl : p = plaintext := by simpa [hsome] using h
      obtain ⟨hlimit, rfl⟩ := Gcm.decrypt_eq_some.1 hsome
      exact ⟨hlimit, nonce, rfl⟩
  · rintro ⟨hlimit, nonce, rfl⟩
    rw [envelope, disclose_append (by simp), Gcm.decrypt_eq_some.2 ⟨hlimit, rfl⟩]
    rfl

lemma disclose_envelope (h : plaintext.length ≤ Gcm.plaintextLimit) :
    disclose password (envelope nonce password plaintext) = .ok plaintext :=
  disclose_eq_ok.2 ⟨h.trans (Nat.le_add_right _ _), nonce, rfl⟩

lemma take_envelope (nonce : Gcm.Nonce) (password plaintext : Bytes) :
    (envelope nonce password plaintext).take 12 = nonce.val :=
  List.take_left' nonce.property

lemma enclose_eq_ok_iff :
    enclose nonce password plaintext = .ok b ↔ plaintext.length ≤ Gcm.plaintextLimit ∧
      nonce.val = b.take 12 ∧ disclose password b = .ok plaintext := by
  rw [enclose_eq_ok]
  constructor
  · rintro ⟨hlimit, rfl⟩
    exact ⟨hlimit, (take_envelope ..).symm, disclose_envelope hlimit⟩
  · rintro ⟨hlimit, hnonce, hopen⟩
    obtain ⟨-, nonce', rfl⟩ := disclose_eq_ok.1 hopen
    rw [take_envelope] at hnonce
    exact ⟨hlimit, by rw [Subtype.ext hnonce]⟩

/-- A text discloses a plaintext exactly if it is the plaintext's envelope under the text's own first
twelve bytes, and is what enclosing it gives if the plaintext is not one of those few that are too
long to be encrypted but not to be decrypted. Under 28 bytes a text is too short; any other is
refused for failing to decrypt. -/
theorem envelopes_disclosed (password b : Bytes) :
    (∀ plaintext, disclose password b = .ok plaintext ↔ overhead ≤ b.length ∧
      plaintext.length ≤ Gcm.ciphertextLimit ∧
      ∃ nonce : Gcm.Nonce, nonce.val = b.take 12 ∧
        b = nonce.val ++ Gcm.output (deriveKey password) nonce plaintext) ∧
    (∀ nonce plaintext, enclose nonce password plaintext = .ok b ↔
      plaintext.length ≤ Gcm.plaintextLimit ∧ nonce.val = b.take 12 ∧
        disclose password b = .ok plaintext) ∧
    (b.length < overhead → disclose password b = .error .ciphertextTooShort) ∧
    (overhead ≤ b.length → (∃ plaintext, disclose password b = .ok plaintext) ∨
      disclose password b = .error .decryptFailed) ∧
    (∀ nonce plaintext, plaintext.length ≤ Gcm.plaintextLimit →
      ∃ c, enclose nonce password plaintext = .ok c ∧ disclose password c = .ok plaintext) ∧
    (∀ c plaintext, c.take 12 = b.take 12 → disclose password b = .ok plaintext →
      disclose password c = .ok plaintext → c = b) := by
  refine ⟨fun plaintext => ⟨fun h => ?_, ?_⟩, fun nonce plaintext => enclose_eq_ok_iff,
    disclose_of_short, disclose_of_long, fun nonce plaintext hlimit => ?_,
    fun c plaintext hfront hb hc => ?_⟩
  · refine ⟨overhead_le_of_disclose h, ?_⟩
    obtain ⟨hlimit, nonce, rfl⟩ := disclose_eq_ok.1 h
    exact ⟨hlimit, nonce, (take_envelope ..).symm, rfl⟩
  · rintro ⟨-, hlimit, nonce, -, hb⟩
    exact disclose_eq_ok.2 ⟨hlimit, nonce, hb⟩
  · exact ⟨_, enclose_eq_ok.2 ⟨hlimit, rfl⟩, disclose_envelope hlimit⟩
  · obtain ⟨-, nonce, rfl⟩ := disclose_eq_ok.1 hb
    obtain ⟨-, nonce', rfl⟩ := disclose_eq_ok.1 hc
    rw [take_envelope, take_envelope] at hfront
    rw [Subtype.ext hfront]

theorem envelopes_disclosed_byte :
    let password : Bytes := [112, 119]
    let nonce : Gcm.Nonce := ⟨List.replicate 12 0, rfl⟩
    ∃ b, enclose nonce password [7] = .ok b ∧ b.length = 29 ∧ disclose password b = .ok [7] ∧
      disclose password (b.take 27) = .error .ciphertextTooShort := by
  intro password nonce
  obtain ⟨-, -, -, -, hundone, -⟩ := envelopes_disclosed password []
  obtain ⟨b, hb, hopen⟩ := hundone nonce [7] (by decide)
  obtain ⟨-, -, hshort, -⟩ := envelopes_disclosed password (b.take 27)
  have hlength : b.length = 29 := by rw [(enclose_eq_ok.1 hb).2, length_envelope]; rfl
  refine ⟨b, hb, hlength, hopen, hshort ?_⟩
  rw [List.length_take, hlength]
  decide

end LedgerClient.Sealing
