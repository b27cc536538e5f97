import LedgerClient.Identity.KeyPair
import LedgerClient.Proofs.Text.Versioned

/-! What a text stands for. The bytes that it holds give the kind of value away, by the version in
front or by their number. -/

namespace LedgerClient

inductive TextKind where
  | address
  | secret
  | sealedSecret
  | digest
deriving DecidableEq

namespace TextKind

def version? : TextKind → Option UInt8
  | address => some Address.version
  | secret => some KeyPair.version
  | sealedSecret => some SealedKey.version
  | digest => none

inductive Reads (text : String) : TextKind → Prop
  | address {a : Address} (read : Address.decode text = .ok a) : Reads text address
  | secret {k : KeyPair} (read : KeyPair.decode text = .ok k) : Reads text secret
  | sealedSecret {k : SealedKey} (read : SealedKey.decode text = .ok k) : Reads text sealedSecret
  | digest {c : ChainId} (read : ChainId.decode text = .ok c) : Reads text digest

inductive Refused (text : String) (cause : EncodingError) : TextKind → Prop
  | address (refused : Address.decode text = .error cause) : Refused text cause address
  | secret (refused : KeyPair.decode text = .error (.decoding cause)) : Refused text cause secret
  | sealedSecret (refused : SealedKey.decode text = .error cause) : Refused text cause sealedSecret

def versionOf (b : Bytes) : Option UInt8 := if b.length = 32 then none else b.head?

end TextKind

variable {text : String} {b raw : Bytes} {v expected : UInt8}

namespace Versioned

lemma decode_bytes (h : decode v text = .ok raw) :
    Base58.decode (trim text.toList) = .ok (v :: raw ++ checksum (v :: raw)) :=
  Base58.decode_eq_ok.2 (trimmed_eq_ofList.1 (decode_eq_ok.1 h))

lemma versionOf_bytes (h : raw.length ≠ 27) :
    TextKind.versionOf (v :: raw ++ checksum (v :: raw)) = some v := by
  have hlength : (v :: raw ++ checksum (v :: raw)).length = raw.length + 5 := by simp
  rw [TextKind.versionOf, hlength, if_neg (by omega)]
  rfl

lemma exists_versionOf (h : decode v text = .ok raw) (hlength : raw.length ≠ 27) :
    ∃ b, Base58.decode (trim text.toList) = .ok b ∧ some v = TextKind.versionOf b :=
  ⟨_, decode_bytes h, (versionOf_bytes hlength).symm⟩

lemma exists_versionOf_exact {n : ℕ} {raw : Bytes.Exact n} (h : decodeExact v n text = .ok raw)
    (hn : n ≠ 27) :
    ∃ b, Base58.decode (trim text.toList) = .ok b ∧ some v = TextKind.versionOf b :=
  exists_versionOf (decodeExact_eq_ok.1 h) (raw.property.trans_ne hn)

lemma decode_encode_of_ne (h : v ≠ expected) :
    decode expected (encode v raw) = .error (.versionMismatch expected v) := by
  have hsplit : split (encode v raw) = .ok (v, raw) :=
    split_eq_ok.2 (trimmed_eq_ofList.1 (trimmed_encode v raw))
  rw [decode, hsplit]
  exact if_neg h

lemma decodeExact_encode_of_ne {n : ℕ} (h : v ≠ expected) :
    decodeExact expected n (encode v raw) = .error (.versionMismatch expected v) := by
  rw [decodeExact, decode_encode_of_ne h]
  rfl

end Versioned

namespace TextKind

variable {k k' : TextKind} {v' : UInt8}

lemma Reads.version?_eq (h : Reads text k) :
    ∃ b, Base58.decode (trim text.toList) = .ok b ∧ k.version? = versionOf b := by
  cases h with
  | address read =>
    obtain ⟨raw, hraw, -⟩ := exceptBind_eq_ok.1 read
    exact Versioned.exists_versionOf_exact hraw (by decide)
  | secret read =>
    unfold KeyPair.decode at read
    split at read
    · cases read
    rename_i raw hraw
    exact Versioned.exists_versionOf_exact hraw (by decide)
  | sealedSecret read =>
    -- The shortest sealed secret is longer than a digest by one byte.
    obtain ⟨raw, hraw, h⟩ := exceptBind_eq_ok.1 read
    obtain ⟨hlong, -⟩ := ite_error_eq_ok.1 h
    exact Versioned.exists_versionOf hraw fun hshort => hlong (hshort ▸ by decide)
  | digest read =>
    obtain ⟨d, hd, -⟩ := map_eq_ok.1 read
    exact ⟨d.val, Base58.decode_eq_ok.2 (trimmed_eq_ofList.1 (Digest.decode_eq_ok.1 hd)),
      (if_pos d.property).symm⟩

lemma version?_injective : Function.Injective version? := by
  intro k k' h
  cases k <;> cases k' <;> first | rfl | exact absurd h (by decide)

lemma Reads.unique (h : Reads text k) (h' : Reads text k') : k = k' := by
  obtain ⟨b, hb, hk⟩ := h.version?_eq
  obtain ⟨b', hb', hk'⟩ := h'.version?_eq
  obtain rfl : b = b' := Except.ok.inj (hb.symm.trans hb')
  exact version?_injective (hk.trans hk'.symm)

lemma refused_of_ne (hk : k.version? = some v) (hv : v' ≠ v) :
    Refused (Versioned.encode v' raw) (.versionMismatch v v') k := by
  cases k with
  | address =>
    cases hk
    refine .address ?_
    rw [Address.decode, Versioned.decodeExact_encode_of_ne hv]
    rfl
  | secret =>
    cases hk
    refine .secret ?_
    rw [KeyPair.decode, Versioned.decodeExact_encode_of_ne hv]
  | sealedSecret =>
    cases hk
    refine .sealedSecret ?_
    rw [SealedKey.decode, Versioned.decode_encode_of_ne hv]
    rfl
  | digest => cases hk

/-- No text is read as values of two kinds, and what is written with the version of one kind is
refused by the readers of the others for that version. -/
theorem text_kind :
    (∀ text, {k | Reads text k}.Subsingleton) ∧
      (∀ text d, TxHash.decode text = .ok ⟨d⟩ ↔ ChainId.decode text = .ok ⟨d⟩) ∧
      ∀ k k' v v' raw, k.version? = some v → k'.version? = some v' → k ≠ k' →
        Refused (Versioned.encode v' raw) (.versionMismatch v v') k := by
  refine ⟨fun text k h k' h' => h.unique h', fun text d => ?_, ?_⟩
  · rw [TxHash.faithful.read_eq_ok, ChainId.faithful.read_eq_ok]
    rfl
  · intro k k' v v' raw hk hk' hne
    refine refused_of_ne hk ?_
    rintro rfl
    exact hne (version?_injective (hk.trans hk'.symm))

theorem text_kind_secret :
    Refused (Versioned.encode 0xab [1]) (.versionMismatch 0x42 0xab) address :=
  text_kind.2.2 address secret 0x42 0xab [1] rfl rfl (by decide)

end TextKind

end LedgerClient
