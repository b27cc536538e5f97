import LedgerClient.Proofs.Bytes
import LedgerClient.Proofs.Except
import LedgerClient.Proofs.Text.Alphabet
import LedgerClient.Text.Base58
import LedgerClient.Text.Blank

namespace LedgerClient

namespace Radix

def convert (source target : ℕ) (ds : List ℕ) : List ℕ :=
  List.replicate (ds.takeWhile (· == 0)).length 0 ++ digits target (value source ds)

variable {base source target : ℕ} {ds : List ℕ}

lemma mem_convert_lt (ht : 2 ≤ target) : ∀ d ∈ convert source target ds, d < target := by
  refine List.forall_mem_append.2 ⟨fun d hd => ?_, mem_digits_lt ht⟩
  rw [List.eq_of_mem_replicate hd]
  omega

lemma takeWhile_convert (ht : 2 ≤ target) :
    (convert source target ds).takeWhile (· == 0) = ds.takeWhile (· == 0) := by
  have hdigits : (digits target (value source ds)).takeWhile (· == 0) = [] := by
    have h := List.takeWhile_append_dropWhile (p := (· == 0)) (l := digits target (value source ds))
    rwa [dropWhile_digits ht, List.append_left_eq_self] at h
  rw [convert, List.takeWhile_append_of_pos (by simp), hdigits, List.append_nil,
    replicate_takeWhile]

lemma convert_convert (hs : 2 ≤ source) (ht : 2 ≤ target) (hds : ∀ d ∈ ds, d < source) :
    convert target source (convert source target ds) = ds := by
  have hvalue : value target (convert source target ds) = value source ds := by
    rw [convert, value_replicate_append, value_digits ht]
  rw [convert, takeWhile_convert ht, hvalue, digits_value hs hds, replicate_takeWhile,
    List.takeWhile_append_dropWhile]

end Radix

namespace Base58

variable {b : Bytes} {cs : List Char} {c : Char} {d i : ℕ} {ds : List ℕ}

lemma digit_ascii : ∀ d < 58, (digit d).toNat < 128 := by decide

lemma not_isBlank_digit : ∀ d < 58, Char.isBlank (digit d) = false := by decide +kernel

lemma digit?_eq_some : digit? c = some d ↔ d < 58 ∧ c = digit d :=
  idxOf?_eq_some_iff_getD (by decide)

lemma digits_eq_ok : digits i cs = .ok ds ↔ cs = ds.map digit ∧ ∀ d ∈ ds, d < 58 := by
  induction cs generalizing i ds with
  | nil =>
    cases ds with
    | nil => simp [digits]
    | cons d ds => simp [digits]
  | cons c cs ih =>
    constructor
    · intro h
      obtain ⟨-, h⟩ := ite_error_eq_ok.1 h
      split at h
      · cases h
      rename_i d hc
      obtain ⟨ds', hds, rfl⟩ := map_eq_ok.1 h
      obtain ⟨hd, rfl⟩ := digit?_eq_some.1 hc
      obtain ⟨rfl, hlt⟩ := ih.1 hds
      exact ⟨rfl, List.forall_mem_cons.2 ⟨hd, hlt⟩⟩
    · rintro ⟨hcs, hlt⟩
      cases ds with
      | nil => cases hcs
      | cons d ds =>
        obtain ⟨rfl, rfl⟩ := List.cons.inj hcs
        obtain ⟨hd, hlt⟩ := List.forall_mem_cons.1 hlt
        rw [digits, if_neg (digit_ascii d hd).not_ge, digit?_eq_some.2 ⟨hd, rfl⟩]
        exact map_eq_ok.2 ⟨ds, ih.2 ⟨rfl, hlt⟩, rfl⟩

lemma encode_eq (b : Bytes) : encode b = (Radix.convert 256 58 (b.map UInt8.toNat)).map digit := by
  have hzeros : (b.map UInt8.toNat).takeWhile (· == 0) = (b.takeWhile (· == 0)).map UInt8.toNat := by
    rw [List.takeWhile_map]
    congr 2
    funext x
    simp [← UInt8.toNat_inj]
  rw [Radix.convert, List.map_append, List.map_replicate, hzeros, List.length_map]
  rfl

lemma decode_eq (cs : List Char) :
    decode cs = (digits 0 cs).map fun ds => (Radix.convert 58 256 ds).map UInt8.ofNat := by
  simp only [Radix.convert, List.map_append, List.map_replicate]
  rfl

lemma decode_eq_ok : decode cs = .ok b ↔ cs = encode b := by
  rw [decode_eq, map_eq_ok, encode_eq]
  constructor
  · rintro ⟨ds, hds, rfl⟩
    obtain ⟨rfl, hlt⟩ := digits_eq_ok.1 hds
    rw [Bytes.map_toNat_ofNat (Radix.mem_convert_lt (by decide)),
      Radix.convert_convert (by decide) (by decide) hlt]
  · rintro rfl
    refine ⟨_, digits_eq_ok.2 ⟨rfl, Radix.mem_convert_lt (by decide)⟩, ?_⟩
    rw [Radix.convert_convert (by decide) (by decide) (Bytes.mem_map_toNat_lt b),
      Bytes.map_ofNat_toNat]

lemma not_isBlank_encode (b : Bytes) : ∀ c ∈ encode b, Char.isBlank c = false := by
  rw [encode_eq]
  intro c hc
  obtain ⟨d, hd, rfl⟩ := List.mem_map.1 hc
  exact not_isBlank_digit d (Radix.mem_convert_lt (by decide) d hd)

end Base58

end LedgerClient
