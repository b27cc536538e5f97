import LedgerClient.Proofs.Text.Alphabet
import LedgerClient.Text.Base64
import LedgerClient.Text.Blank

namespace LedgerClient

namespace Base64

variable {c : Char} {cs : List Char} {d i j k l : ℕ} {a : UInt8} {b rest : Bytes}

lemma digit?_eq_some : digit? c = some d ↔ d < 64 ∧ c = digit d :=
  idxOf?_eq_some_iff_getD (by decide)

lemma digit?_digit (h : d < 64) : digit? (digit d) = some d := digit?_eq_some.2 ⟨h, rfl⟩

lemma digit_ne_pad : ∀ d < 64, digit d ≠ '=' := by decide +kernel

lemma not_isBlank_digit : ∀ d < 64, Char.isBlank (digit d) = false := by decide +kernel

lemma encodeChars_one (hi : i < 64) (hj : j < 64) (h : j % 16 = 0) :
    encodeChars [UInt8.ofNat (i * 4 + j / 16)] = [digit i, digit j, '=', '='] := by
  have hi' : (i * 4 + j / 16) / 4 = i := by omega
  have hj' : (i * 4 + j / 16) % 4 * 16 = j := by omega
  rw [encodeChars, UInt8.toNat_ofNat_of_lt' (show _ < 256 by omega), hi', hj']

lemma encodeChars_two (hi : i < 64) (hj : j < 64) (hk : k < 64) (h : k % 4 = 0) :
    encodeChars [UInt8.ofNat (i * 4 + j / 16), UInt8.ofNat (j % 16 * 16 + k / 4)] =
      [digit i, digit j, digit k, '='] := by
  have hi' : (i * 4 + j / 16) / 4 = i := by omega
  have hj' : (i * 4 + j / 16) % 4 * 16 + (j % 16 * 16 + k / 4) / 16 = j := by omega
  have hk' : (j % 16 * 16 + k / 4) % 16 * 4 = k := by omega
  rw [encodeChars, UInt8.toNat_ofNat_of_lt' (show _ < 256 by omega),
    UInt8.toNat_ofNat_of_lt' (show _ < 256 by omega), hi', hj', hk']

lemma encodeChars_three (hi : i < 64) (hj : j < 64) (hk : k < 64) (hl : l < 64) (rest : Bytes) :
    encodeChars (UInt8.ofNat (i * 4 + j / 16) :: UInt8.ofNat (j % 16 * 16 + k / 4) ::
      UInt8.ofNat (k % 4 * 64 + l) :: rest) =
      digit i :: digit j :: digit k :: digit l :: encodeChars rest := by
  have hi' : (i * 4 + j / 16) / 4 = i := by omega
  have hj' : (i * 4 + j / 16) % 4 * 16 + (j % 16 * 16 + k / 4) / 16 = j := by omega
  have hk' : (j % 16 * 16 + k / 4) % 16 * 4 + (k % 4 * 64 + l) / 64 = k := by omega
  have hl' : (k % 4 * 64 + l) % 64 = l := by omega
  rw [encodeChars, UInt8.toNat_ofNat_of_lt' (show _ < 256 by omega),
    UInt8.toNat_ofNat_of_lt' (show _ < 256 by omega),
    UInt8.toNat_ofNat_of_lt' (show _ < 256 by omega), hi', hj', hk', hl']

lemma eq_encodeChars (h : decode? cs = some b) : cs = encodeChars b := by
  fun_induction decode? cs generalizing b with
  | case1 =>
    cases h
    rfl
  | case2 a b =>
    simp only [Option.bind_eq_bind, Option.bind_eq_some_iff, digit?_eq_some] at h
    obtain ⟨i, ⟨hi, rfl⟩, j, ⟨hj, rfl⟩, h⟩ := h
    obtain ⟨hz, h⟩ := Option.ite_none_right_eq_some.1 h
    cases h
    exact (encodeChars_one hi hj hz).symm
  | case3 a b c hc =>
    simp only [Option.bind_eq_bind, Option.bind_eq_some_iff, digit?_eq_some] at h
    obtain ⟨i, ⟨hi, rfl⟩, j, ⟨hj, rfl⟩, k, ⟨hk, rfl⟩, h⟩ := h
    obtain ⟨hz, h⟩ := Option.ite_none_right_eq_some.1 h
    cases h
    exact (encodeChars_two hi hj hk hz).symm
  | case4 a b c d rest _ _ ih =>
    simp only [Option.bind_eq_bind, Option.bind_eq_some_iff, digit?_eq_some] at h
    obtain ⟨i, ⟨hi, rfl⟩, j, ⟨hj, rfl⟩, k, ⟨hk, rfl⟩, l, ⟨hl, rfl⟩, r, hr, h⟩ := h
    cases h
    rw [encodeChars_three hi hj hk hl, ih hr]
  | case5 => cases h

lemma decode?_encodeChars (b : Bytes) : decode? (encodeChars b) = some b := by
  fun_induction encodeChars b with
  | case1 => rfl
  | case2 a =>
    have ha := a.toNat_lt
    have ha' : a.toNat / 4 * 4 + a.toNat % 4 * 16 / 16 = a.toNat := by omega
    rw [decode?, digit?_digit (by omega), digit?_digit (by omega)]
    simp only [Option.bind_eq_bind, Option.bind_some, ha', UInt8.ofNat_toNat]
    exact if_pos (by omega)
  | case3 a b =>
    have ha := a.toNat_lt
    have hb := b.toNat_lt
    have hne := digit_ne_pad (b.toNat % 16 * 4) (by omega)
    have ha' : a.toNat / 4 * 4 + (a.toNat % 4 * 16 + b.toNat / 16) / 16 = a.toNat := by omega
    have hb' : (a.toNat % 4 * 16 + b.toNat / 16) % 16 * 16 + b.toNat % 16 * 4 / 4 = b.toNat := by
      omega
    rw [decode?, digit?_digit (by omega), digit?_digit (by omega), digit?_digit (by omega)]
    · simp only [Option.bind_eq_bind, Option.bind_some, ha', hb', UInt8.ofNat_toNat]
      exact if_pos (by omega)
    · exact hne
  | case4 a b c rest ih =>
    have ha := a.toNat_lt
    have hb := b.toNat_lt
    have hc := c.toNat_lt
    have hne := digit_ne_pad (c.toNat % 64) (by omega)
    have ha' : a.toNat / 4 * 4 + (a.toNat % 4 * 16 + b.toNat / 16) / 16 = a.toNat := by omega
    have hb' : (a.toNat % 4 * 16 + b.toNat / 16) % 16 * 16 + (b.toNat % 16 * 4 + c.toNat / 64) / 4 =
        b.toNat := by omega
    have hc' : (b.toNat % 16 * 4 + c.toNat / 64) % 4 * 64 + c.toNat % 64 = c.toNat := by omega
    rw [decode?, digit?_digit (by omega), digit?_digit (by omega), digit?_digit (by omega),
      digit?_digit (by omega), ih]
    · simp only [Option.bind_eq_bind, Option.bind_some, ha', hb', hc', UInt8.ofNat_toNat]
    · exact fun _ h => absurd h hne
    · exact fun h => absurd h hne

lemma decode?_eq_some : decode? cs = some b ↔ cs = encodeChars b :=
  ⟨eq_encodeChars, fun h => h ▸ decode?_encodeChars b⟩

lemma not_isBlank_encodeChars (b : Bytes) : ∀ c ∈ encodeChars b, Char.isBlank c = false := by
  have hpad : Char.isBlank '=' = false := by decide
  fun_induction encodeChars b with
  | case1 => simp
  | case2 a =>
    have ha := a.toNat_lt
    simp [hpad, not_isBlank_digit (a.toNat / 4) (by omega),
      not_isBlank_digit (a.toNat % 4 * 16) (by omega)]
  | case3 a b =>
    have ha := a.toNat_lt
    have hb := b.toNat_lt
    simp [hpad, not_isBlank_digit (a.toNat / 4) (by omega),
      not_isBlank_digit (a.toNat % 4 * 16 + b.toNat / 16) (by omega),
      not_isBlank_digit (b.toNat % 16 * 4) (by omega)]
  | case4 a b c rest ih =>
    have ha := a.toNat_lt
    have hb := b.toNat_lt
    have hc := c.toNat_lt
    simp only [List.forall_mem_cons]
    exact ⟨not_isBlank_digit _ (by omega), not_isBlank_digit _ (by omega),
      not_isBlank_digit _ (by omega), not_isBlank_digit _ (by omega), ih⟩

end Base64

end LedgerClient
