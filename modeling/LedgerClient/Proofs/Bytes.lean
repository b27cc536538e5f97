import LedgerClient.Bytes
import Mathlib

namespace LedgerClient

lemma replicate_takeWhile {α : Type} [DecidableEq α] (a : α) (l : List α) :
    List.replicate (l.takeWhile (· == a)).length a = l.takeWhile (· == a) := by
  refine (List.eq_replicate_iff.2 ⟨rfl, fun x hx => ?_⟩).symm
  simpa using List.mem_takeWhile_imp hx

namespace Radix

variable {base n : ℕ}

lemma value_eq (base : ℕ) (ds : List ℕ) : value base ds = Nat.ofDigits base ds.reverse := by
  rw [Nat.ofDigits_eq_foldr, List.foldr_reverse]
  exact congrArg (fun f => ds.foldl f 0) (funext₂ fun n d => add_comm _ _)

lemma digitsOnto_eq (hb : 2 ≤ base) {fuel : ℕ} (hf : n < 2 ^ fuel) (tail : List ℕ) :
    digitsOnto base fuel n tail = (Nat.digits base n).reverse ++ tail := by
  induction fuel generalizing n tail with
  | zero =>
    obtain rfl : n = 0 := by simpa using hf
    simp [digitsOnto]
  | succ fuel ih =>
    by_cases hn : n = 0
    · simp [digitsOnto, hn]
    have hd : n / base < 2 ^ fuel := by
      refine Nat.div_lt_of_lt_mul (hf.trans_le ?_)
      rw [pow_succ']
      exact Nat.mul_le_mul_right _ hb
    rw [digitsOnto, if_neg hn, ih hd, Nat.digits_def' hb (Nat.pos_of_ne_zero hn)]
    simp

lemma digits_eq (hb : 2 ≤ base) (n : ℕ) : digits base n = (Nat.digits base n).reverse := by
  rw [digits, digitsOnto_eq hb Nat.lt_log2_self, List.append_nil]

lemma value_append (ds : List ℕ) (d : ℕ) : value base (ds ++ [d]) = base * value base ds + d := by
  simp [value]

lemma value_replicate_append (k : ℕ) (ds : List ℕ) :
    value base (List.replicate k 0 ++ ds) = value base ds := by
  induction k with
  | zero => rfl
  | succ k ih => exact ih

lemma value_digits (hb : 2 ≤ base) (n : ℕ) : value base (digits base n) = n := by
  rw [value_eq, digits_eq hb, List.reverse_reverse, Nat.ofDigits_digits]

lemma mem_digits_lt (hb : 2 ≤ base) : ∀ d ∈ digits base n, d < base := by
  intro d hd
  rw [digits_eq hb, List.mem_reverse] at hd
  exact Nat.digits_lt_base hb hd

lemma digits_value (hb : 2 ≤ base) {ds : List ℕ} (hds : ∀ d ∈ ds, d < base) :
    digits base (value base ds) = ds.dropWhile (· == 0) := by
  induction ds with
  | nil => rfl
  | cons d ds ih =>
    by_cases h₀ : d = 0
    · subst h₀
      exact ih (List.forall_mem_cons.1 hds).2
    · have hlt : ∀ d' ∈ (d :: ds).reverse, d' < base := fun d' h => hds d' (List.mem_reverse.1 h)
      have hlast : ∀ h, (d :: ds).reverse.getLast h ≠ 0 := by simpa using h₀
      rw [digits_eq hb, value_eq, Nat.digits_ofDigits base hb _ hlt hlast]
      simp [h₀]

lemma dropWhile_digits (hb : 2 ≤ base) (n : ℕ) :
    (digits base n).dropWhile (· == 0) = digits base n := by
  rw [← digits_value hb (mem_digits_lt hb), value_digits hb]

end Radix

namespace Bytes

variable {a b : Bytes} {x : UInt8} {n : ℕ}

lemma map_ofNat_toNat (b : Bytes) : (b.map UInt8.toNat).map UInt8.ofNat = b := by
  simp [Function.comp_def]

lemma map_toNat_ofNat {ds : List ℕ} (hds : ∀ d ∈ ds, d < 256) :
    (ds.map UInt8.ofNat).map UInt8.toNat = ds := by
  rw [List.map_map]
  exact (List.map_congr_left fun d hd => UInt8.toNat_ofNat_of_lt' (hds d hd)).trans (List.map_id _)

lemma mem_map_toNat_lt (b : Bytes) : ∀ d ∈ b.map UInt8.toNat, d < 256 := by
  intro d hd
  obtain ⟨x, -, rfl⟩ := List.mem_map.1 hd
  exact x.toNat_lt

lemma bigEndian_succ (width n : ℕ) :
    bigEndian (width + 1) n = bigEndian width (n / 256) ++ [UInt8.ofNat n] := by
  simp [bigEndian, littleEndian]

lemma toNat_append (b : Bytes) (x : UInt8) : toNat (b ++ [x]) = 256 * toNat b + x.toNat := by
  rw [toNat, List.map_append]
  exact Radix.value_append _ _

lemma toNat_bigEndian {width n : ℕ} (h : n < 256 ^ width) : toNat (bigEndian width n) = n := by
  induction width generalizing n with
  | zero =>
    obtain rfl : n = 0 := by simpa using h
    rfl
  | succ width ih =>
    have hd : n / 256 < 256 ^ width := Nat.div_lt_of_lt_mul (by rwa [← pow_succ'])
    rw [bigEndian_succ, toNat_append, ih hd, UInt8.toNat_ofNat']
    exact Nat.div_add_mod n 256

lemma bigEndian_toNat (b : Bytes) : bigEndian b.length (toNat b) = b := by
  induction b using List.reverseRecOn with
  | nil => rfl
  | append_singleton b x ih =>
    have hlt := x.toNat_lt
    have hd : (256 * toNat b + x.toNat) / 256 = toNat b := by omega
    have hx : UInt8.ofNat (256 * toNat b + x.toNat) = x := by
      rw [← UInt8.toNat_inj, UInt8.toNat_ofNat']
      omega
    rw [List.length_append, List.length_singleton, bigEndian_succ, toNat_append, hd, hx, ih]

lemma toNat_minimal (n : ℕ) : toNat (minimal n) = n := by
  rw [toNat, minimal, map_toNat_ofNat (Radix.mem_digits_lt (by decide))]
  exact Radix.value_digits (by decide) n

lemma minimal_toNat (b : Bytes) : minimal (toNat b) = b.dropWhile (· == 0) := by
  rw [minimal, toNat, Radix.digits_value (by decide) (mem_map_toNat_lt b), List.dropWhile_map,
    map_ofNat_toNat]
  congr 1
  funext x
  simp [← UInt8.toNat_inj]

lemma minimal_eq_nil : minimal n = [] ↔ n = 0 := by
  constructor
  · intro h
    rw [← toNat_minimal n, h]
    rfl
  · rintro rfl
    rfl

lemma head_minimal {rest : Bytes} (h : minimal n = x :: rest) : x ≠ 0 := by
  rintro rfl
  have hd := minimal_toNat (minimal n)
  rw [toNat_minimal, h, List.dropWhile_cons_of_pos rfl] at hd
  have := (List.dropWhile_sublist (· == 0) (l := rest)).length_le
  rw [← hd, List.length_cons] at this
  omega

lemma toNat_replicate_append (k : ℕ) (b : Bytes) : toNat (List.replicate k 0 ++ b) = toNat b := by
  rw [toNat, List.map_append, List.map_replicate]
  exact Radix.value_replicate_append k _

lemma exists_zeros (b : Bytes) : ∃ k, b = List.replicate k 0 ++ minimal (toNat b) :=
  ⟨_, by rw [minimal_toNat, replicate_takeWhile, List.takeWhile_append_dropWhile]⟩

lemma minimal_injective : Function.Injective minimal :=
  Function.LeftInverse.injective toNat_minimal

lemma toNat_singleton (x : UInt8) : toNat [x] = x.toNat := by
  simp [toNat, Radix.value]

lemma toNat_cons (x : UInt8) (b : Bytes) : toNat (x :: b) = x.toNat * 256 ^ b.length + toNat b := by
  simp only [toNat, List.map_cons, Radix.value_eq, List.reverse_cons, Nat.ofDigits_append,
    Nat.ofDigits_singleton, List.length_reverse, List.length_map]
  ring

lemma toNat_lt (b : Bytes) : toNat b < 256 ^ b.length := by
  have h := Nat.ofDigits_lt_base_pow_length (b := 256) (l := (b.map UInt8.toNat).reverse) (by decide)
    fun d hd => mem_map_toNat_lt b d (List.mem_reverse.1 hd)
  rwa [← Radix.value_eq, List.length_reverse, List.length_map] at h

lemma eq_of_toNat_eq (hl : a.length = b.length) (h : toNat a = toNat b) : a = b :=
  calc a = bigEndian a.length (toNat a) := (bigEndian_toNat a).symm
    _ = bigEndian b.length (toNat b) := by rw [hl, h]
    _ = b := bigEndian_toNat b

lemma lt_iff (h : a.length = b.length) : lt a b ↔ toNat a < toNat b := by
  induction a generalizing b with
  | nil =>
    cases b with
    | nil => simp [lt]
    | cons y b => cases h
  | cons x a ih =>
    cases b with
    | nil => cases h
    | cons y b =>
      have hl : a.length = b.length := Nat.succ.inj h
      have ha := toNat_lt a
      have hb := toNat_lt b
      rw [hl] at ha
      simp only [lt, toNat_cons, hl, Bool.or_eq_true, Bool.and_eq_true, decide_eq_true_eq,
        beq_iff_eq, ih hl, UInt8.lt_iff_toNat_lt, ← UInt8.toNat_inj]
      constructor
      · rintro (hlt | ⟨heq, hlt⟩)
        · nlinarith
        · rw [heq]
          omega
      · intro hlt
        rcases Nat.lt_trichotomy x.toNat y.toNat with hxy | hxy | hxy
        · exact .inl hxy
        · rw [hxy] at hlt
          exact .inr ⟨hxy, by omega⟩
        · nlinarith

lemma bigEndian_inj {width m n : ℕ} (hm : m < 256 ^ width) (hn : n < 256 ^ width)
    (h : bigEndian width m = bigEndian width n) : m = n := by
  rw [← toNat_bigEndian hm, ← toNat_bigEndian hn, h]

lemma littleEndian_inj {width m n : ℕ} (hm : m < 256 ^ width) (hn : n < 256 ^ width)
    (h : littleEndian width m = littleEndian width n) : m = n :=
  bigEndian_inj hm hn (congrArg List.reverse h)

end Bytes

end LedgerClient
