import LedgerClient.Json.Reader
import LedgerClient.Json.Writer
import LedgerClient.Proofs.Json.Reading

namespace LedgerClient.Json

namespace Number

variable {n : ℕ} {rest : List Char}

lemma isDigit_of_mem_repr {c : Char} (h : c ∈ n.repr.toList) : c.isDigit := by
  rw [Nat.toList_repr] at h
  exact Nat.isDigit_of_mem_toDigits (by decide) le_rfl h

lemma repr_ne_nil (n : ℕ) : n.repr.toList ≠ [] := by
  rw [Nat.toList_repr]
  exact Nat.toDigits_ne_nil

lemma head?_repr (hn : 0 < n) : n.repr.toList.head? ≠ some '0' := by
  simp only [Nat.toList_repr]
  induction n using Nat.strongRecOn with
  | ind n ih =>
    rw [Nat.toDigits_eq_if (by decide)]
    split
    · simpa using hn.ne'
    · rw [List.head?_append_of_ne_nil _ Nat.toDigits_ne_nil]
      exact ih (n / 10) (by omega) (by omega)

lemma not_isDigit_of_ends (h : Ends rest) {c : Char} (hc : c ∈ rest.head?) : c.isDigit = false := by
  have hcontinues := h c hc
  simp only [continuesNumber, Bool.or_eq_false_iff] at hcontinues
  exact hcontinues.1.1.1

lemma takeWhile_repr (n : ℕ) (h : Ends rest) :
    (n.repr.toList ++ rest).takeWhile Char.isDigit = n.repr.toList := by
  rw [List.takeWhile_append_of_pos fun c hc => isDigit_of_mem_repr hc]
  cases rest with
  | nil => rw [List.takeWhile_nil, List.append_nil]
  | cons c rest =>
    rw [List.takeWhile_cons_of_neg (by simp [not_isDigit_of_ends h rfl]), List.append_nil]

lemma dropWhile_repr (n : ℕ) (h : Ends rest) :
    (n.repr.toList ++ rest).dropWhile Char.isDigit = rest := by
  have hsplit := List.takeWhile_append_dropWhile (p := Char.isDigit) (l := n.repr.toList ++ rest)
  rw [takeWhile_repr n h] at hsplit
  exact List.append_cancel_left hsplit

lemma integerPart_repr (n : ℕ) : Reads integerPart n.repr.toList n.repr.toList := by
  intro rest h
  rcases n.eq_zero_or_pos with rfl | hn
  · cases rest with
    | nil => rfl
    | cons c rest =>
      change (if c.isDigit then _ else _) = _
      rw [not_isDigit_of_ends h rfl]
      rfl
  · obtain ⟨c, cs, hcs⟩ := List.exists_cons_of_ne_nil (repr_ne_nil n)
    have hzero : c ≠ '0' := fun hc => head?_repr hn (by rw [hcs, hc]; rfl)
    have hdigit : c.isDigit := isDigit_of_mem_repr (n := n) (by simp [hcs])
    have htake := takeWhile_repr n h
    have hdrop := dropWhile_repr n h
    rw [hcs, List.cons_append] at htake hdrop ⊢
    unfold integerPart
    split
    · contradiction
    · rename_i heq
      exact absurd (List.cons.inj heq).1 hzero
    · rename_i heq
      obtain ⟨rfl, rfl⟩ := List.cons.inj heq
      rw [if_pos hdigit, htake, hdrop]

lemma value_repr (n : ℕ) : Radix.value 10 (n.repr.toList.map digitValue) = n := by
  have hvalue := Nat.ofDigitChars_ten_toDigits (n := n)
  rw [Nat.ofDigitChars_eq_foldl] at hvalue
  rw [Nat.toList_repr, Radix.value, List.foldl_map]
  exact hvalue

lemma le_foldl (ds : List ℕ) (m : ℕ) : m ≤ ds.foldl (fun n d => 10 * n + d) m := by
  induction ds generalizing m with
  | nil => exact le_rfl
  | cons d ds ih =>
    have := ih (10 * m + d)
    rw [List.foldl_cons]
    omega

lemma accumulate_eq {cs : List Char} {m : ℕ}
    (h : (cs.map digitValue).foldl (fun n d => 10 * n + d) m < UInt64.size) :
    accumulate m cs = ((cs.map digitValue).foldl (fun n d => 10 * n + d) m, 0) := by
  induction cs generalizing m with
  | nil => rfl
  | cons c cs ih =>
    rw [List.map_cons, List.foldl_cons] at h
    have hm := (le_foldl _ _).trans_lt h
    rw [accumulate, if_pos hm, ih h]
    rfl

lemma accumulate_repr (h : n < UInt64.size) : accumulate 0 n.repr.toList = (n, 0) := by
  have hvalue := value_repr n
  rw [Radix.value] at hvalue
  rw [accumulate_eq (by rwa [hvalue]), hvalue]

lemma afterWhole_ends (n : ℕ) (h : Ends rest) :
    afterWhole false n 0 rest = .ok (.natural n, rest) := by
  unfold afterWhole
  split
  · exact absurd (h _ rfl) (by decide)
  · exact absurd (h _ rfl) (by decide)
  · exact absurd (h _ rfl) (by decide)
  · rfl

lemma reads_repr (h : n < UInt64.size) : Reads (read false) n.repr.toList (.natural n) := by
  intro rest hr
  rw [read, bind_ok (integerPart_repr n rest hr), accumulate_repr h]
  exact afterWhole_ends n hr

lemma readWide_repr (n : ℕ) : Reads readWide n.repr.toList n := by
  intro rest hr
  rw [readWide, integerPart_repr n rest hr]
  exact congrArg (fun n => Except.ok (n, rest)) (value_repr n)

end Number

end LedgerClient.Json
