import LedgerClient.Cipher.Aes
import Mathlib

namespace LedgerClient.Aes

variable {a b block : Bytes} {w : Array Bytes} {keys : List Bytes} {n : ℕ}

@[simp] lemma length_xor (a b : Bytes) : (xor a b).length = min a.length b.length :=
  List.length_zipWith

lemma xor_xor (h : a.length ≤ b.length) : xor (xor a b) b = a := by
  induction a generalizing b with
  | nil => rfl
  | cons x a ih =>
    cases b with
    | nil => simp at h
    | cons y b =>
      have hrest : xor (xor a b) b = a := ih (by simpa using h)
      have hhead : (x ^^^ y) ^^^ y = x := by simp
      simp only [xor, List.zipWith_cons_cons] at hrest ⊢
      rw [hrest, hhead]

@[simp] lemma length_substitute (b : Bytes) : (substitute b).length = b.length := List.length_map _

@[simp] lemma length_shiftRows (b : Bytes) : (shiftRows b).length = 16 := List.length_map _

lemma length_flatten {l : List Bytes} (h : ∀ b ∈ l, b.length = n) :
    l.flatten.length = l.length * n := by
  induction l with
  | nil => simp
  | cons b l ih =>
    obtain ⟨hb, hl⟩ := List.forall_mem_cons.1 h
    rw [List.flatten_cons, List.length_append, hb, ih hl, List.length_cons, Nat.succ_mul, add_comm]

structure Expands (w : Array Bytes) (n : ℕ) : Prop where
  size : w.size = n + 8
  length : ∀ b ∈ w, b.length = 4

lemma Expands.length_getD (h : Expands w n) {i : ℕ} (hi : i < w.size) : (w.getD i []).length = 4 := by
  rw [Array.getD_eq_getD_getElem?, Array.getElem?_eq_getElem hi]
  exact h.length _ (Array.getElem_mem hi)

lemma Expands.nextWord (h : Expands w n) : (nextWord w).length = 4 := by
  have hsize := h.size
  have hlast := h.length_getD (show w.size - 1 < w.size by omega)
  have hback := h.length_getD (show w.size - 8 < w.size by omega)
  simp only [Aes.nextWord, length_xor, hback]
  generalize w.getD (w.size - 1) [] = last at hlast ⊢
  split
  · simp [hlast]
  · split <;> simp [hlast]

lemma Expands.push (h : Expands w n) : Expands (w.push (Aes.nextWord w)) (n + 1) where
  size := by rw [Array.size_push, h.size]
  length b hb := by
    rcases Array.mem_push.1 hb with hb | rfl
    · exact h.length b hb
    · exact h.nextWord

lemma Expands.foldl (h : Expands w 0) (n : ℕ) :
    Expands ((List.range n).foldl (fun w _ => w.push (Aes.nextWord w)) w) n := by
  induction n with
  | zero => exact h
  | succ n ih =>
    rw [List.range_succ, List.foldl_append]
    exact ih.push

lemma length_schedule (key : Digest) : (schedule key).length = 15 :=
  (List.length_map _).trans List.length_range

lemma length_of_mem_schedule (key : Digest) : ∀ k ∈ schedule key, k.length = 16 := by
  have hstart : Expands (Array.ofFn fun i : Fin 8 => (key.val.drop (4 * i)).take 4) 0 := by
    refine ⟨Array.size_ofFn, fun b hb => ?_⟩
    obtain ⟨i, rfl⟩ := Array.mem_ofFn.1 hb
    have hi := i.isLt
    rw [List.length_take, List.length_drop, key.property]
    omega
  have hwords := hstart.foldl 52
  intro k hk
  obtain ⟨r, hr, rfl⟩ := List.mem_map.1 hk
  have hr := List.mem_range.1 hr
  rw [length_flatten (n := 4), List.length_take, List.length_drop, Array.length_toList, hwords.size]
  · omega
  · intro b hb
    exact hwords.length b (Array.mem_toList_iff.1 (List.mem_of_mem_drop (List.mem_of_mem_take hb)))

lemma length_encrypt (hkeys : 1 < keys.length) (h : ∀ k ∈ keys, k.length = 16) :
    (encrypt keys block).length = 16 := by
  cases keys with
  | nil => simp at hkeys
  | cons first rest =>
    have hne : rest ≠ [] := List.ne_nil_of_length_pos (by simpa using hkeys)
    have hlast : (rest.getLastD []).length = 16 := by
      rw [List.getLastD_eq_getLast?, List.getLast?_eq_some_getLast hne]
      exact h _ (List.mem_cons_of_mem _ (List.getLast_mem hne))
    simp only [encrypt, length_xor, length_shiftRows, hlast, min_self]

lemma length_encrypt_schedule (key : Digest) (block : Bytes) :
    (encrypt (schedule key) block).length = 16 :=
  length_encrypt (by rw [length_schedule]; decide) (length_of_mem_schedule key)

end LedgerClient.Aes
