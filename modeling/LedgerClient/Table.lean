namespace LedgerClient

structure Table (κ ν : Type) where
  entries : List (κ × ν)
  nodup : (entries.map Prod.fst).Nodup

namespace Table

variable {κ ν : Type} [DecidableEq κ]

def empty : Table κ ν := ⟨[], .nil⟩

def get? (t : Table κ ν) (k : κ) : Option ν := t.entries.lookup k

def size (t : Table κ ν) : Nat := t.entries.length

def keys (t : Table κ ν) : List κ := t.entries.map Prod.fst

def without (k : κ) (entries : List (κ × ν)) : List (κ × ν) := entries.filter (·.1 ≠ k)

theorem not_mem_without (k : κ) (entries : List (κ × ν)) :
    k ∉ (without k entries).map Prod.fst := by
  simp [without]

theorem nodup_without (k : κ) {entries : List (κ × ν)} (h : (entries.map Prod.fst).Nodup) :
    ((without k entries).map Prod.fst).Nodup :=
  h.sublist (List.filter_sublist.map _)

def erase (t : Table κ ν) (k : κ) : Table κ ν := ⟨without k t.entries, nodup_without k t.nodup⟩

def set (t : Table κ ν) (k : κ) (v : ν) : Table κ ν where
  entries := (k, v) :: without k t.entries
  nodup := List.nodup_cons.2 ⟨not_mem_without k _, nodup_without k t.nodup⟩

theorem lookup_without_self (k : κ) (entries : List (κ × ν)) :
    (without k entries).lookup k = none := by
  induction entries with
  | nil => rfl
  | cons e es ih =>
    by_cases h : e.1 = k
    · simpa [without, h] using ih
    · simp only [without, List.filter_cons, h, ne_eq, not_false_eq_true, decide_true, if_true]
      rw [List.lookup_cons, beq_false_of_ne (Ne.symm h)]
      exact ih

theorem lookup_without_of_ne {k l : κ} (h : l ≠ k) (entries : List (κ × ν)) :
    (without k entries).lookup l = entries.lookup l := by
  induction entries with
  | nil => rfl
  | cons e es ih =>
    by_cases he : e.1 = k
    · simp only [without, List.filter_cons, he, ne_eq, not_true_eq_false, decide_false]
      rw [List.lookup_cons, he, beq_false_of_ne h]
      exact ih
    · simp only [without, List.filter_cons, he, ne_eq, not_false_eq_true, decide_true, if_true]
      rw [List.lookup_cons, List.lookup_cons]
      split
      · rfl
      · exact ih

@[simp] theorem get?_set_self (t : Table κ ν) (k : κ) (v : ν) : (t.set k v).get? k = some v := by
  simp [get?, set]

theorem get?_set_of_ne (t : Table κ ν) {k l : κ} (v : ν) (h : l ≠ k) :
    (t.set k v).get? l = t.get? l := by
  simp [get?, set, List.lookup_cons, beq_false_of_ne h, lookup_without_of_ne h]

@[simp] theorem get?_erase_self (t : Table κ ν) (k : κ) : (t.erase k).get? k = none :=
  lookup_without_self k t.entries

theorem get?_erase_of_ne (t : Table κ ν) {k l : κ} (h : l ≠ k) : (t.erase k).get? l = t.get? l :=
  lookup_without_of_ne h t.entries

end Table

end LedgerClient
