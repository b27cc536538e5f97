import Mathlib

namespace LedgerClient

lemma idxOf?_eq_some_iff_getD {l : List Char} (hl : l.Nodup) {c e : Char} {d : ℕ} :
    l.idxOf? c = some d ↔ d < l.length ∧ c = l.getD d e := by
  rw [List.idxOf?_eq_some_iff]
  constructor
  · rintro ⟨hd, rfl, -⟩
    exact ⟨hd, (List.getD_eq_getElem _ _ hd).symm⟩
  · rintro ⟨hd, rfl⟩
    rw [List.getD_eq_getElem _ _ hd]
    refine ⟨hd, rfl, fun i hi he => ?_⟩
    have := hl.getElem_inj_iff.1 he
    omega

end LedgerClient
