import Mathlib

namespace LedgerClient

variable {ε δ α β : Type} {x : Except ε α} {a : α} {b : β}

lemma exceptBind_ok {f : α → Except ε β} : (.ok a : Except ε α) >>= f = f a := rfl

lemma exceptBind_eq_ok {f : α → Except ε β} :
    x >>= f = .ok b ↔ ∃ a, x = .ok a ∧ f a = .ok b := by
  cases x <;> simp [bind, Except.bind]

lemma map_eq_ok {f : α → β} : x.map f = .ok b ↔ ∃ a, x = .ok a ∧ b = f a := by
  cases x <;> simp [Except.map, eq_comm]

lemma mapError_eq_ok {f : ε → δ} : x.mapError f = .ok a ↔ x = .ok a := by
  cases x <;> simp [Except.mapError]

variable {p : Prop} [Decidable p] {e : ε}

lemma ite_error_eq_ok : (if p then .error e else x) = .ok a ↔ ¬ p ∧ x = .ok a := by
  split <;> simp [*]

lemma ite_else_error_eq_ok : (if p then x else .error e) = .ok a ↔ p ∧ x = .ok a := by
  split <;> simp [*]

lemma dite_else_error_eq_ok {f : p → Except ε α} :
    (if h : p then f h else .error e) = .ok a ↔ ∃ h, f h = .ok a := by
  split <;> simp [*]

end LedgerClient
