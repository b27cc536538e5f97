import LedgerClient.Client.State
import Mathlib

namespace LedgerClient.NonceBook

variable (b : NonceBook) {a c : Address} {k : SlotRef} {f : Slot → Slot}

lemma shelf_modify_self (g : Shelf → Shelf) : (b.modify a g).shelf a = g (b.shelf a) := by
  simp [shelf, modify]

lemma shelf_modify_of_ne (g : Shelf → Shelf) (h : c ≠ a) :
    (b.modify a g).shelf c = b.shelf c := by
  simp [shelf, modify, Table.get?_set_of_ne _ _ h]

variable {b} in
lemma get?_eq_of_shelf {b' : NonceBook} (h : b'.shelf a = b.shelf a) : b'.get? a = b.get? a :=
  congrArg Shelf.present h

variable {b} in
lemma slot_of_get? {slot : Slot} (h : b.get? a = some slot) : b.slot a = slot := by
  rw [NonceBook.slot, h]
  rfl

lemma shelf_touch_of_ne (h : c ≠ a) : (b.touch a).shelf c = b.shelf c :=
  b.shelf_modify_of_ne _ h

lemma shelf_update_of_ne (h : c ≠ k.account) : (b.update k f).shelf c = b.shelf c :=
  b.shelf_modify_of_ne _ h

lemma shelf_erase_of_ne (h : c ≠ a) : (b.erase a).shelf c = b.shelf c :=
  b.shelf_modify_of_ne _ h

lemma get?_touch : (b.touch a).get? a = some (b.slot a) :=
  congrArg Shelf.present (b.shelf_modify_self _)

lemma ref_touch : (b.touch a).ref c = b.ref c := by
  by_cases hc : c = a
  · subst hc
    rw [ref, touch, shelf_modify_self]
    rfl
  · rw [ref, b.shelf_touch_of_ne hc, ref]

lemma slot_touch : (b.touch a).slot c = b.slot c := by
  by_cases hc : c = a
  · subst hc
    exact slot_of_get? b.get?_touch
  · rw [slot, get?_eq_of_shelf (b.shelf_touch_of_ne hc), slot]

lemma find?_ref : b.find? (b.ref a) = b.get? a := if_pos rfl

lemma ref_update : (b.update k f).ref c = b.ref c := by
  by_cases hc : c = k.account
  · subst hc
    rw [ref, update, shelf_modify_self, Shelf.update]
    split <;> simp [ref]
  · rw [ref, b.shelf_update_of_ne hc, ref]

lemma find?_update : (b.update k f).find? k = (b.find? k).map f := by
  rw [find?, update, shelf_modify_self, find?, Shelf.update, Shelf.find?]
  split <;> simp [Shelf.find?, *]

lemma find?_update_of_ne {q : SlotRef} (h : q ≠ k) : (b.update k f).find? q = b.find? q := by
  by_cases ha : q.account = k.account
  · have hi : q.index ≠ k.index := fun hi => h (by cases q; cases k; simp_all)
    rw [find?, find?, ha, update, shelf_modify_self, Shelf.update, Shelf.find?, Shelf.find?]
    by_cases hk : k.index = (b.shelf k.account).past.length
    · simp [hk, hk ▸ hi]
    · simp [hk, Ne.symm hi]
  · rw [find?, b.shelf_update_of_ne ha, find?]

variable {b} in
lemma find_update (h : (b.find? k).isSome) : (b.update k f).find k = f (b.find k) := by
  obtain ⟨slot, hs⟩ := Option.isSome_iff_exists.1 h
  rw [find, find?_update, find, hs]
  rfl

lemma slot_erase_self : (b.erase a).slot a = {} := by
  rw [slot, get?, erase, shelf_modify_self]
  rfl

lemma slot_erase_of_ne (h : c ≠ a) : (b.erase a).slot c = b.slot c := by
  rw [slot, get?_eq_of_shelf (b.shelf_erase_of_ne h), slot]

def Current (b : NonceBook) (k : SlotRef) : Prop := b.ref k.account = k

variable {b}

lemma current_ref : b.Current (b.ref a) := rfl

lemma Current.of_shelf {b' : NonceBook} (h : b.Current k)
    (hs : b'.shelf k.account = b.shelf k.account) : b'.Current k := by
  rw [Current, ref, hs]
  exact h

lemma Current.touch (h : b.Current k) : (b.touch a).Current k := b.ref_touch.trans h

lemma Current.update {l : SlotRef} (h : b.Current k) : (b.update l f).Current k :=
  b.ref_update.trans h

namespace Current

variable (h : b.Current k)
include h

lemma find?_eq : b.find? k = b.get? k.account := by
  rw [← find?_ref, h]

lemma find_eq : b.find k = b.slot k.account := by
  rw [find, h.find?_eq, slot]

lemma get?_update : (b.update k f).get? k.account = (b.get? k.account).map f := by
  rw [← h.update.find?_eq, find?_update, h.find?_eq]

lemma get?_update_some {slot : Slot} (hs : b.get? k.account = some slot) :
    (b.update k f).get? k.account = some (f slot) := by
  rw [h.get?_update, hs]
  rfl

end Current

def Has (b : NonceBook) (k : SlotRef) : Prop := b.Current k ∧ (b.get? k.account).isSome

lemma has_touched : (b.touch a).Has (b.ref a) :=
  ⟨current_ref.touch, Option.isSome_of_eq_some b.get?_touch⟩

namespace Has

variable (h : b.Has k)
include h

lemma update : (b.update k f).Has k := by
  refine ⟨h.1.update, ?_⟩
  rw [h.1.get?_update, Option.isSome_map]
  exact h.2

lemma slot_update : (b.update k f).slot k.account = f (b.slot k.account) := by
  rw [← h.1.update.find_eq, find_update (by rw [h.1.find?_eq]; exact h.2), h.1.find_eq]

end Has

end LedgerClient.NonceBook
