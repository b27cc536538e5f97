import LedgerClient.Proofs.Json.Record

/-! Objects whose members may stand in any order: when a record is read from them, and as what. -/

namespace LedgerClient.Json

variable {σ α ι : Type}

def Proper (entry : ι → Entry) (Sound : ι → Prop) (items : List ι) : Prop :=
  (∀ i ∈ items, Sound i) ∧ (items.map fun i => (entry i).1).Nodup

lemma Proper.perm {entry : ι → Entry} {Sound : ι → Prop} {items items' : List ι}
    (h : Proper entry Sound items) (hperm : items.Perm items') : Proper entry Sound items' :=
  ⟨fun i hi => h.1 i (hperm.mem_iff.2 hi), (hperm.map _).nodup_iff.1 h.2⟩

namespace Record

inductive Knows (r : Record σ α) (m : Entry) (sound : Prop) (put : σ → σ) : Prop
  | unknown (missing : r.fields.find? (·.name == m.1) = none) (unsound : ¬ sound)
  | known {field : Field σ} (found : r.fields.find? (·.name == m.1) = some field)
    (takes : sound → ∀ s, Takes (field.read s) m.2 (put s))
    (refuses : ¬ sound → ∀ s, Refuses (field.read s) m.2)

lemma Knows.of_unknown {r : Record σ α} {m : Entry} (h : m.1 ∉ r.names) (put : σ → σ) :
    r.Knows m False put := by
  refine .unknown (List.find?_eq_none.2 fun field hmem hname => h ?_) id
  exact List.mem_map.2 ⟨field, hmem, eq_of_beq hname⟩

structure Glossary (r : Record σ α) (ι : Type) where
  entry : ι → Entry
  Sound : ι → Prop
  put : σ → ι → σ
  set : α → ι → α
  standard : α
  knows (i : ι) : r.Knows (entry i) (Sound i) (put · i)
  met_start : ∀ field ∈ r.fields, field.met r.start = false
  met_put (s : σ) {i : ι} (sound : Sound i) : ∀ field ∈ r.fields,
    field.met (put s i) = (field.met s || field.name == (entry i).1)
  finish_start : r.finish r.start = .ok standard
  finish_put (i : ι) {s : σ} {a : α} (h : r.finish s = .ok a) :
    r.finish (put s i) = .ok (set a i)
  set_comm (a : α) {i j : ι} (h : (entry i).1 ≠ (entry j).1) : set (set a i) j = set (set a j) i

namespace Glossary

variable {r : Record σ α} (g : Glossary r ι) {s : σ} {i : ι} {items : List ι}

def Unmet (r : Record σ α) (s : σ) (name : String) : Prop :=
  ∀ field, r.fields.find? (·.name == name) = some field → field.met s = false

lemma mem_of_found {name : String} {field : Field σ}
    (h : r.fields.find? (·.name == name) = some field) : field ∈ r.fields ∧ field.name = name :=
  ⟨List.mem_of_find?_eq_some h, by simpa using List.find?_some h⟩

variable {g} {field : Field σ} (hsound : g.Sound i)
  (hfound : r.fields.find? (·.name == (g.entry i).1) = some field)
include hsound hfound

lemma unmet_put (name : String) :
    Unmet r (g.put s i) name ↔ (g.entry i).1 ≠ name ∧ Unmet r s name := by
  constructor
  · refine fun h => ⟨?_, fun f hf => ?_⟩
    · rintro rfl
      obtain ⟨hmem, hname⟩ := mem_of_found hfound
      have hmet := h field hfound
      rw [g.met_put s hsound _ hmem, hname, beq_self_eq_true, Bool.or_true] at hmet
      exact Bool.noConfusion hmet
    · have hmet := h f hf
      rw [g.met_put s hsound _ (mem_of_found hf).1, Bool.or_eq_false_iff] at hmet
      exact hmet.1
  · rintro ⟨hne, h⟩ f hf
    obtain ⟨hmem, rfl⟩ := mem_of_found hf
    rw [g.met_put s hsound _ hmem, h f hf, beq_false_of_ne hne.symm]
    rfl

def Fresh (g : Glossary r ι) (s : σ) (items : List ι) : Prop :=
  Proper g.entry g.Sound items ∧ ∀ i ∈ items, Unmet r s (g.entry i).1

-- From left to right this reads proper members one by one, from right to left it finds the first
-- of them that is not.
lemma fresh_cons :
    g.Fresh s (i :: items) ↔ field.met s = false ∧ g.Fresh (g.put s i) items := by
  have hmet : Unmet r s (g.entry i).1 ↔ field.met s = false :=
    ⟨fun h => h field hfound, fun h f hf => Option.some.inj (hfound.symm.trans hf) ▸ h⟩
  simp only [Fresh, Proper, List.forall_mem_cons, List.map_cons, List.nodup_cons, List.mem_map,
    unmet_put hsound hfound, hsound, hmet, true_and]
  grind

omit hsound hfound

lemma fills (h : g.Fresh s items) : r.Fills s (items.map g.entry) (items.foldl g.put s) := by
  induction items generalizing s with
  | nil => exact .done s
  | cons i items ih =>
    have hsound : g.Sound i := h.1.1 i List.mem_cons_self
    cases g.knows i with
    | unknown _ unsound => exact absurd hsound unsound
    | known found takes _ =>
      obtain ⟨hmet, hfresh⟩ := (fresh_cons hsound found).1 h
      exact .member found hmet (takes hsound s) (ih hfresh)

lemma breaks (h : ¬ g.Fresh s items) : r.Breaks s (items.map g.entry) := by
  induction items generalizing s with
  | nil => exact absurd ⟨⟨List.forall_mem_nil _, List.nodup_nil⟩, List.forall_mem_nil _⟩ h
  | cons i items ih =>
    cases g.knows i with
    | unknown missing _ => exact .here (.unknown missing)
    | @known field found takes refuses =>
      cases hmet : field.met s with
      | true => exact .here (.repeated found hmet)
      | false =>
        by_cases hsound : g.Sound i
        · have hrest : ¬ g.Fresh (g.put s i) items := fun hfresh =>
            h ((fresh_cons hsound found).2 ⟨hmet, hfresh⟩)
          exact .later found hmet (takes hsound s) (ih hrest)
        · exact .here (.refused found hmet (refuses hsound s))

lemma finish_foldl {a : α} (h : r.finish s = .ok a) (items : List ι) :
    r.finish (items.foldl g.put s) = .ok (items.foldl g.set a) := by
  induction items generalizing s a with
  | nil => exact h
  | cons i items ih => exact ih (g.finish_put i h)

lemma fresh_start : g.Fresh r.start items ↔ Proper g.entry g.Sound items :=
  and_iff_left fun _ _ _ hfound => g.met_start _ (mem_of_found hfound).1

lemma takes (h : Proper g.entry g.Sound items) :
    Takes r.read (ObjectText (items.map g.entry)) (items.foldl g.set g.standard) :=
  takes_object (fills (fresh_start.2 h)) (finish_foldl g.finish_start items)

lemma refuses (hclosed : r.closed = true) (h : ¬ Proper g.entry g.Sound items) :
    Refuses r.read (ObjectText (items.map g.entry)) :=
  refuses_object hclosed (breaks fun hfresh => h (fresh_start.1 hfresh))

lemma foldl_perm {items' : List ι} (h : Proper g.entry g.Sound items) (hperm : items.Perm items')
    (a : α) : items.foldl g.set a = items'.foldl g.set a := by
  refine hperm.foldl_eq' (fun i hi j hj a => ?_) a
  by_cases hij : i = j
  · rw [hij]
  · exact g.set_comm a fun hname => hij (List.inj_on_of_nodup_map h.2 hi hj hname)

end Glossary

end Record

end LedgerClient.Json
