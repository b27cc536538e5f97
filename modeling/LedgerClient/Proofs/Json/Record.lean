import LedgerClient.Proofs.Json.Value

namespace LedgerClient.Json

variable {css : List (List Char)} {cs w w' rest : List Char} {m : Entry}

lemma nextName_end (hw : Blank w) (first : Bool) (rest : List Char) :
    nextName first (w ++ '}' :: rest) = .ok (none, '}' :: rest) := by
  rw [nextName, skipSpace_blank hw (by decide)]
  rfl

lemma nextName_cons (hw : Blank w) (first : Bool) (hcs : EntryText m cs)
    (css : List (List Char)) (rest : List Char) :
    ∃ w' value, Blank w' ∧ Spaced m.2 value ∧
      nextName first (w ++ (parts first (cs :: css) ++ rest)) =
        .ok (some m.1, w' ++ ':' :: (value ++ (parts false css ++ rest))) := by
  obtain ⟨_, value, ⟨w₁, _, w', hw₁, ⟨body, hbody, rfl⟩, hw', rfl⟩, hvalue, rfl⟩ := hcs
  refine ⟨w', value, hw', hvalue, ?_⟩
  have hread := Text.read_literal hbody (w' ++ ':' :: (value ++ (parts false css ++ rest)))
  cases first with
  | true =>
    simp only [parts, List.append_assoc, List.cons_append, List.nil_append]
    rw [nextName, skipSpace_append hw, skipSpace_blank hw₁ (by decide)]
    exact congrArg (Except.map _) hread
  | false =>
    simp only [parts, List.append_assoc, List.cons_append, List.nil_append]
    have hquote : isSpace '"' = false := by decide
    rw [nextName, skipSpace_blank hw (by decide)]
    simp [skipSpace_blank hw₁ hquote, hread, Except.map]

lemma follow_blank (hw : Blank w) {c : Char} (hc : isSpace c = false) :
    follow c (w ++ c :: rest) = .ok ((), rest) := by
  rw [follow, skipSpace_blank hw hc]
  exact Text.expect_self c rest

lemma ends_close (hw : Blank w) (rest : List Char) : Ends (w ++ '}' :: rest) :=
  ends_blank hw (ends_cons (by decide))

lemma takes_unit : Takes unit Value.null.Spells () := by
  rintro w cs hw rfl rest -
  rw [unit, List.append_assoc, skipSpace_append hw]
  rfl

lemma takes_nextText (s : String) : Takes nextText (Quotes s) s := by
  rintro w _ hw ⟨body, hbody, rfl⟩ rest -
  simp only [List.append_assoc, List.cons_append, List.nil_append]
  rw [nextText, skipSpace_blank hw (by decide)]
  exact Text.read_literal hbody rest

lemma takes_choice_object {α : Type} {names : List (String × α)} {s : String} {a : α}
    (h : names.lookup s = some a) :
    Takes (choice names) (ObjectText [(s, Value.null.Spells)]) a := by
  rintro w _ hw ⟨css, w', hcss, hw', rfl⟩ rest -
  obtain ⟨_, _, ⟨name, value, hname, hvalue, rfl⟩, hnil, rfl⟩ := List.forall₂_cons_left_iff.1 hcss
  cases hnil
  have hcolon : Ends (':' :: (value ++ (w' ++ '}' :: rest))) := ends_cons (by decide)
  obtain ⟨w₁, hw₁, hread⟩ := (takes_nextText s).spaced blank_nil hname hcolon
  obtain ⟨w₂, hw₂, hunit⟩ := takes_unit.spaced blank_nil hvalue (ends_close hw' rest)
  have hclose : follow '}' (w₂ ++ w' ++ '}' :: rest) = .ok ((), rest) :=
    follow_blank (List.forall_mem_append.2 ⟨hw₂, hw'⟩) (by decide)
  simp only [parts, List.append_assoc, List.cons_append, List.nil_append, List.append_nil]
    at hread hunit hclose ⊢
  rw [choice, skipSpace_blank hw (by decide)]
  refine (bind_ok hread).trans ?_
  simp only [h]
  refine (bind_ok rfl).trans ?_
  refine (bind_ok (follow_blank hw₁ (by decide))).trans ?_
  exact (bind_ok hunit).trans (bind_ok hclose)

namespace Record

variable {σ α : Type} {r : Record σ α} {s s' : σ} {field : Field σ} {ms : List Entry}

inductive Fills (r : Record σ α) : σ → List Entry → σ → Prop
  | done (s : σ) : Fills r s [] s
  | member {s s' s'' : σ} {m : Entry} {field : Field σ} {ms : List Entry}
    (found : r.fields.find? (·.name == m.1) = some field) (unmet : field.met s = false)
    (takes : Takes (field.read s) m.2 s') (rest : Fills r s' ms s'') : Fills r s (m :: ms) s''

inductive Spoils (r : Record σ α) (s : σ) (m : Entry) : Prop
  | unknown (missing : r.fields.find? (·.name == m.1) = none)
  | repeated {field : Field σ} (found : r.fields.find? (·.name == m.1) = some field)
    (met : field.met s = true)
  | refused {field : Field σ} (found : r.fields.find? (·.name == m.1) = some field)
    (unmet : field.met s = false) (refuses : Refuses (field.read s) m.2)

inductive Breaks (r : Record σ α) : σ → List Entry → Prop
  | here {s : σ} {m : Entry} {ms : List Entry} (spoils : r.Spoils s m) : Breaks r s (m :: ms)
  | later {s s' : σ} {m : Entry} {field : Field σ} {ms : List Entry}
    (found : r.fields.find? (·.name == m.1) = some field) (unmet : field.met s = false)
    (takes : Takes (field.read s) m.2 s') (rest : Breaks r s' ms) : Breaks r s (m :: ms)

section Member

variable {value : List Char} (hw : Blank w) (hvalue : Spaced m.2 value)
include hw hvalue

lemma member_takes (hfound : r.fields.find? (·.name == m.1) = some field)
    (hunmet : field.met s = false) (htakes : Takes (field.read s) m.2 s') (hrest : Ends rest) :
    ∃ w', Blank w' ∧ r.member m.1 s (w ++ ':' :: (value ++ rest)) = .ok (s', w' ++ rest) := by
  obtain ⟨w', hw', hread⟩ := htakes.spaced blank_nil hvalue hrest
  refine ⟨w', hw', ?_⟩
  simp only [member, hfound, hunmet]
  exact (bind_ok (follow_blank hw (by decide))).trans hread

lemma member_spoils (hclosed : r.closed = true) (h : r.Spoils s m) :
    ∃ fault, r.member m.1 s (w ++ ':' :: (value ++ rest)) = .error fault := by
  cases h with
  | unknown missing =>
    simp only [member, missing, hclosed, if_true]
    exact ⟨_, rfl⟩
  | repeated found met =>
    simp only [member, found, met, if_true]
    exact ⟨_, rfl⟩
  | refused found unmet refuses =>
    obtain ⟨w₁, v, w', hw₁, hv, hw', rfl⟩ := hvalue
    obtain ⟨fault, hread⟩ := refuses hw₁ hv (w' ++ rest)
    refine ⟨fault, ?_⟩
    simp only [member, found, unmet, List.append_assoc] at hread ⊢
    exact (bind_ok (follow_blank hw (by decide))).trans hread

end Member

lemma members_cons (hfound : r.fields.find? (·.name == m.1) = some field)
    (hunmet : field.met s = false) (htakes : Takes (field.read s) m.2 s') (hcs : EntryText m cs)
    (hw : Blank w) (first : Bool) (fuel : ℕ) (hrest : Ends rest) :
    ∃ w', Blank w' ∧ r.members (fuel + 1) first s (w ++ (parts first (cs :: css) ++ rest)) =
      r.members fuel false s' (w' ++ (parts false css ++ rest)) := by
  obtain ⟨w₁, value, hw₁, hvalue, hnext⟩ := nextName_cons hw first hcs css rest
  obtain ⟨w₂, hw₂, hmember⟩ :=
    member_takes hw₁ hvalue hfound hunmet htakes (ends_parts css hrest)
  refine ⟨w₂, hw₂, ?_⟩
  rw [members, bind_ok hnext]
  exact bind_ok hmember

lemma members_fills (h : r.Fills s ms s') (hcss : List.Forall₂ EntryText ms css) (hw : Blank w)
    (hw' : Blank w') (first : Bool) {fuel : ℕ} (hf : ms.length < fuel) :
    r.members fuel first s (w ++ (parts first css ++ (w' ++ '}' :: rest))) =
      .ok (s', '}' :: rest) := by
  induction h generalizing css w first fuel with
  | done s =>
    cases hcss
    obtain ⟨fuel, rfl⟩ := Nat.exists_eq_succ_of_ne_zero (Nat.ne_of_gt hf)
    have hend := nextName_end (List.forall_mem_append.2 ⟨hw, hw'⟩) first rest
    rw [List.append_assoc] at hend
    cases first <;> exact bind_ok hend
  | member found unmet takes _ ih =>
    obtain ⟨cs, css, hcs, htail, rfl⟩ := List.forall₂_cons_left_iff.1 hcss
    obtain ⟨fuel, rfl⟩ := Nat.exists_eq_succ_of_ne_zero (Nat.ne_of_gt (Nat.zero_lt_of_lt hf))
    obtain ⟨w₁, hw₁, hstep⟩ :=
      members_cons found unmet takes hcs hw first fuel (ends_close hw' rest)
    exact hstep.trans (ih htail hw₁ false (Nat.lt_of_succ_lt_succ hf))

lemma members_breaks (hclosed : r.closed = true) (h : r.Breaks s ms)
    (hcss : List.Forall₂ EntryText ms css) (hw : Blank w) (hw' : Blank w') (first : Bool)
    (fuel : ℕ) (rest : List Char) :
    ∃ fault, r.members fuel first s (w ++ (parts first css ++ (w' ++ '}' :: rest))) =
      .error fault := by
  induction fuel generalizing s ms css w first with
  | zero => exact ⟨_, rfl⟩
  | succ fuel ih =>
    cases h with
    | here spoils =>
      obtain ⟨cs, css, hcs, -, rfl⟩ := List.forall₂_cons_left_iff.1 hcss
      obtain ⟨w₁, value, hw₁, hvalue, hnext⟩ := nextName_cons hw first hcs css (w' ++ '}' :: rest)
      obtain ⟨fault, hmember⟩ := member_spoils hw₁ hvalue hclosed spoils
      rw [members, bind_ok hnext]
      exact ⟨fault, bind_error hmember⟩
    | later found unmet takes later =>
      obtain ⟨cs, css, hcs, htail, rfl⟩ := List.forall₂_cons_left_iff.1 hcss
      obtain ⟨w₁, hw₁, hstep⟩ :=
        members_cons found unmet takes hcs hw first fuel (ends_close hw' rest)
      rw [hstep]
      exact ih later htail hw₁ false

lemma entryText_ne_nil (h : EntryText m cs) : cs ≠ [] := by
  obtain ⟨name, value, -, -, rfl⟩ := h
  simp

lemma read_object (hw : Blank w) (cs : List Char) :
    r.read (w ++ '{' :: cs) = (do
      let s ← r.members (cs.length + 1) true r.start
      let a ← (r.finish s : Except Fault α)
      follow '}'
      pure a : Reader α) cs := by
  rw [Record.read, skipSpace_blank hw (by decide)]
  rfl

lemma takes_object {a : α} (h : r.Fills r.start ms s) (ha : r.finish s = .ok a) :
    Takes r.read (ObjectText ms) a := by
  rintro w _ hw ⟨css, w', hcss, hw', rfl⟩ rest -
  have hlength := length_le_parts hcss (fun _ _ => entryText_ne_nil) true
  simp only [List.append_assoc, List.cons_append, List.nil_append]
  rw [read_object hw]
  refine (bind_ok (members_fills h hcss blank_nil hw' true ?_)).trans ?_
  · rw [List.length_append]
    omega
  · rw [ha]
    rfl

lemma refuses_object (hclosed : r.closed = true) (h : r.Breaks r.start ms) :
    Refuses r.read (ObjectText ms) := by
  rintro w _ hw ⟨css, w', hcss, hw', rfl⟩ rest
  simp only [List.append_assoc, List.cons_append, List.nil_append]
  rw [read_object hw]
  obtain ⟨fault, hmembers⟩ := members_breaks hclosed h hcss blank_nil hw' true _ rest
  exact ⟨fault, bind_error hmembers⟩

end Record

end LedgerClient.Json
