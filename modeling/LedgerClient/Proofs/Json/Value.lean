import LedgerClient.Json.Record
import LedgerClient.Proofs.Json.Number
import LedgerClient.Proofs.Json.Text

namespace LedgerClient.Json

variable {α : Type} {read : Reader α} {write : α → Value} {a : α}

lemma takes_string (s : String) : Takes string (Value.text s).Spells s := by
  rintro w cs hw ⟨body, hbody, rfl⟩ rest -
  simp only [List.append_assoc, List.cons_append, List.nil_append]
  rw [string, skipSpace_blank hw (by decide)]
  exact Text.read_literal hbody rest

lemma takes_ofText {ε : Type} {message : ε → String} {decode : String → Except ε α} {s : String}
    (h : decode s = .ok a) : Takes (ofText message decode) (Value.text s).Spells a := by
  intro w cs hw hcs rest hr
  rw [ofText, bind_ok (takes_string s hw hcs rest hr), h]
  rfl

lemma takes_boolean (b : Bool) : Takes boolean (Value.boolean b).Spells b := by
  rintro w cs hw rfl rest -
  rw [boolean, List.append_assoc, skipSpace_append hw]
  cases b <;> rfl

lemma takes_choice {names : List (String × α)} {s : String} (h : names.lookup s = some a) :
    Takes (choice names) (Value.text s).Spells a := by
  rintro w cs hw ⟨body, hbody, rfl⟩ rest -
  simp only [List.append_assoc, List.cons_append, List.nil_append]
  rw [choice, skipSpace_blank hw (by decide)]
  refine (bind_ok (Text.read_literal hbody rest)).trans ?_
  simp only [h]
  rfl

lemma isDigit_cases {c : Char} (h : c.isDigit) : isSpace c = false ∧ c ≠ '-' ∧ c ≠ ']' := by
  refine ⟨?_, ?_, ?_⟩
  · rw [isSpace]
    simp only [Bool.or_eq_false_iff, decide_eq_false_iff_not]
    refine ⟨⟨⟨?_, ?_⟩, ?_⟩, ?_⟩ <;> (rintro rfl; exact absurd h (by decide))
  · rintro rfl; exact absurd h (by decide)
  · rintro rfl; exact absurd h (by decide)

lemma exists_digit_repr (n : ℕ) : ∃ c cs, n.repr.toList = c :: cs ∧ c.isDigit := by
  obtain ⟨c, cs, hcs⟩ := List.exists_cons_of_ne_nil (Number.repr_ne_nil n)
  exact ⟨c, cs, hcs, Number.isDigit_of_mem_repr (n := n) (by simp [hcs])⟩

lemma Value.Spells.exists_cons {v : Value} {cs : List Char} (h : v.Spells cs) :
    ∃ c ds, cs = c :: ds ∧ isSpace c = false ∧ c ≠ ']' := by
  cases v with
  | natural n =>
    obtain ⟨c, ds, hds, hc⟩ := exists_digit_repr n
    obtain ⟨hspace, -, hclose⟩ := isDigit_cases hc
    exact ⟨c, ds, Eq.trans h hds, hspace, hclose⟩
  | boolean b =>
    obtain rfl := h
    cases b <;> exact ⟨_, _, rfl, by decide, by decide⟩
  | null => exact ⟨_, _, h, by decide, by decide⟩
  | text s =>
    obtain ⟨body, -, rfl⟩ := h
    exact ⟨_, _, rfl, by decide, by decide⟩
  | list items =>
    obtain ⟨css, w, -, -, rfl⟩ := h
    exact ⟨_, _, rfl, by decide, by decide⟩
  | object members =>
    obtain ⟨css, w, -, -, rfl⟩ := h
    exact ⟨_, _, rfl, by decide, by decide⟩

lemma takes_natural {bound : ℕ} (hb : bound ≤ UInt64.size) (expected : String) (n : Fin bound) :
    Takes (natural bound expected) (Value.natural n).Spells n := by
  rintro w cs hw rfl rest hr
  obtain ⟨c, cs, hcs, hc⟩ := exists_digit_repr n
  obtain ⟨hspace, hminus, -⟩ := isDigit_cases hc
  have hread := Number.reads_repr (n.isLt.trans_le hb) rest hr
  rw [hcs, List.cons_append] at hread
  rw [hcs, List.append_assoc, List.cons_append, natural, skipSpace_blank hw hspace]
  simp only [hc, if_true]
  rw [hread]
  exact dif_pos n.isLt

lemma takes_byte (b : UInt8) : Takes byte (Value.natural b.toNat).Spells b :=
  (takes_natural (by decide) "u8" b.toFin).map UInt8.ofFin

lemma takes_word32 (w : UInt32) : Takes word32 (Value.natural w.toNat).Spells w :=
  (takes_natural (by decide) "u32" w.toFin).map UInt32.ofFin

lemma takes_word64 (w : UInt64) : Takes word64 (Value.natural w.toNat).Spells w :=
  (takes_natural le_rfl "u64" w.toFin).map UInt64.ofFin

lemma takes_wide {bound : ℕ} (n : Fin bound) : Takes (wide bound) (Value.natural n).Spells n := by
  rintro w cs hw rfl rest hr
  obtain ⟨c, cs, hcs, hc⟩ := exists_digit_repr n
  have hread := Number.readWide_repr n rest hr
  rw [hcs, List.cons_append] at hread
  rw [hcs, List.append_assoc, List.cons_append, wide, skipSpace_blank hw (isDigit_cases hc).1]
  simp only [hread]
  exact dif_pos n.isLt

lemma takes_null : Takes (optional read) Value.null.Spells none := by
  rintro w cs hw rfl rest -
  rw [optional, List.append_assoc, skipSpace_append hw]
  rfl

lemma takes_some {s : String} (h : Takes read (Value.text s).Spells a) :
    Takes (optional read) (Value.text s).Spells (some a) := by
  intro w cs hw hcs rest hr
  have hread := h hw hcs rest hr
  obtain ⟨body, -, rfl⟩ := hcs
  have hskip : skipSpace (w ++ ('"' :: (body ++ ['"']) ++ rest)) = _ :=
    skipSpace_blank hw (by decide) _
  rw [List.append_assoc] at hread ⊢
  rw [optional, hskip, hread]
  rfl

lemma takes_optional {encode : α → String} (h : ∀ a, Takes read (Value.text (encode a)).Spells a) :
    ∀ o, Takes (optional read) (Value.optional (fun a => .text (encode a)) o).Spells o
  | none => takes_null
  | some a => takes_some (h a)

section List

lemma ends_parts (cs : List (List Char)) {rest : List Char} (h : Ends rest) :
    Ends (parts false cs ++ rest) := by
  cases cs with
  | nil => exact h
  | cons c cs => exact ends_cons (by decide)

lemma length_le_parts {ι : Type} {R : ι → Wording} {items : List ι} {css : List (List Char)}
    (h : List.Forall₂ R items css) (hne : ∀ i cs, R i cs → cs ≠ []) (first : Bool) :
    items.length ≤ (parts first css).length := by
  induction h generalizing first with
  | nil => exact Nat.zero_le _
  | cons hc _ ih =>
    have hpos := List.length_pos_iff.2 (hne _ _ hc)
    have hlength := ih false
    cases first <;> simp only [parts, List.length_cons, List.length_append] <;> omega

variable {cs w rest : List Char}

lemma nextElement_end (hw : Blank w) (first : Bool) (rest : List Char) :
    nextElement first (w ++ ']' :: rest) = .ok (false, ']' :: rest) := by
  rw [nextElement, skipSpace_blank hw (by decide)]
  rfl

lemma nextElement_cons {v : Value} (hw : Blank w) (first : Bool) (hcs : Spaced v.Spells cs)
    (css : List (List Char)) (rest : List Char) :
    ∃ ds w', v.Spells ds ∧ Blank w' ∧ nextElement first (w ++ (parts first (cs :: css) ++ rest)) =
      .ok (true, ds ++ (w' ++ (parts false css ++ rest))) := by
  obtain ⟨w₁, ds, w', hw₁, hds, hw', rfl⟩ := hcs
  refine ⟨ds, w', hds, hw', ?_⟩
  obtain ⟨c, ds, rfl, hspace, hclose⟩ := hds.exists_cons
  cases first with
  | true =>
    simp only [parts, List.append_assoc, List.cons_append]
    rw [nextElement, skipSpace_append hw, skipSpace_blank hw₁ hspace]
    simp
  | false =>
    simp only [parts, List.append_assoc, List.cons_append]
    rw [nextElement, skipSpace_blank hw (by decide)]
    simp [skipSpace_blank hw₁ hspace, hclose]

lemma elements_parts (h : ∀ a, Takes read (write a).Spells a) {as : List α} {css : List (List Char)}
    (hcss : List.Forall₂ (fun a => Spaced (write a).Spells) as css) {w w' : List Char}
    (hw : Blank w) (hw' : Blank w') (first : Bool) {fuel : ℕ} (hf : as.length < fuel) :
    elements read fuel first (w ++ (parts first css ++ (w' ++ ']' :: rest))) =
      .ok (as, ']' :: rest) := by
  induction hcss generalizing w first fuel with
  | nil =>
    obtain ⟨fuel, rfl⟩ := Nat.exists_eq_succ_of_ne_zero (Nat.ne_of_gt hf)
    have hend := nextElement_end (List.forall_mem_append.2 ⟨hw, hw'⟩) first rest
    rw [List.append_assoc] at hend
    cases first <;> exact bind_ok hend
  | @cons a cs as css hcs _ ih =>
    obtain ⟨fuel, rfl⟩ := Nat.exists_eq_succ_of_ne_zero (Nat.ne_of_gt (Nat.zero_lt_of_lt hf))
    obtain ⟨ds, w₁, hds, hw₁, hnext⟩ := nextElement_cons hw first hcs css (w' ++ ']' :: rest)
    have hends : Ends (w₁ ++ (parts false css ++ (w' ++ ']' :: rest))) :=
      ends_blank hw₁ (ends_parts _ (ends_blank hw' (ends_cons (by decide))))
    rw [elements, bind_ok hnext]
    simp only [if_true]
    have hread := h a blank_nil hds _ hends
    rw [List.nil_append] at hread
    rw [bind_ok hread, bind_ok (ih hw₁ false (Nat.lt_of_succ_lt_succ hf))]
    rfl

lemma Value.wordings_map (as : List α) :
    wordings (as.map write) = as.map fun a => (write a).Spells := by
  induction as with
  | nil => rfl
  | cons a as ih => exact congrArg (List.cons _) ih

lemma spaced_ne_nil {v : Value} (h : Spaced v.Spells cs) : cs ≠ [] := by
  obtain ⟨w, ds, w', -, hds, -, rfl⟩ := h
  obtain ⟨c, ds, rfl, -⟩ := hds.exists_cons
  simp

lemma takes_list (h : ∀ a, Takes read (write a).Spells a) (as : List α) :
    Takes (list read) (Value.list (as.map write)).Spells as := by
  rintro w _ hw ⟨css, w', hcss, hw', rfl⟩ rest -
  rw [Value.wordings_map, List.forall₂_map_left_iff] at hcss
  have hlength := length_le_parts hcss (fun _ _ => spaced_ne_nil) true
  simp only [List.append_assoc, List.cons_append, List.nil_append]
  rw [list, skipSpace_blank hw (by decide)]
  refine (bind_ok (elements_parts h hcss blank_nil hw' true ?_)).trans rfl
  rw [List.length_append]
  omega

end List

end LedgerClient.Json
