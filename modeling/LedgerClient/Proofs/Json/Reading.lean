import LedgerClient.Proofs.Json.Spelling

namespace LedgerClient.Json

def continuesNumber (c : Char) : Bool := c.isDigit || c == '.' || c == 'e' || c == 'E'

def Ends (rest : List Char) : Prop := ∀ c ∈ rest.head?, continuesNumber c = false

def Reads {α : Type} (read : Reader α) (cs : List Char) (a : α) : Prop :=
  ∀ rest, Ends rest → read (cs ++ rest) = .ok (a, rest)

lemma ends_nil : Ends [] := nofun

lemma ends_cons {c : Char} {rest : List Char} (h : continuesNumber c = false) :
    Ends (c :: rest) := by
  rintro _ ⟨⟩
  exact h

variable {α β : Type} {read : Reader α} {cs rest : List Char} {a : α}

lemma bind_ok {f : α → Reader β} (h : read cs = .ok (a, rest)) : (read >>= f) cs = f a rest := by
  change read cs >>= _ = _
  rw [h]
  rfl

lemma bind_error {f : α → Reader β} {fault : Fault} (h : read cs = .error fault) :
    (read >>= f) cs = .error fault := by
  change read cs >>= _ = _
  rw [h]
  rfl

lemma skipSpace_cons {c : Char} (h : isSpace c = false) (cs : List Char) :
    skipSpace (c :: cs) = c :: cs :=
  List.dropWhile_cons_of_neg (by simp [h])

lemma skipSpace_append {w : List Char} (h : Blank w) (cs : List Char) :
    skipSpace (w ++ cs) = skipSpace cs :=
  List.dropWhile_append_of_pos h

lemma skipSpace_blank {w : List Char} (h : Blank w) {c : Char} (hc : isSpace c = false)
    (cs : List Char) : skipSpace (w ++ c :: cs) = c :: cs :=
  (skipSpace_append h _).trans (skipSpace_cons hc cs)

lemma ends_blank {w : List Char} (h : Blank w) (hr : Ends rest) : Ends (w ++ rest) := by
  cases w with
  | nil => exact hr
  | cons c w =>
    refine ends_cons ?_
    have hspace := (List.forall_mem_cons.1 h).1
    simp only [isSpace, Bool.or_eq_true, decide_eq_true_eq] at hspace
    rcases hspace with ((rfl | rfl) | rfl) | rfl <;> rfl

def Takes (read : Reader α) (P : Wording) (a : α) : Prop :=
  ∀ ⦃w cs⦄, Blank w → P cs → Reads read (w ++ cs) a

def Refuses (read : Reader α) (P : Wording) : Prop :=
  ∀ ⦃w cs⦄, Blank w → P cs → ∀ rest, ∃ fault, read (w ++ cs ++ rest) = .error fault

variable {P : Wording}

lemma Takes.spaced (h : Takes read P a) {w : List Char} (hw : Blank w) (hcs : Spaced P cs)
    (hr : Ends rest) : ∃ w', Blank w' ∧ read (w ++ (cs ++ rest)) = .ok (a, w' ++ rest) := by
  obtain ⟨w₁, v, w', hw₁, hv, hw', rfl⟩ := hcs
  have hread := h (List.forall_mem_append.2 ⟨hw, hw₁⟩) hv (w' ++ rest) (ends_blank hw' hr)
  exact ⟨w', hw', by simpa only [List.append_assoc] using hread⟩

lemma Takes.bind_pure (h : Takes read P a) (f : α → β) :
    Takes (read >>= fun a => pure (f a)) P (f a) :=
  fun _ _ hw hcs rest hr => bind_ok (h hw hcs rest hr)

lemma Takes.map (h : Takes read P a) (f : α → β) : Takes (f <$> read) P (f a) := h.bind_pure f

lemma Refuses.bind (h : Refuses read P) (f : α → Reader β) : Refuses (read >>= f) P := by
  intro w cs hw hcs rest
  obtain ⟨fault, hread⟩ := h hw hcs rest
  exact ⟨fault, bind_error hread⟩

lemma document_takes {s : String} (h : Takes read P a)
    (hs : Spaced P s.toList) : document read s = .ok a := by
  obtain ⟨w, cs, w', hw, hcs, hw', htext⟩ := hs
  have hread := h hw hcs w' (by simpa using ends_blank hw' ends_nil)
  have hend : skipSpace w' = [] := List.dropWhile_eq_nil_iff.2 hw'
  rw [document, htext, ← List.append_assoc, hread]
  simp only [hend]
  rfl

lemma document_refuses {s : String} (h : Refuses read P) (hs : Spaced P s.toList) :
    ∃ fault, document read s = .error fault := by
  obtain ⟨w, cs, w', hw, hcs, -, htext⟩ := hs
  obtain ⟨fault, hread⟩ := h hw hcs w'
  refine ⟨fault, ?_⟩
  rw [document, htext, ← List.append_assoc, hread]

end LedgerClient.Json
