import LedgerClient.Proofs.Except
import LedgerClient.Proofs.Json.Reading
import LedgerClient.Proofs.Json.Spelling

namespace LedgerClient.Json

variable {cs ds u : List Char} {n : ℕ} {s : String}

lemma CodeUnit.read (h : CodeUnit u n) (rest : List Char) :
    Text.codeUnit (u ++ rest) = .ok (n, rest) := by
  obtain ⟨ha, hb, hc, hd⟩ := h
  simp only [Text.codeUnit, List.cons_append, List.nil_append, ha, hb, hc, hd]

namespace Text

lemma expect_self (c : Char) (rest : List Char) : expect c (c :: rest) = .ok ((), rest) :=
  if_pos rfl

lemma escapedUnit_pair {v : List Char} {m : ℕ} (hu : CodeUnit u n) (hv : CodeUnit v m)
    (hhigh : IsHighSurrogate n) (hlow : IsLowSurrogate m) (rest : List Char) :
    escapedUnit (u ++ '\\' :: 'u' :: (v ++ rest)) =
      .ok (Char.ofNat (0x10000 + (n - 0xd800) * 1024 + (m - 0xdc00)), rest) := by
  have hnotlow : ¬ IsLowSurrogate n := fun h => by
    have := hhigh.2
    have := h.1
    omega
  rw [escapedUnit, bind_ok (hu.read _), if_neg hnotlow]
  refine (congrFun (if_neg (not_not.2 hhigh)) _).trans ?_
  refine (bind_ok (expect_self _ _)).trans ((bind_ok (expect_self _ _)).trans ?_)
  refine (bind_ok (hv.read rest)).trans ?_
  exact congrFun (if_neg (not_not.2 hlow)) rest

lemma escaped_escape {e : List Char} {c : Char} (h : Escape e c) (rest : List Char) :
    escaped (e ++ rest) = .ok (c, rest) := by
  cases h with
  | letter denotes => simp only [escaped, List.singleton_append, denotes]
  | unit unit high low =>
    change escapedUnit (_ ++ rest) = _
    rw [escapedUnit, bind_ok (unit.read rest), if_neg low]
    exact congrFun (if_pos high) rest
  | pair first second high low =>
    change escapedUnit (_ ++ rest) = _
    rw [List.append_assoc]
    exact escapedUnit_pair first second high low rest

lemma body_literal (h : Literal cs ds) {fuel : ℕ} (hf : cs.length < fuel) (rest : List Char) :
    body fuel (cs ++ '"' :: rest) = .ok (ds, rest) := by
  -- Each character read takes at least one of the text.
  induction h generalizing fuel with
  | nil =>
    obtain ⟨fuel, rfl⟩ := Nat.exists_eq_succ_of_ne_zero (Nat.ne_of_gt hf)
    rfl
  | plain printable unquoted unslashed _ ih =>
    obtain ⟨fuel, rfl⟩ := Nat.exists_eq_succ_of_ne_zero (Nat.ne_of_gt (Nat.zero_lt_of_lt hf))
    rw [List.cons_append, body, if_neg unquoted, if_neg printable.not_gt, if_neg unslashed,
      ih (Nat.lt_of_succ_lt_succ hf)]
    rfl
  | @escaped d e cs ds escape _ ih =>
    obtain ⟨fuel, rfl⟩ := Nat.exists_eq_succ_of_ne_zero (Nat.ne_of_gt (Nat.zero_lt_of_lt hf))
    have hlength : cs.length < fuel := by
      simp only [List.length_cons, List.length_append] at hf
      omega
    rw [List.cons_append, List.append_assoc]
    change escaped (e ++ (cs ++ '"' :: rest)) >>= _ = _
    rw [escaped_escape escape, exceptBind_ok]
    change body fuel (cs ++ '"' :: rest) >>= _ = _
    rw [ih hlength]
    rfl

lemma read_literal (h : Literal cs s.toList) (rest : List Char) :
    read (cs ++ '"' :: rest) = .ok (s, rest) := by
  rw [read, body_literal h]
  · exact congrArg (fun t => Except.ok (t, rest)) (String.ofList_toList (s := s))
  · rw [List.length_append, List.length_cons]
    omega

end Text

end LedgerClient.Json
