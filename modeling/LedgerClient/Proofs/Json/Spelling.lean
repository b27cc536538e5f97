import LedgerClient.Json.Reader
import LedgerClient.Json.Writer
import Mathlib

/-! The texts that spell a value: with any white space between the tokens, and with any characters
of a string escaped. -/

namespace LedgerClient

namespace Json

def Blank (w : List Char) : Prop := ∀ c ∈ w, isSpace c = true

inductive CodeUnit : List Char → ℕ → Prop
  | mk {a b c d : Char} {i j k l : ℕ} (ha : Hex.digit? a = some i) (hb : Hex.digit? b = some j)
      (hc : Hex.digit? c = some k) (hd : Hex.digit? d = some l) :
      CodeUnit [a, b, c, d] (((i * 16 + j) * 16 + k) * 16 + l)

inductive Escape : List Char → Char → Prop
  | letter {e c : Char} (denotes : Text.simpleEscape? e = some c) : Escape [e] c
  | unit {u : List Char} {n : ℕ} (unit : CodeUnit u n) (high : ¬ Text.IsHighSurrogate n)
      (low : ¬ Text.IsLowSurrogate n) : Escape ('u' :: u) (Char.ofNat n)
  | pair {u v : List Char} {n m : ℕ} (first : CodeUnit u n) (second : CodeUnit v m)
      (high : Text.IsHighSurrogate n) (low : Text.IsLowSurrogate m) :
      Escape ('u' :: (u ++ '\\' :: 'u' :: v))
        (Char.ofNat (0x10000 + (n - 0xd800) * 1024 + (m - 0xdc00)))

inductive Literal : List Char → List Char → Prop
  | nil : Literal [] []
  | plain {c : Char} {cs ds : List Char} (printable : ' ' ≤ c) (unquoted : c ≠ '"')
      (unslashed : c ≠ '\\') (rest : Literal cs ds) : Literal (c :: cs) (c :: ds)
  | escaped {d : Char} {e cs ds : List Char} (escape : Escape e d) (rest : Literal cs ds) :
      Literal ('\\' :: (e ++ cs)) (d :: ds)

abbrev Wording := List Char → Prop

def Quotes (s : String) : Wording := fun cs =>
  ∃ body, Literal body s.toList ∧ cs = '"' :: (body ++ ['"'])

def Spaced (P : Wording) : Wording := fun cs =>
  ∃ w v w', Blank w ∧ P v ∧ Blank w' ∧ cs = w ++ (v ++ w')

def parts : (first : Bool) → List (List Char) → List Char
  | _, [] => []
  | true, c :: cs => c ++ parts false cs
  | false, c :: cs => ',' :: (c ++ parts false cs)

def ListText (Ps : List Wording) : Wording := fun cs =>
  ∃ css w, List.Forall₂ Spaced Ps css ∧ Blank w ∧ cs = '[' :: (parts true css ++ (w ++ [']']))

abbrev Entry := String × Wording

def EntryText (m : Entry) : Wording := fun cs =>
  ∃ name value, Spaced (Quotes m.1) name ∧ Spaced m.2 value ∧ cs = name ++ ':' :: value

def ObjectText (ms : List Entry) : Wording := fun cs =>
  ∃ css w, List.Forall₂ EntryText ms css ∧ Blank w ∧ cs = '{' :: (parts true css ++ (w ++ ['}']))

namespace Value

mutual

def Spells : Value → Wording
  | null => fun cs => cs = "null".toList
  | boolean b => fun cs => cs = (if b then "true" else "false").toList
  | natural n => fun cs => cs = n.repr.toList
  | text s => Quotes s
  | list items => ListText (wordings items)
  | object members => ObjectText (entries members)

def wordings : List Value → List Wording
  | [] => []
  | v :: vs => Spells v :: wordings vs

def entries : List (String × Value) → List Entry
  | [] => []
  | (name, v) :: ms => (name, Spells v) :: entries ms

end

end Value

end Json

namespace Hex

lemma digit?_digit : ∀ d < 16, digit? (digit d) = some d := by decide +kernel

lemma digit?_encodeByte (b : UInt8) :
    digit? (digit (b.toNat / 16)) = some (b.toNat / 16) ∧
      digit? (digit (b.toNat % 16)) = some (b.toNat % 16) := by
  have hlt := b.toNat_lt
  exact ⟨digit?_digit _ (by omega), digit?_digit _ (by omega)⟩

end Hex

namespace Json

lemma codeUnit_encodeByte (b : UInt8) : CodeUnit ('0' :: '0' :: Hex.encodeByte b) b.toNat := by
  obtain ⟨hhigh, hlow⟩ := Hex.digit?_encodeByte b
  have hzero : Hex.digit? '0' = some 0 := by decide +kernel
  have hvalue : ((0 * 16 + 0) * 16 + b.toNat / 16) * 16 + b.toNat % 16 = b.toNat := by omega
  have hunit := CodeUnit.mk hzero hzero hhigh hlow
  rwa [hvalue] at hunit

lemma escape_control {c : Char} (hc : c < ' ') :
    Escape ('u' :: '0' :: '0' :: Hex.encodeByte c.toUInt8) c := by
  have hlt : c.toNat < 32 := hc
  have hbyte : c.toUInt8.toNat = c.toNat := by
    rw [Char.toUInt8, UInt32.toNat_toUInt8]
    exact Nat.mod_eq_of_lt (hlt.trans (by decide))
  have hunit := codeUnit_encodeByte c.toUInt8
  rw [hbyte] at hunit
  have hescape := Escape.unit hunit (fun h => by have := h.1; omega)
    (fun h => by have := h.1; omega)
  rwa [Char.ofNat_toNat] at hescape

lemma literal_escape (c : Char) {cs ds : List Char} (h : Literal cs ds) :
    Literal (Text.escape c ++ cs) (c :: ds) := by
  unfold Text.escape
  split
  case h_1 => exact .escaped (.letter rfl) h
  case h_2 => exact .escaped (.letter rfl) h
  case h_3 => exact .escaped (.letter rfl) h
  case h_4 => exact .escaped (.letter rfl) h
  case h_5 => exact .escaped (.letter rfl) h
  case h_6 => exact .escaped (.letter rfl) h
  case h_7 => exact .escaped (.letter rfl) h
  case h_8 hquote hslash _ _ _ _ _ =>
    split
    · rename_i hc
      exact .escaped (escape_control hc) h
    · rename_i hc
      exact .plain (not_lt.1 hc) hquote hslash h

lemma literal_escapes (ds : List Char) : Literal (ds.flatMap Text.escape) ds := by
  induction ds with
  | nil => exact .nil
  | cons d ds ih => exact literal_escape d ih

lemma quotes_write (s : String) : Quotes s (Text.write s) := ⟨_, literal_escapes s.toList, rfl⟩

lemma blank_nil : Blank [] := List.forall_mem_nil _

lemma spaced_self {P : Wording} {cs : List Char} (h : P cs) : Spaced P cs :=
  ⟨[], cs, [], blank_nil, h, blank_nil, (List.append_nil cs).symm⟩

def memberText (m : String × Value) : List Char := Text.write m.1 ++ ':' :: m.2.chars

namespace Value

lemma itemChars_eq (vs : List Value) : itemChars vs = parts true (vs.map chars) := by
  induction vs with
  | nil => rfl
  | cons v vs ih =>
    cases vs with
    | nil => simp [itemChars, parts]
    | cons w vs =>
      rw [itemChars, ih]
      · rfl
      · exact List.cons_ne_nil _ _

lemma memberChars_eq (ms : List (String × Value)) :
    memberChars ms = parts true (ms.map memberText) := by
  induction ms with
  | nil => rfl
  | cons m ms ih =>
    cases ms with
    | nil => simp [memberChars, parts, memberText]
    | cons m' ms =>
      rw [memberChars, ih]
      · simp [parts, memberText]
      · exact List.cons_ne_nil _ _

mutual

theorem spells_chars : ∀ v : Value, v.Spells v.chars
  | null => rfl
  | boolean _ => rfl
  | natural _ => rfl
  | text s => quotes_write s
  | list items => by
    refine ⟨_, [], wordings_chars items, blank_nil, ?_⟩
    rw [chars, itemChars_eq, List.nil_append]
  | object members => by
    refine ⟨_, [], entries_chars members, blank_nil, ?_⟩
    rw [chars, memberChars_eq, List.nil_append]

theorem wordings_chars : ∀ vs : List Value, List.Forall₂ Spaced (wordings vs) (vs.map chars)
  | [] => .nil
  | v :: vs => .cons (spaced_self (spells_chars v)) (wordings_chars vs)

theorem entries_chars : ∀ ms : List (String × Value),
    List.Forall₂ EntryText (entries ms) (ms.map memberText)
  | [] => .nil
  | (name, v) :: ms =>
    .cons ⟨_, _, spaced_self (quotes_write name), spaced_self (spells_chars v), rfl⟩
      (entries_chars ms)

end

end Value

end Json

end LedgerClient
