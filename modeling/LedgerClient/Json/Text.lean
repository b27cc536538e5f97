import LedgerClient.Json.Fault

namespace LedgerClient.Json

abbrev Reader (α : Type) := StateT (List Char) (Except Fault) α

namespace Text

def escape (c : Char) : List Char :=
  match c with
  | '"' => ['\\', '"']
  | '\\' => ['\\', '\\']
  | '\n' => ['\\', 'n']
  | '\r' => ['\\', 'r']
  | '\t' => ['\\', 't']
  | '\x08' => ['\\', 'b']
  | '\x0c' => ['\\', 'f']
  | _ => if c < ' ' then '\\' :: 'u' :: '0' :: '0' :: Hex.encodeByte c.toUInt8 else [c]

def write (s : String) : List Char := '"' :: (s.toList.flatMap escape ++ ['"'])

/-- Four hexadecimal digits. Fewer than four bytes count as a missing end, whatever they are. -/
def codeUnit : Reader Nat := fun cs =>
  match cs with
  | a :: b :: c :: d :: rest =>
    match Hex.digit? a, Hex.digit? b, Hex.digit? c, Hex.digit? d with
    | some a, some b, some c, some d => .ok (((a * 16 + b) * 16 + c) * 16 + d, rest)
    | _, _, _, _ => .error .illFormed
  | _ => .error (if (String.ofList cs).utf8ByteSize < 4 then .truncated else .illFormed)

def IsHighSurrogate (n : Nat) : Prop := 0xd800 ≤ n ∧ n < 0xdc00
def IsLowSurrogate (n : Nat) : Prop := 0xdc00 ≤ n ∧ n < 0xe000

instance (n : Nat) : Decidable (IsHighSurrogate n) :=
  inferInstanceAs (Decidable (0xd800 ≤ n ∧ n < 0xdc00))
instance (n : Nat) : Decidable (IsLowSurrogate n) :=
  inferInstanceAs (Decidable (0xdc00 ≤ n ∧ n < 0xe000))

def expect (c : Char) : Reader Unit := fun cs =>
  match cs with
  | [] => .error .truncated
  | d :: rest => if d = c then .ok ((), rest) else .error .illFormed

def escapedUnit : Reader Char := do
  let n ← codeUnit
  if IsLowSurrogate n then throw .illFormed
  if ¬ IsHighSurrogate n then return Char.ofNat n
  expect '\\'
  expect 'u'
  let m ← codeUnit
  if ¬ IsLowSurrogate m then throw .illFormed
  return Char.ofNat (0x10000 + (n - 0xd800) * 1024 + (m - 0xdc00))

def simpleEscape? : Char → Option Char
  | '"' => some '"'
  | '\\' => some '\\'
  | '/' => some '/'
  | 'b' => some '\x08'
  | 'f' => some '\x0c'
  | 'n' => some '\n'
  | 'r' => some '\r'
  | 't' => some '\t'
  | _ => none

def escaped : Reader Char := fun cs =>
  match cs with
  | [] => .error .truncated
  | c :: rest =>
    match simpleEscape? c with
    | some d => .ok (d, rest)
    | none => if c = 'u' then escapedUnit rest else .error .illFormed

def body : (fuel : Nat) → Reader (List Char)
  | 0, _ => .error .truncated
  | _, [] => .error .truncated
  | fuel + 1, c :: rest =>
    if c = '"' then .ok ([], rest)
    else if c < ' ' then .error .illFormed
    else if c = '\\' then do
      let (d, rest) ← escaped rest
      let (ds, rest) ← body fuel rest
      .ok (d :: ds, rest)
    else do
      let (ds, rest) ← body fuel rest
      .ok (c :: ds, rest)

def read : Reader String := fun cs =>
  (body (cs.length + 1) cs).map fun (s, rest) => (String.ofList s, rest)

def skipEscaped : Reader Unit := fun cs =>
  match cs with
  | [] => .error .truncated
  | c :: rest =>
    if (simpleEscape? c).isSome then .ok ((), rest)
    else if c = 'u' then (codeUnit rest).map fun (_, rest) => ((), rest)
    else .error .illFormed

def skipBody : (fuel : Nat) → Reader Unit
  | 0, _ => .error .truncated
  | _, [] => .error .truncated
  | fuel + 1, c :: rest =>
    if c = '"' then .ok ((), rest)
    else if c < ' ' then .error .illFormed
    else if c = '\\' then do
      let (_, rest) ← skipEscaped rest
      skipBody fuel rest
    else skipBody fuel rest

def skip : Reader Unit := fun cs => skipBody (cs.length + 1) cs

end Text

end LedgerClient.Json
