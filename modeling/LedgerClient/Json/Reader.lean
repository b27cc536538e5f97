import LedgerClient.Json.Number

/-! Readers of single values. A document is read from left to right in one pass, so that the first
problem in it is the one reported. -/

namespace LedgerClient.Json

def isSpace (c : Char) : Bool := c = ' ' || c = '\n' || c = '\t' || c = '\r'

def skipSpace (cs : List Char) : List Char := cs.dropWhile isSpace

def letters : List Char → Reader Unit
  | [], cs => .ok ((), cs)
  | _ :: _, [] => .error .truncated
  | w :: ws, c :: rest => if c = w then letters ws rest else .error .illFormed

def found : Reader Found := fun cs =>
  match cs with
  | 'n' :: rest => (letters "ull".toList rest).map fun (_, rest) => (.null, rest)
  | 't' :: rest => (letters "rue".toList rest).map fun (_, rest) => (.boolean true, rest)
  | 'f' :: rest => (letters "alse".toList rest).map fun (_, rest) => (.boolean false, rest)
  | '"' :: rest => (Text.read rest).map fun (s, rest) => (.text s, rest)
  | '[' :: rest => .ok (.sequence, rest)
  | '{' :: rest => .ok (.map, rest)
  | '-' :: rest => (Number.read true rest).map fun (n, rest) => (n.found, rest)
  | c :: _ =>
    if c.isDigit then (Number.read false cs).map fun (n, rest) => (n.found, rest)
    else .error .illFormed
  | [] => .error .truncated

def refuse {α : Type} (expected : String) : Reader α := fun cs =>
  match found cs with
  | .error fault => .error fault
  | .ok (here, _) => .error (.mismatch (.invalidType here expected))

def string : Reader String := fun cs =>
  match skipSpace cs with
  | [] => .error .truncated
  | '"' :: rest => Text.read rest
  | rest => refuse "a string" rest

def ofText {ε α : Type} (message : ε → String) (decode : String → Except ε α) : Reader α := do
  match decode (← string) with
  | .ok a => pure a
  | .error e => throw (.mismatch (.refused (message e)))

def boolean : Reader Bool := fun cs =>
  match skipSpace cs with
  | [] => .error .truncated
  | 't' :: rest => (letters "rue".toList rest).map fun (_, rest) => (true, rest)
  | 'f' :: rest => (letters "alse".toList rest).map fun (_, rest) => (false, rest)
  | rest => refuse "a boolean" rest

def unit : Reader Unit := fun cs =>
  match skipSpace cs with
  | [] => .error .truncated
  | 'n' :: rest => letters "ull".toList rest
  | rest => refuse "unit" rest

def natural (bound : Nat) (expected : String) : Reader (Fin bound) := fun cs =>
  let accept : Number × List Char → Except Fault (Fin bound × List Char)
    | (.natural n, rest) =>
      if h : n < bound then .ok (⟨n, h⟩, rest)
      else .error (.mismatch (.invalidValue n expected))
    | (.negative n, _) => .error (.mismatch (.invalidValue (-n) expected))
    | (.float x, _) => .error (.mismatch (.invalidType (.float x) expected))
  match skipSpace cs with
  | [] => .error .truncated
  | '-' :: rest => Number.read true rest >>= accept
  | c :: rest => if c.isDigit then Number.read false (c :: rest) >>= accept
    else refuse expected (c :: rest)

def byte : Reader UInt8 := (fun n => UInt8.ofFin n) <$> natural UInt8.size "u8"

def word32 : Reader UInt32 := (fun n => UInt32.ofFin n) <$> natural UInt32.size "u32"

def word64 : Reader UInt64 := (fun n => UInt64.ofFin n) <$> natural UInt64.size "u64"

def wide (bound : Nat) : Reader (Fin bound) := fun cs =>
  match skipSpace cs with
  | [] => .error .truncated
  | rest =>
    match Number.readWide rest with
    | .error fault => .error fault
    | .ok (n, rest) => if h : n < bound then .ok (⟨n, h⟩, rest) else .error .illFormed

def optional {α : Type} (read : Reader α) : Reader (Option α) := fun cs =>
  match skipSpace cs with
  | 'n' :: rest => (letters "ull".toList rest).map fun (_, rest) => (none, rest)
  | _ => (read cs).map fun (a, rest) => (some a, rest)

inductive Pending where
  | value
  | elements
  | members

def skipPending : (fuel : Nat) → Pending → Reader Unit
  | 0, _, _ => .error .illFormed
  | fuel + 1, .value, cs =>
    match skipSpace cs with
    | [] => .error .truncated
    | 'n' :: rest => letters "ull".toList rest
    | 't' :: rest => letters "rue".toList rest
    | 'f' :: rest => letters "alse".toList rest
    | '"' :: rest => Text.skip rest
    | '-' :: rest => Number.skip rest
    | '[' :: rest =>
      match skipSpace rest with
      | [] => .error .truncated
      | ']' :: rest => .ok ((), rest)
      | rest => skipPending fuel .elements rest
    | '{' :: rest =>
      match skipSpace rest with
      | [] => .error .truncated
      | '}' :: rest => .ok ((), rest)
      | rest => skipPending fuel .members rest
    | c :: rest => if c.isDigit then Number.skip (c :: rest) else .error .illFormed
  | fuel + 1, .elements, cs => do
    let (_, rest) ← skipPending fuel .value cs
    match skipSpace rest with
    | [] => .error .truncated
    | ',' :: rest => skipPending fuel .elements rest
    | ']' :: rest => .ok ((), rest)
    | _ => .error .illFormed
  | fuel + 1, .members, cs =>
    match skipSpace cs with
    | [] => .error .truncated
    | '"' :: rest => do
      let (_, rest) ← Text.skip rest
      match skipSpace rest with
      | [] => .error .truncated
      | ':' :: rest =>
        let (_, rest) ← skipPending fuel .value rest
        match skipSpace rest with
        | [] => .error .truncated
        | ',' :: rest => skipPending fuel .members rest
        | '}' :: rest => .ok ((), rest)
        | _ => .error .illFormed
      | _ => .error .illFormed
    | _ => .error .illFormed

def skipValue : Reader Unit := fun cs => skipPending (2 * cs.length + 2) .value cs

def document {α : Type} (read : Reader α) (s : String) : Except Fault α :=
  match read s.toList with
  | .error fault => .error fault
  | .ok (a, rest) => if (skipSpace rest).isEmpty then .ok a else .error .illFormed

end LedgerClient.Json
