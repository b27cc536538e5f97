import LedgerClient.Json.Reader

namespace LedgerClient.Json

def nextElement (first : Bool) : Reader Bool := fun cs =>
  match skipSpace cs with
  | [] => .error .truncated
  | ']' :: rest => .ok (false, ']' :: rest)
  | c :: rest =>
    if first then .ok (true, c :: rest)
    else if c = ',' then
      match skipSpace rest with
      | [] => .error .truncated
      | ']' :: _ => .error .illFormed
      | rest => .ok (true, rest)
    else .error .illFormed

def nextName (first : Bool) : Reader (Option String) := fun cs =>
  let name (rest : List Char) := (Text.read rest).map fun (s, rest) => (some s, rest)
  match skipSpace cs with
  | [] => .error .truncated
  | '}' :: rest => .ok (none, '}' :: rest)
  | c :: rest =>
    if first then if c = '"' then name rest else .error .illFormed
    else if c = ',' then
      match skipSpace rest with
      | [] => .error .truncated
      | '"' :: rest => name rest
      | _ => .error .illFormed
    else .error .illFormed

def follow (c : Char) : Reader Unit := fun cs => Text.expect c (skipSpace cs)

def elements {α : Type} (read : Reader α) : (fuel : Nat) → (first : Bool) → Reader (List α)
  | 0, _ => throw .illFormed
  | fuel + 1, first => do
    if ← nextElement first then
      let a ← read
      return a :: (← elements read fuel false)
    else return []

def list {α : Type} (read : Reader α) : Reader (List α) := fun cs =>
  match skipSpace cs with
  | [] => .error .truncated
  | '[' :: rest =>
    (do
      let as ← elements read (rest.length + 1) true
      follow ']'
      pure as : Reader (List α)) rest
  | rest => refuse "a sequence" rest

structure Field (σ : Type) where
  name : String
  met : σ → Bool
  read : σ → Reader σ

/-- How a value `α` is made of members. A value may also be written as the list of its members
without their names. -/
structure Record (σ α : Type) where
  name : String
  fields : List (Field σ)
  start : σ
  closed : Bool
  fillsTail : Bool
  finish : σ → Except Fault α

namespace Record

variable {σ α : Type} (r : Record σ α)

def names : List String := r.fields.map (·.name)

def member (name : String) (s : σ) : Reader σ :=
  match r.fields.find? (·.name == name) with
  | none =>
    if r.closed then throw (.mismatch (.unknownField name r.names))
    else do
      follow ':'
      skipValue
      pure s
  | some field =>
    if field.met s then throw (.mismatch (.duplicateField name))
    else do
      follow ':'
      field.read s

def members : (fuel : Nat) → (first : Bool) → σ → Reader σ
  | 0, _, _ => throw .illFormed
  | fuel + 1, first, s => do
    match ← nextName first with
    | none => pure s
    | some name => members fuel false (← r.member name s)

def lengthText : String :=
  "struct " ++ r.name ++ " with " ++ r.fields.length.repr ++ " elements"

def unnamed : List (Field σ) → (i : Nat) → σ → Reader σ
  | [], _, s => pure s
  | field :: rest, i, s => do
    if ← nextElement (i == 0) then unnamed rest (i + 1) (← field.read s)
    else if r.fillsTail then pure s
    else throw (.mismatch (.invalidLength i r.lengthText))

def read : Reader α := fun cs =>
  match skipSpace cs with
  | [] => .error .truncated
  | '{' :: rest =>
    (do
      let s ← r.members (rest.length + 1) true r.start
      let a ← (r.finish s : Except Fault α)
      follow '}'
      pure a : Reader α) rest
  | '[' :: rest =>
    (do
      let s ← r.unnamed r.fields 0 r.start
      let a ← (r.finish s : Except Fault α)
      follow ']'
      pure a : Reader α) rest
  | rest => refuse ("struct " ++ r.name) rest

end Record

def require {α : Type} (name : String) : Option α → Except Fault α
  | some a => .ok a
  | none => .error (.mismatch (.missingField name))

def nextText : Reader String := fun cs =>
  match skipSpace cs with
  | [] => .error .truncated
  | '"' :: rest => Text.read rest
  | _ => .error .illFormed

def choice {α : Type} (names : List (String × α)) : Reader α := fun cs =>
  let pick (name : String) : Except Fault α :=
    match names.lookup name with
    | some a => .ok a
    | none => .error (.mismatch (.unknownVariant name (names.map (·.1))))
  match skipSpace cs with
  | [] => .error .truncated
  | '"' :: rest =>
    (do
      let a ← (pick (← Text.read) : Except Fault α)
      pure a : Reader α) rest
  | '{' :: rest =>
    (do
      let a ← (pick (← nextText) : Except Fault α)
      follow ':'
      unit
      follow '}'
      pure a : Reader α) rest
  | _ => .error .illFormed

end LedgerClient.Json
