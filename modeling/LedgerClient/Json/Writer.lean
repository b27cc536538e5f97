import LedgerClient.Json.Text

namespace LedgerClient.Json

inductive Value where
  | null
  | boolean (b : Bool)
  | natural (n : Nat)
  | text (s : String)
  | list (items : List Value)
  | object (members : List (String × Value))

namespace Value

mutual

def chars : Value → List Char
  | null => "null".toList
  | boolean b => (if b then "true" else "false").toList
  | natural n => n.repr.toList
  | text s => Text.write s
  | list items => '[' :: (itemChars items ++ [']'])
  | object members => '{' :: (memberChars members ++ ['}'])

def itemChars : List Value → List Char
  | [] => []
  | [v] => chars v
  | v :: vs => chars v ++ ',' :: itemChars vs

def memberChars : List (String × Value) → List Char
  | [] => []
  | [(name, v)] => Text.write name ++ ':' :: chars v
  | (name, v) :: rest => Text.write name ++ ':' :: (chars v ++ ',' :: memberChars rest)

end

def render (v : Value) : String := String.ofList v.chars

def optional {α : Type} (write : α → Value) : Option α → Value
  | none => null
  | some a => write a

end Value

end LedgerClient.Json
