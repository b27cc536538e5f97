import LedgerClient.Decimal.Shortest
import LedgerClient.Text.Quoted

namespace LedgerClient.Json

inductive Found where
  | null
  | boolean (b : Bool)
  | integer (n : Int)
  | float (x : Float)
  | text (s : String)
  | sequence
  | map

inductive Mismatch where
  | invalidType (found : Found) (expected : String)
  | invalidValue (n : Int) (expected : String)
  | invalidLength (length : Nat) (expected : String)
  | missingField (name : String)
  | duplicateField (name : String)
  | unknownField (name : String) (known : List String)
  | unknownVariant (name : String) (known : List String)
  | refused (reason : String)

inductive Fault where
  | illFormed
  | truncated
  | mismatch (cause : Mismatch)

def Found.message : Found → String
  | null => "null"
  | boolean b => "boolean `" ++ (if b then "true" else "false") ++ "`"
  | integer n => "integer `" ++ toString n ++ "`"
  | float x => "floating point `" ++ Float.marked x ++ "`"
  | text s => "string " ++ Quoted.string s
  | sequence => "sequence"
  | map => "map"

def ticked (s : String) : String := "`" ++ s ++ "`"

def alternatives : List String → String
  | [a] => ticked a
  | [a, b] => ticked a ++ " or " ++ ticked b
  | names => "one of " ++ String.intercalate ", " (names.map ticked)

def Mismatch.message : Mismatch → String
  | invalidType found expected => "invalid type: " ++ found.message ++ ", expected " ++ expected
  | invalidValue n expected =>
    "invalid value: " ++ (Found.integer n).message ++ ", expected " ++ expected
  | invalidLength n expected => "invalid length " ++ n.repr ++ ", expected " ++ expected
  | missingField name => "missing field " ++ ticked name
  | duplicateField name => "duplicate field " ++ ticked name
  | unknownField name known =>
    "unknown field " ++ ticked name ++ ", expected " ++ alternatives known
  | unknownVariant name known =>
    "unknown variant " ++ ticked name ++ ", expected " ++ alternatives known
  | refused reason => reason

end LedgerClient.Json
