import LedgerClient.Text.Hex
import LedgerClient.Text.Printable

namespace LedgerClient.Quoted

def codePoint (c : Char) : String := "\\u\x7b" ++ Hex.ofNat c.toNat ++ "\x7d"

def escape (quote c : Char) : String :=
  match c with
  | '\x00' => "\\0"
  | '\t' => "\\t"
  | '\r' => "\\r"
  | '\n' => "\\n"
  | '\\' => "\\\\"
  | _ =>
    if c = quote then "\\" ++ c.toString
    else if Printable.isExtend c || !Printable.isPrintable c then codePoint c
    else c.toString

def char (c : Char) : String := "'" ++ escape '\'' c ++ "'"

def string (s : String) : String := "\"" ++ String.join (s.toList.map (escape '"')) ++ "\""

end LedgerClient.Quoted
