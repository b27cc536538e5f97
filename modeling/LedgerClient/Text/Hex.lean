import LedgerClient.Bytes

namespace LedgerClient.Hex

def alphabet : List Char := "0123456789abcdef".toList

def digit (n : Nat) : Char := alphabet.getD n '0'

def digit? (c : Char) : Option Nat := alphabet.idxOf? c.toLower

def encodeByte (b : UInt8) : List Char := [digit (b.toNat / 16), digit (b.toNat % 16)]

def encode (b : Bytes) : String := String.ofList (b.flatMap encodeByte)

def decodeChars? : List Char → Option Bytes
  | [] => some []
  | a :: b :: rest => do
    let a ← digit? a
    let b ← digit? b
    pure (UInt8.ofNat (16 * a + b) :: (← decodeChars? rest))
  | [_] => none

def decode? (s : String) : Option Bytes := decodeChars? s.toList

def ofNat (n : Nat) : String :=
  String.ofList (if n = 0 then ['0'] else (Radix.digits 16 n).map digit)

end LedgerClient.Hex
