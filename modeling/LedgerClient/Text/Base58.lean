import LedgerClient.Text.Fault

namespace LedgerClient.Base58

def alphabet : List Char :=
  "123456789ABCDEFGHJKLMNPQRSTUVWXYZabcdefghijkmnopqrstuvwxyz".toList

def digit (n : Nat) : Char := alphabet.getD n '1'

def digit? (c : Char) : Option Nat := alphabet.idxOf? c

def encode (b : Bytes) : List Char :=
  List.replicate (b.takeWhile (· == 0)).length '1' ++ (Radix.digits 58 b.toNat).map digit

def digits : (position : Nat) → List Char → Except Malformed (List Nat)
  | _, [] => .ok []
  | i, c :: cs =>
    if c.toNat ≥ 128 then .error (.beyondAscii i)
    else
      match digit? c with
      | none => .error (.foreignCharacter c i)
      | some d => (digits (i + 1) cs).map (d :: ·)

def decode (text : List Char) : Except Malformed Bytes :=
  (digits 0 text).map fun ds =>
    List.replicate (ds.takeWhile (· == 0)).length 0 ++ Bytes.minimal (Radix.value 58 ds)

end LedgerClient.Base58
