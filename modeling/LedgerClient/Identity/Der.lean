import LedgerClient.Curve.Ecdsa

namespace LedgerClient.Der

def content (n : Nat) : Bytes :=
  match Bytes.minimal n with
  | [] => [0]
  | b :: rest => if b < 0x80 then b :: rest else 0 :: b :: rest

def integer (n : Nat) : Bytes := 0x02 :: UInt8.ofNat (content n).length :: content n

def encode (r s : Nat) : Bytes :=
  let body := integer r ++ integer s
  0x30 :: UInt8.ofNat body.length :: body

def number? (b : Bytes) : Option Nat :=
  match b with
  | [] => none
  | [a] => if a < 0x80 then some a.toNat else none
  | a :: c :: rest =>
    if a ≥ 0x80 ∨ (a = 0 ∧ c < 0x80) then none else some (Bytes.toNat (a :: c :: rest))

def integer? : Bytes → Option (Nat × Bytes)
  | 0x02 :: length :: rest => do
    let n := length.toNat
    if n < 128 ∧ n ≤ rest.length then
      let value ← number? (rest.take n)
      some (value, rest.drop n)
    else none
  | _ => none

def decode? : Bytes → Option (Nat × Nat)
  | 0x30 :: length :: body => do
    if length.toNat = body.length ∧ body.length < 128 then
      let (r, rest) ← integer? body
      let (s, rest) ← integer? rest
      if rest = [] then some (r, s) else none
    else none
  | _ => none

end LedgerClient.Der
