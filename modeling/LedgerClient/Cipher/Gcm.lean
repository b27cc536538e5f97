import LedgerClient.Cipher.Aes

namespace LedgerClient.Gcm

/-- A polynomial of degree below 128; its constant term is the top bit of `hi`. -/
structure Poly where
  hi : UInt64
  lo : UInt64
deriving DecidableEq

namespace Poly

def zero : Poly := ⟨0, 0⟩

def add (a b : Poly) : Poly := ⟨a.hi ^^^ b.hi, a.lo ^^^ b.lo⟩

def coefficient (a : Poly) (i : Nat) : Bool :=
  if i < 64 then a.hi.toNat.testBit (63 - i) else a.lo.toNat.testBit (127 - i)

def shift (a : Poly) : Poly :=
  let hi := a.hi >>> 1
  ⟨if a.lo &&& 1 = 0 then hi else hi ^^^ 0xe100000000000000, (a.lo >>> 1) ||| (a.hi <<< 63)⟩

def mul (a b : Poly) : Poly :=
  ((List.range 128).foldl
    (fun (z, v) i => (if a.coefficient i then z.add v else z, v.shift)) (zero, b)).1

def ofBytes (b : Bytes) : Poly :=
  ⟨UInt64.ofNat (Bytes.toNat (b.take 8)), UInt64.ofNat (Bytes.toNat (b.drop 8))⟩

def toBytes (a : Poly) : Bytes := Bytes.bigEndian 8 a.hi.toNat ++ Bytes.bigEndian 8 a.lo.toNat

end Poly

def absorb (h : Poly) : Nat → Poly → Bytes → Poly
  | 0, y, _ => y
  | n + 1, y, b =>
    let block := b.take 16
    let filled := block ++ List.replicate (16 - block.length) 0
    absorb h n ((y.add (Poly.ofBytes filled)).mul h) (b.drop 16)

def digest (h : Poly) (ciphertext : Bytes) : Bytes :=
  let y := absorb h ((ciphertext.length + 15) / 16) Poly.zero ciphertext
  ((y.add ⟨0, UInt64.ofNat (8 * ciphertext.length)⟩).mul h).toBytes

abbrev Nonce := Bytes.Exact 12

def counterBlock (nonce : Nonce) (i : Nat) : Bytes := nonce.val ++ Bytes.bigEndian 4 i

def keyStream (roundKeys : List Bytes) (nonce : Nonce) (n : Nat) : Bytes :=
  ((List.range ((n + 15) / 16)).flatMap fun i =>
    Aes.encrypt roundKeys (counterBlock nonce (i + 2))).take n

def crypt (roundKeys : List Bytes) (nonce : Nonce) (text : Bytes) : Bytes :=
  Aes.xor text (keyStream roundKeys nonce text.length)

def tag (roundKeys : List Bytes) (nonce : Nonce) (ciphertext : Bytes) : Bytes :=
  let h := Poly.ofBytes (Aes.encrypt roundKeys (List.replicate 16 0))
  Aes.xor (digest h ciphertext) (Aes.encrypt roundKeys (counterBlock nonce 1))

def plaintextLimit : Nat := 1 <<< 36

def ciphertextLimit : Nat := plaintextLimit + 16

def encrypt (key : Digest) (nonce : Nonce) (plaintext : Bytes) : Option Bytes :=
  if plaintext.length ≤ plaintextLimit then
    let roundKeys := Aes.schedule key
    let ciphertext := crypt roundKeys nonce plaintext
    some (ciphertext ++ tag roundKeys nonce ciphertext)
  else none

def decrypt (key : Digest) (nonce : Nonce) (text : Bytes) : Option Bytes :=
  let n := text.length - 16
  let ciphertext := text.take n
  if 16 ≤ text.length ∧ n ≤ ciphertextLimit then
    let roundKeys := Aes.schedule key
    if text.drop n = tag roundKeys nonce ciphertext then
      some (crypt roundKeys nonce ciphertext)
    else none
  else none

end LedgerClient.Gcm
