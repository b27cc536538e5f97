import LedgerClient.Digest.Sha256

namespace LedgerClient.Aes

def double (a : UInt8) : UInt8 := (a <<< 1) ^^^ (if a < 0x80 then 0 else 0x1b)

def mul (a b : UInt8) : UInt8 :=
  (List.range 8).foldr (fun i r => double r ^^^ (if b.toNat.testBit i then a else 0)) 0

def inverse (a : UInt8) : UInt8 :=
  (List.range 7).foldl (fun r _ => let s := mul r a; mul s s) 1

def rotl (a n : UInt8) : UInt8 := (a <<< n) ||| (a >>> (8 - n))

def substitutions : Array UInt8 :=
  Array.ofFn fun i : Fin 256 =>
    let a := inverse (UInt8.ofNat i)
    a ^^^ rotl a 1 ^^^ rotl a 2 ^^^ rotl a 3 ^^^ rotl a 4 ^^^ 0x63

def substitute (b : Bytes) : Bytes := b.map fun x => substitutions.getD x.toNat 0

def shiftRows (b : Bytes) : Bytes :=
  [0, 5, 10, 15, 4, 9, 14, 3, 8, 13, 2, 7, 12, 1, 6, 11].map fun i => b.getD i 0

def mixColumns : Bytes → Bytes
  | a :: b :: c :: d :: rest =>
    (double a ^^^ double b ^^^ b ^^^ c ^^^ d) :: (a ^^^ double b ^^^ double c ^^^ c ^^^ d) ::
      (a ^^^ b ^^^ double c ^^^ double d ^^^ d) :: (double a ^^^ a ^^^ b ^^^ c ^^^ double d) ::
        mixColumns rest
  | _ => []

def xor (a b : Bytes) : Bytes := a.zipWith (· ^^^ ·) b

def nextWord (w : Array Bytes) : Bytes :=
  let i := w.size
  let last := w.getD (i - 1) []
  let turned :=
    if i % 8 = 0 then
      xor (substitute (last.drop 1 ++ last.take 1)) [1 <<< UInt8.ofNat (i / 8 - 1), 0, 0, 0]
    else if i % 8 = 4 then substitute last
    else last
  xor (w.getD (i - 8) []) turned

def schedule (key : Digest) : List Bytes :=
  let start := Array.ofFn fun i : Fin 8 => (key.val.drop (4 * i)).take 4
  let words := (List.range 52).foldl (fun w _ => w.push (nextWord w)) start
  (List.range 15).map fun r => (words.toList.drop (4 * r)).take 4 |>.flatten

def encrypt (roundKeys : List Bytes) (block : Bytes) : Bytes :=
  match roundKeys with
  | [] => block
  | first :: rest =>
    let whitened := xor block first
    let mixed := rest.dropLast.foldl
      (fun b k => xor (mixColumns (shiftRows (substitute b))) k) whitened
    xor (shiftRows (substitute mixed)) (rest.getLastD [])

end LedgerClient.Aes
