import LedgerClient.Curve.Scalar
import LedgerClient.Text.Versioned

namespace LedgerClient

open Curve

structure Address where
  point : Point
deriving DecidableEq

namespace Address

def version : UInt8 := 0x42

def size : Nat := 33

def parityByte (odd : Bool) : UInt8 := if odd then 3 else 2

def toBytes (a : Address) : Bytes.Exact size :=
  ⟨parityByte a.point.y.isOdd :: Bytes.bigEndian 32 a.point.x.val, by simp [size]⟩

def decompress? (odd : Bool) (b : Bytes) : Option Point :=
  let x := Bytes.toNat b
  if h : x < p then Point.recover? odd ⟨x, h⟩ else none

def ofBytes (b : Bytes) : Except EncodingError Address :=
  match b with
  | [] => .error (.invalidLength size 0)
  | parity :: rest =>
    if (parity :: rest).length ≠ size then .error (.invalidLength size (parity :: rest).length)
    else if parity ≠ 2 ∧ parity ≠ 3 then .error (.malformed (.parityByte parity))
    else
      match decompress? (parity = 3) rest with
      | none => .error (.malformed .notOnCurve)
      | some point => .ok ⟨point⟩

def encode (a : Address) : String := Versioned.encode version a.toBytes.val

def decode (text : String) : Except EncodingError Address := do
  ofBytes (← Versioned.decodeExact version size text).val

def lt (a b : Address) : Bool := Bytes.lt a.toBytes.val b.toBytes.val

def sort (as : List Address) : List Address := as.mergeSort fun a b => !b.lt a

def sorted (as : List Address) : List Address := sort as.eraseDups

def describe (a : Address) : String := "AccountAddress(" ++ a.encode ++ ")"

def ofSecret (secret : Scalar) : Address := ⟨secret.publicPoint⟩

end Address

end LedgerClient
