import LedgerClient.Curve.Field

/-! Points of `y² = x³ + 7`, their recovery from an abscissa and a parity, and their multiples. -/

namespace LedgerClient.Curve

structure Point where
  x : Field
  y : Field
  onCurve : y * y = x * x * x + 7
deriving DecidableEq

namespace Point

def base : Point where
  x := Fin.ofNat p 0x79be667ef9dcbbac55a06295ce870b07029bfcdb2dce28d959f2815b16f81798
  y := Fin.ofNat p 0x483ada7726a3c4655da4fbfc0e1108a8fd17b448a68554199c47d08ffb10d4b8
  onCurve := by decide +kernel

def ofCoordinates? (x y : Field) : Option Point :=
  if h : y * y = x * x * x + 7 then some ⟨x, y, h⟩ else none

def recover? (odd : Bool) (x : Field) : Option Point :=
  let y := Field.root (x * x * x + 7)
  ofCoordinates? x (if Field.isOdd y = odd then y else -y)

end Point

/-- A point in Jacobian coordinates `(X/Z², Y/Z³)`; the point at infinity has `Z = 0`. -/
structure Jacobian where
  x : Field
  y : Field
  z : Field

namespace Jacobian

def infinity : Jacobian := ⟨1, 1, 0⟩

def ofPoint (a : Point) : Jacobian := ⟨a.x, a.y, 1⟩

def toPoint? (a : Jacobian) : Option Point :=
  if a.z = 0 then none
  else
    let i := inverse a.z
    let ii := i * i
    Point.ofCoordinates? (a.x * ii) (a.y * (ii * i))

def double (a : Jacobian) : Jacobian :=
  let yy := a.y * a.y
  let s := 4 * (a.x * yy)
  let m := 3 * (a.x * a.x)
  let x := m * m - 2 * s
  ⟨x, m * (s - x) - 8 * (yy * yy), 2 * (a.y * a.z)⟩

def add (a b : Jacobian) : Jacobian :=
  if a.z = 0 then b
  else if b.z = 0 then a
  else
    let za := a.z * a.z
    let zb := b.z * b.z
    let u := a.x * zb
    let h := b.x * za - u
    let s := a.y * (zb * b.z)
    let r := b.y * (za * a.z) - s
    if h = 0 then if r = 0 then a.double else infinity
    else
      let hh := h * h
      let hhh := hh * h
      let v := u * hh
      let x := r * r - hhh - 2 * v
      ⟨x, r * (v - x) - s * hhh, h * (a.z * b.z)⟩

def mul (k : Nat) (a : Jacobian) : Jacobian :=
  (List.range 256).foldr
    (fun i r => if k.testBit i then r.double.add a else r.double) infinity

end Jacobian

end LedgerClient.Curve
