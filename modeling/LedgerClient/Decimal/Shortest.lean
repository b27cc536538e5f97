import LedgerClient.Radix

/-! The shortest decimal that reads back as a given binary floating-point number. -/

namespace LedgerClient

structure Decimal where
  digits : List Nat
  exponent : Int
deriving DecidableEq

namespace Decimal

structure Ratio where
  num : Nat
  den : Nat

namespace Ratio

def scaled (n b : Nat) (e : Int) : Ratio :=
  if e < 0 then ⟨n, b.pow (-e).toNat⟩ else ⟨n * b.pow e.toNat, 1⟩

def div (a b : Ratio) : Ratio := ⟨a.num * b.den, a.den * b.num⟩

def le (a b : Ratio) : Bool := a.num * b.den ≤ b.num * a.den

def lt (a b : Ratio) : Bool := a.num * b.den < b.num * a.den

def floor (a : Ratio) : Nat := a.num / a.den

def magnitude (a : Ratio) : Int :=
  if a.den ≤ a.num then (Radix.digits 10 a.floor).length - 1
  else -((Radix.digits 10 ((a.den - 1) / a.num)).length : Int)

end Ratio

inductive Tie where
  | toEven
  | awayFromZero

def Tie.goesUp : Tie → (d : Nat) → Bool
  | toEven, d => d % 2 == 1
  | awayFromZero, _ => true

/-- The reals that round to one number: `value` and the ends of the interval around it. -/
structure Rounding where
  value : Ratio
  low : Ratio
  high : Ratio
  closed : Bool

namespace Rounding

def ofBinary (m : Nat) (q : Int) (atBoundary : Bool) : Rounding where
  value := Ratio.scaled m 2 q
  low := Ratio.scaled (4 * m - (if atBoundary then 1 else 2)) 2 (q - 2)
  high := Ratio.scaled (4 * m + 2) 2 (q - 2)
  closed := m % 2 == 0

def contains (r : Rounding) (a : Ratio) : Bool :=
  if r.closed then r.low.le a && a.le r.high else r.low.lt a && a.lt r.high

/-- The multiple of `10 ^ e` next to the value that lies in the interval, if one does: of two the
nearer. -/
def onGrid? (tie : Tie) (r : Rounding) (e : Int) : Option Nat :=
  let scaled := r.value.div (Ratio.scaled 1 10 e)
  let d := scaled.floor
  let below := r.contains (Ratio.scaled d 10 e)
  let above := r.contains (Ratio.scaled (d + 1) 10 e)
  let twice := 2 * (scaled.num - d * scaled.den)
  if below && above then
    some (if twice < scaled.den ∨ (twice = scaled.den ∧ !tie.goesUp d) then d else d + 1)
  else if below then some d
  else if above then some (d + 1)
  else none

def firstGrid (tie : Tie) : (fuel : Nat) → Rounding → (e : Int) → Nat × Int
  | 0, r, e => ((r.value.div (Ratio.scaled 1 10 e)).floor, e)
  | fuel + 1, r, e =>
    match r.onGrid? tie e with
    | some d => (d, e)
    | none => firstGrid tie fuel r (e - 1)

end Rounding

def trimZeros (ds : List Nat) : List Nat := (ds.reverse.dropWhile (· == 0)).reverse

def shortest (tie : Tie) (r : Rounding) : Decimal :=
  let (d, e) := Rounding.firstGrid tie 17 r r.value.magnitude
  let ds := Radix.digits 10 d
  ⟨trimZeros ds, e + (ds.length - 1)⟩

def ofFloat (tie : Tie) (x : Float) : Decimal :=
  let bits := x.toBits.toNat
  let field := (bits >>> 52) % 0x800
  let fraction := bits % (1 <<< 52)
  shortest tie <|
    if field = 0 then Rounding.ofBinary fraction (-1074) false
    else
      Rounding.ofBinary ((1 <<< 52) + fraction) (Int.ofNat field - 1075)
        (fraction == 0 && field != 1)

def digitChars (ds : List Nat) : List Char := ds.map fun d => Char.ofNat (48 + d)

def zeros (n : Nat) : List Char := List.replicate n '0'

def positional (whole : String) (a : Decimal) : String :=
  let ds := digitChars a.digits
  if a.exponent < 0 then
    "0." ++ String.ofList (zeros ((-a.exponent).toNat - 1) ++ ds)
  else
    let n := a.exponent.toNat + 1
    if ds.length ≤ n then String.ofList (ds ++ zeros (n - ds.length)) ++ whole
    else String.ofList (ds.take n) ++ "." ++ String.ofList (ds.drop n)

def scientific (a : Decimal) : String :=
  let ds := digitChars a.digits
  let fraction := if ds.length ≤ 1 then "" else "." ++ String.ofList (ds.drop 1)
  String.ofList (ds.take 1) ++ fraction ++ (if a.exponent < 0 then "e-" else "e+") ++
    a.exponent.natAbs.repr

end Decimal

def Float.sign (x : Float) : String := if x.toBits ≥ 0x8000000000000000 then "-" else ""

def Float.plain (x : Float) : String :=
  if x.isNaN then "NaN"
  else Float.sign x ++
    (if x.isInf then "inf" else if x == 0 then "0"
      else (Decimal.ofFloat .awayFromZero x).positional "")

/-- A finite number with a point or an exponent, the latter from `10 ^ 16` upwards and below
`10 ^ -5`. A tie goes to the even digit. -/
def Float.marked (x : Float) : String :=
  Float.sign x ++
    if x == 0 then "0.0"
    else
      let a := Decimal.ofFloat .toEven x
      if -5 ≤ a.exponent ∧ a.exponent ≤ 15 then a.positional ".0" else a.scientific

end LedgerClient
