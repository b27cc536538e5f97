import LedgerClient.Json.Text

namespace LedgerClient.Json

inductive Number where
  | natural (n : Nat)
  | negative (n : Nat)
  | float (x : Float)

namespace Number

def found : Number → Found
  | natural n => .integer n
  | negative n => .integer (-n)
  | float x => .float x

def digitValue (c : Char) : Nat := c.toNat - 48

def accumulate : (significand : Nat) → List Char → Nat × Nat
  | n, [] => (n, 0)
  | n, d :: ds =>
    let m := 10 * n + digitValue d
    if m < UInt64.size then accumulate m ds else (n, (d :: ds).length)

/-- The product of `x` and a power of ten, taken in steps of at most 308. Overflow has no value. -/
def scale? : (fuel : Nat) → (x : Float) → (e : Int) → Option Float
  | 0, x, _ => some x
  | fuel + 1, x, e =>
    if e.natAbs ≤ 308 then
      let power := Float.ofScientific 1 false e.natAbs
      if e < 0 then some (x / power)
      else if (x * power).isInf then none else some (x * power)
    else if x == 0 then some x
    else if e < 0 then scale? fuel (x / 1e308) (e + 308)
    else none

def ofParts (negative : Bool) (significand : Nat) (e : Int) : Except Fault Number :=
  match scale? 4 (UInt64.ofNat significand).toFloat e with
  | none => .error .illFormed
  | some x => .ok (.float (if negative then -x else x))

def withExponent (negative : Bool) (significand : Nat) (e : Int) : Reader Number := fun cs =>
  let (down, unsignedPart) :=
    match cs with
    | '+' :: rest => (false, rest)
    | '-' :: rest => (true, rest)
    | rest => (false, rest)
  match unsignedPart with
  | [] => .error .truncated
  | d :: _ =>
    if !d.isDigit then .error .illFormed
    else do
      let ds := unsignedPart.takeWhile Char.isDigit
      let rest := unsignedPart.dropWhile Char.isDigit
      let n := Radix.value 10 (ds.map digitValue)
      if n < 0x80000000 then
        .ok (← ofParts negative significand (if down then e - n else e + n), rest)
      else if significand ≠ 0 ∧ !down then .error .illFormed
      else .ok (← ofParts negative 0 0, rest)

def afterDigits (negative : Bool) (significand : Nat) (e : Int) : Reader Number := fun cs =>
  match cs with
  | 'e' :: rest => withExponent negative significand e rest
  | 'E' :: rest => withExponent negative significand e rest
  | _ => (ofParts negative significand e).map (·, cs)

def withFraction (negative : Bool) (significand : Nat) (e : Int) : Reader Number := fun cs =>
  match cs.takeWhile Char.isDigit with
  | [] => .error (if cs.isEmpty then .truncated else .illFormed)
  | ds =>
    let (n, left) := accumulate significand ds
    afterDigits negative n (e - (ds.length - left : Nat)) (cs.dropWhile Char.isDigit)

def whole (negative : Bool) (n : Nat) : Number :=
  if negative then
    if n = 0 ∨ 0x8000000000000000 < n then .float (-(UInt64.ofNat n).toFloat) else .negative n
  else .natural n

def afterWhole (negative : Bool) (n dropped : Nat) : Reader Number := fun cs =>
  match cs with
  | '.' :: rest => withFraction negative n dropped rest
  | 'e' :: _ => afterDigits negative n dropped cs
  | 'E' :: _ => afterDigits negative n dropped cs
  | _ => if dropped = 0 then .ok (whole negative n, cs) else (ofParts negative n dropped).map (·, cs)

def integerPart : Reader (List Char) := fun cs =>
  match cs with
  | [] => .error .truncated
  | '0' :: rest =>
    match rest with
    | d :: _ => if d.isDigit then .error .illFormed else .ok (['0'], rest)
    | [] => .ok (['0'], rest)
  | d :: _ =>
    if d.isDigit then .ok (cs.takeWhile Char.isDigit, cs.dropWhile Char.isDigit)
    else .error .illFormed

def read (negative : Bool) : Reader Number := do
  let (n, dropped) := accumulate 0 (← integerPart)
  afterWhole negative n dropped

def readWide : Reader Nat := fun cs =>
  match integerPart cs with
  | .error _ => .error .illFormed
  | .ok (ds, rest) => .ok (Radix.value 10 (ds.map digitValue), rest)

def skipDigits : Reader Unit := fun cs =>
  match cs with
  | [] => .error .illFormed
  | d :: rest => if d.isDigit then .ok ((), rest.dropWhile Char.isDigit) else .error .illFormed

def skipExponent : Reader Unit := fun cs =>
  match cs with
  | '+' :: rest => skipDigits rest
  | '-' :: rest => skipDigits rest
  | _ => skipDigits cs

def skipSuffix : Reader Unit := fun cs =>
  match cs with
  | 'e' :: rest => skipExponent rest
  | 'E' :: rest => skipExponent rest
  | _ => .ok ((), cs)

def skip : Reader Unit := fun cs =>
  match integerPart cs with
  | .error _ => .error .illFormed
  | .ok (_, '.' :: rest) => do
    let (_, rest) ← skipDigits rest
    skipSuffix rest
  | .ok (_, rest) => skipSuffix rest

end Number

end LedgerClient.Json
