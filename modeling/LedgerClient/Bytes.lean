import LedgerClient.Radix

namespace LedgerClient

abbrev Bytes := List UInt8

namespace Bytes

abbrev Exact (n : Nat) := {b : Bytes // b.length = n}

def littleEndian : (width n : Nat) → Bytes
  | 0, _ => []
  | width + 1, n => UInt8.ofNat n :: littleEndian width (n / 256)

def bigEndian (width n : Nat) : Bytes := (littleEndian width n).reverse

def toNat (b : Bytes) : Nat := Radix.value 256 (b.map UInt8.toNat)

def minimal (n : Nat) : Bytes := (Radix.digits 256 n).map UInt8.ofNat

@[simp] theorem length_littleEndian (width n : Nat) : (littleEndian width n).length = width := by
  induction width generalizing n with
  | zero => rfl
  | succ width ih => simp [littleEndian, ih]

@[simp] theorem length_bigEndian (width n : Nat) : (bigEndian width n).length = width := by
  simp [bigEndian]

def padLeft (width : Nat) (b : Bytes) : Bytes := List.replicate (width - b.length) 0 ++ b

theorem length_padLeft {width : Nat} {b : Bytes} (h : b.length ≤ width) :
    (padLeft width b).length = width := by
  simp [padLeft, h]

def ofText (s : String) : Bytes := s.toUTF8.toList

def toText? (b : Bytes) : Option String := String.fromUTF8? ⟨b.toArray⟩

def lt : Bytes → Bytes → Bool
  | _, [] => false
  | [], _ :: _ => true
  | a :: as, b :: bs => a < b || (a == b && lt as bs)

end Bytes

end LedgerClient
