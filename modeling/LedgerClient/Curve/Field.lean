namespace LedgerClient.Curve

def p : Nat := 0xfffffffffffffffffffffffffffffffffffffffffffffffffffffffefffffc2f

def order : Nat := 0xfffffffffffffffffffffffffffffffebaaedce6af48a03bbfd25e8cd0364141

instance : @NeZero Nat Zero.ofOfNat0 p := ⟨by decide⟩
instance : @NeZero Nat Zero.ofOfNat0 order := ⟨by decide⟩

abbrev Field := Fin p
abbrev Residue := Fin order

def power {m : Nat} (a : Fin m) (e : Nat) : Fin m :=
  (List.range 256).foldr (fun i r => if e.testBit i then r * r * a else r * r)
    ⟨1 % m, Nat.mod_lt 1 a.pos⟩

def inverse {m : Nat} (a : Fin m) : Fin m := power a (m - 2)

/-- A square root wherever there is one: `p` is 3 modulo 4. -/
def Field.root (a : Field) : Field := power a ((p + 1) / 4)

def Field.isOdd (a : Field) : Bool := a.val % 2 == 1

end LedgerClient.Curve
