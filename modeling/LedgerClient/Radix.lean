namespace LedgerClient.Radix

def value (base : Nat) (digits : List Nat) : Nat :=
  digits.foldl (fun n d => base * n + d) 0

def digitsOnto (base : Nat) : (fuel n : Nat) → (tail : List Nat) → List Nat
  | 0, _, tail => tail
  | fuel + 1, n, tail =>
    if n = 0 then tail else digitsOnto base fuel (n / base) (n % base :: tail)

def digits (base n : Nat) : List Nat :=
  digitsOnto base (n.log2 + 1) n []

end LedgerClient.Radix
