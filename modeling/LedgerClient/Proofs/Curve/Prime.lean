import LedgerClient.Curve.Field
import Mathlib

/-! The order of the field is a prime, and so is that of the group: powers of a primitive root show
it. -/

namespace LedgerClient.Curve

variable {m : ℕ} (a : Fin m) (e : ℕ)

lemma mod_two_pow_succ (k n : ℕ) : k % 2 ^ (n + 1) = 2 ^ n * (k.testBit n).toNat + k % 2 ^ n := by
  rw [Nat.mod_pow_succ, Nat.toNat_testBit, Nat.add_comm]

lemma foldr_power (n : ℕ) (r : Fin m) :
    ((List.range n).foldr (fun i r => if e.testBit i then r * r * a else r * r) r).val ≡
      r.val ^ 2 ^ n * a.val ^ (e % 2 ^ n) [MOD m] := by
  induction n generalizing r with
  | zero => simp [Nat.mod_one, Nat.ModEq.refl]
  | succ n ih =>
    -- The highest bit is folded in first.
    rw [List.range_succ, List.foldr_append, List.foldr_cons, List.foldr_nil]
    refine (ih _).trans ?_
    have hr : (if e.testBit n then r * r * a else r * r).val ≡
        r.val ^ 2 * a.val ^ (e.testBit n).toNat [MOD m] := by
      have hs : (r * r).val ≡ r.val ^ 2 [MOD m] := by
        rw [pow_two, Fin.val_mul]
        exact Nat.mod_modEq _ _
      cases e.testBit n with
      | false => simpa using hs
      | true =>
        have hm : (r * r * a).val ≡ (r * r).val * a.val [MOD m] := by
          rw [Fin.val_mul]
          exact Nat.mod_modEq _ _
        simpa using hm.trans (hs.mul_right _)
    refine ((hr.pow _).mul_right _).trans ?_
    rw [mod_two_pow_succ, mul_pow, ← pow_mul, ← pow_mul, ← pow_succ', mul_comm (e.testBit n).toNat, mul_assoc,
      ← pow_add]

lemma power_val {e : ℕ} (he : e < 2 ^ 256) : (power a e).val = a.val ^ e % m := by
  have h := foldr_power a e 256 ⟨1 % m, Nat.mod_lt 1 a.pos⟩
  have h₁ : (1 % m) ^ 2 ^ 256 ≡ 1 [MOD m] :=
    ((Nat.mod_modEq 1 m).pow (2 ^ 256)).trans (by rw [one_pow])
  rw [Nat.mod_eq_of_lt he] at h
  have hh := h.trans (h₁.mul_right _)
  rw [one_mul] at hh
  exact (Nat.mod_eq_of_lt (power a e).isLt).symm.trans hh

lemma zmod_pow_eq_one_iff {n : ℕ} (hn : 1 < n) (a e : ℕ) :
    (a : ZMod n) ^ e = 1 ↔ a ^ e % n = 1 := by
  rw [← Nat.cast_pow, ← Nat.cast_one, ZMod.natCast_eq_natCast_iff', Nat.mod_eq_of_lt hn]

lemma prime_of_power {n a : ℕ} (h : a < n) (hn : n < 2 ^ 256) (factors : List ℕ)
    (hf : ∀ q ∈ factors, q.Prime) (hp : factors.prod = n - 1)
    (h₁ : (power ⟨a, h⟩ (n - 1) : Fin n).val = 1)
    (hq : ∀ q ∈ factors, (power ⟨a, h⟩ ((n - 1) / q) : Fin n).val ≠ 1) : n.Prime := by
  have hn₁ : 1 < n := h₁ ▸ (power ⟨a, h⟩ (n - 1) : Fin n).isLt
  have he : n - 1 < 2 ^ 256 := by omega
  refine lucas_primality n a ?_ ?_
  · rwa [zmod_pow_eq_one_iff hn₁, ← power_val ⟨a, h⟩ he]
  · intro q hq' hd
    rw [← hp, hq'.prime.dvd_prod_iff] at hd
    obtain ⟨q', hm, hd⟩ := hd
    obtain rfl := (Nat.prime_dvd_prime_iff_eq hq' (hf q' hm)).1 hd
    rw [Ne, zmod_pow_eq_one_iff hn₁, ← power_val ⟨a, h⟩ ((Nat.div_le_self _ _).trans_lt he)]
    exact hq q hm

structure Certificate where
  prime : ℕ
  root : ℕ
  factors : List ℕ

namespace Certificate

structure Holds (c : Certificate) : Prop where
  root_lt : c.root < c.prime
  prime_lt : c.prime < 2 ^ 256
  prod : c.factors.prod = c.prime - 1
  power : ∀ h : c.root < c.prime, (Curve.power ⟨c.root, h⟩ (c.prime - 1)).val = 1 ∧
    ∀ q ∈ c.factors, (Curve.power ⟨c.root, h⟩ ((c.prime - 1) / q)).val ≠ 1

def Chain : List ℕ → List Certificate → Prop
  | _, [] => True
  | known, c :: cs => (∀ q ∈ c.factors, q ∈ known) ∧ c.Holds ∧ Chain (c.prime :: known) cs

lemma Holds.prime {c : Certificate} (h : c.Holds) (hf : ∀ q ∈ c.factors, q.Prime) :
    c.prime.Prime :=
  prime_of_power h.root_lt h.prime_lt c.factors hf h.prod (h.power h.root_lt).1
    (h.power h.root_lt).2

lemma Chain.prime {known : List ℕ} {cs : List Certificate} (h : Chain known cs)
    (hk : ∀ q ∈ known, q.Prime) : ∀ c ∈ cs, c.prime.Prime := by
  induction cs generalizing known with
  | nil => simp
  | cons c cs ih =>
    obtain ⟨hf, hc, hcs⟩ := h
    have hp := hc.prime fun q hq => hk q (hf q hq)
    exact List.forall_mem_cons.2 ⟨hp, ih hcs (List.forall_mem_cons.2 ⟨hp, hk⟩)⟩

instance (c : Certificate) : Decidable c.Holds :=
  decidable_of_iff (c.root < c.prime ∧ c.prime < 2 ^ 256 ∧ c.factors.prod = c.prime - 1 ∧
      ∀ h : c.root < c.prime, (Curve.power ⟨c.root, h⟩ (c.prime - 1)).val = 1 ∧
        ∀ q ∈ c.factors, (Curve.power ⟨c.root, h⟩ ((c.prime - 1) / q)).val ≠ 1)
    ⟨fun ⟨h₁, h₂, h₃, h₄⟩ => ⟨h₁, h₂, h₃, h₄⟩, fun ⟨h₁, h₂, h₃, h₄⟩ => ⟨h₁, h₂, h₃, h₄⟩⟩

instance : ∀ known cs, Decidable (Chain known cs)
  | _, [] => .isTrue trivial
  | known, c :: cs =>
    have : Decidable (Chain (c.prime :: known) cs) := instDecidableChain (c.prime :: known) cs
    inferInstanceAs (Decidable ((∀ q ∈ c.factors, q ∈ known) ∧ c.Holds ∧ Chain (c.prime :: known) cs))

def ofField : List Certificate :=
  [⟨1206781, 10, [2, 2, 3, 5, 20113]⟩,
    ⟨7240687, 3, [2, 3, 1206781]⟩,
    ⟨13331831, 13, [2, 5, 971, 1373]⟩,
    ⟨107590001, 3, [2, 2, 2, 2, 5, 5, 5, 5, 7, 29, 53]⟩,
    ⟨173378833005251801, 6, [2, 2, 2, 5, 5, 2621, 24809, 13331831]⟩,
    ⟨22149492674086928081353, 5, [2, 2, 2, 3, 5323, 173378833005251801]⟩,
    ⟨132896956044521568488119, 6, [2, 3, 22149492674086928081353]⟩,
    ⟨255515944373312847190720520512484175977, 3,
      [2, 2, 2, 7, 7, 11, 1627, 2657, 4423, 41201, 96557, 7240687, 107590001]⟩,
    ⟨205115282021455665897114700593932402728804164701536103180137503955397371, 10,
      [2, 3, 5, 29, 29, 31, 7723, 132896956044521568488119,
        255515944373312847190720520512484175977]⟩,
    ⟨p, 3, [2, 3, 7, 13441,
      205115282021455665897114700593932402728804164701536103180137503955397371]⟩]

def ofOrder : List Certificate :=
  [⟨1627771, 3, [2, 3, 5, 29, 1871]⟩,
    ⟨4681609, 23, [2, 2, 2, 3, 97, 2011]⟩,
    ⟨44706919, 6, [2, 3, 797, 9349]⟩,
    ⟨545358713, 5, [2, 2, 2, 41, 59, 28181]⟩,
    ⟨297159362677, 2, [2, 2, 3, 3, 11, 461, 1627771]⟩,
    ⟨107361793816595537, 3, [2, 2, 2, 2, 16699, 85831, 4681609]⟩,
    ⟨174723607534414371449, 3, [2, 2, 2, 17, 59, 4051, 120233, 44706919]⟩,
    ⟨29047611873442575647497758179, 2, [2, 293, 305873, 545358713, 297159362677]⟩,
    ⟨341948486974166000522343609283189, 2, [2, 2, 3, 3, 3, 109, 29047611873442575647497758179]⟩,
    ⟨order, 7, [2, 2, 2, 2, 2, 2, 3, 149, 631, 107361793816595537, 174723607534414371449,
      341948486974166000522343609283189]⟩]

def small : List ℕ :=
  [2, 3, 5, 7, 11, 17, 29, 31, 41, 53, 59, 97, 109, 149, 293, 461, 631, 797, 971, 1373, 1627, 1871,
    2011, 2621, 2657, 4051, 4423, 5323, 7723, 9349, 13441, 16699, 20113, 24809, 28181, 41201, 85831,
    96557, 120233, 305873]

lemma prime_of_mem_small : ∀ q ∈ small, q.Prime := by
  simp only [small, List.forall_mem_cons]
  norm_num

end Certificate

theorem prime_p : p.Prime := by
  have h : Certificate.Chain Certificate.small Certificate.ofField := by decide +kernel
  exact h.prime Certificate.prime_of_mem_small ⟨p, _, _⟩ (List.getLast_mem (List.cons_ne_nil _ _))

theorem prime_order : order.Prime := by
  have h : Certificate.Chain Certificate.small Certificate.ofOrder := by decide +kernel
  exact h.prime Certificate.prime_of_mem_small ⟨order, _, _⟩
    (List.getLast_mem (List.cons_ne_nil _ _))

end LedgerClient.Curve
