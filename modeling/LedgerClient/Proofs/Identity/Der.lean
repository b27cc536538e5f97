import LedgerClient.Identity.Der
import LedgerClient.Proofs.Bytes

/-! The distinguished encoding: of the forms that a number has in two's complement the shortest one,
and of two numbers one encoding, which alone is read. -/

namespace LedgerClient

namespace Der

inductive Denotes (n : ℕ) : Bytes → Prop
  | mk {b : UInt8} {rest : Bytes} (sign : b < 0x80) (value : Bytes.toNat (b :: rest) = n) :
      Denotes n (b :: rest)

structure Shortest (n : ℕ) (c : Bytes) : Prop where
  denotes : Denotes n c
  length_le {d : Bytes} (h : Denotes n d) : c.length ≤ d.length

inductive Distinguished (r s : ℕ) : Bytes → Prop
  | mk {c d : Bytes} (first : Shortest r c) (second : Shortest s d)
      (short : c.length + d.length + 4 < 128) :
      Distinguished r s (0x30 :: UInt8.ofNat (c.length + d.length + 4) ::
        0x02 :: UInt8.ofNat c.length :: (c ++ 0x02 :: UInt8.ofNat d.length :: d))

variable {n r s k : ℕ} {b c d rest : Bytes} {x : UInt8}

lemma content_cases (n : ℕ) :
    (n = 0 ∧ content n = [0]) ∨
      (∃ x rest, x ≠ 0 ∧ x < 0x80 ∧ Bytes.minimal n = x :: rest ∧ content n = x :: rest) ∨
      ∃ x rest, ¬ x < 0x80 ∧ Bytes.minimal n = x :: rest ∧ content n = 0 :: x :: rest := by
  unfold content
  split
  · rename_i h
    exact .inl ⟨Bytes.minimal_eq_nil.1 h, rfl⟩
  · rename_i x rest h
    by_cases hx : x < 0x80
    · rw [if_pos hx]
      exact .inr (.inl ⟨x, rest, Bytes.head_minimal h, hx, h, rfl⟩)
    · rw [if_neg hx]
      exact .inr (.inr ⟨x, rest, hx, h, rfl⟩)

lemma denotes_content (n : ℕ) : Denotes n (content n) := by
  rcases content_cases n with ⟨rfl, hc⟩ | ⟨x, rest, -, hx, hm, hc⟩ | ⟨x, rest, -, hm, hc⟩
  · rw [hc]
    exact .mk (by decide) rfl
  · rw [hc]
    exact .mk hx (by rw [← hm, Bytes.toNat_minimal])
  · rw [hc]
    refine .mk (by decide) ?_
    rw [← hm]
    exact (Bytes.toNat_replicate_append 1 _).trans (Bytes.toNat_minimal n)

lemma Denotes.value (h : Denotes n c) : Bytes.toNat c = n := by
  cases h
  assumption

lemma Denotes.head (h : Denotes n (x :: rest)) : x < 0x80 := by
  cases h
  assumption

lemma denotes_iff : Denotes n c ↔ ∃ k, c = List.replicate k 0 ++ content n := by
  constructor
  · intro h
    obtain ⟨k, hk⟩ := Bytes.exists_zeros c
    rw [h.value] at hk
    rcases content_cases n with ⟨rfl, hc⟩ | ⟨x, rest, -, -, hm, hc⟩ | ⟨x, rest, hx, hm, hc⟩
    · cases k with
      | zero =>
        subst hk
        cases h
      | succ k => exact ⟨k, by rw [hk, hc, List.replicate_succ']; simp [Bytes.minimal_eq_nil.2 rfl]⟩
    · exact ⟨k, by rw [hk, hm, hc]⟩
    · cases k with
      | zero =>
        rw [hk, hm] at h
        exact absurd h.head hx
      | succ k => exact ⟨k, by rw [hk, hm, hc, List.replicate_succ', List.append_assoc]; rfl⟩
  · rintro ⟨k, rfl⟩
    have hd := denotes_content n
    cases k with
    | zero => exact hd
    | succ k => exact .mk (by decide) ((Bytes.toNat_replicate_append (k + 1) _).trans hd.value)

lemma shortest_iff : Shortest n c ↔ c = content n := by
  constructor
  · intro h
    obtain ⟨k, rfl⟩ := denotes_iff.1 h.denotes
    have hl := h.length_le (denotes_content n)
    rw [List.length_append, List.length_replicate] at hl
    obtain rfl : k = 0 := by omega
    rfl
  · rintro rfl
    refine ⟨denotes_content n, fun h => ?_⟩
    obtain ⟨k, rfl⟩ := denotes_iff.1 h
    simp

lemma length_integers (r s : ℕ) :
    (integer r ++ integer s).length = (content r).length + (content s).length + 4 := by
  simp [integer]
  omega

lemma eq_content_of_number? (h : number? b = some n) : b = content n := by
  unfold number? at h
  split at h
  · cases h
  · rename_i a
    obtain ⟨ha, h⟩ := Option.ite_none_right_eq_some.1 h
    cases h
    refine shortest_iff.1 ⟨.mk ha (Bytes.toNat_singleton a), fun hd => ?_⟩
    cases hd
    simp
  · rename_i a c rest
    obtain ⟨hn, h⟩ := Option.ite_none_left_eq_some.1 h
    cases h
    obtain ⟨hsign, hzero⟩ := not_or.1 hn
    obtain ⟨k, hk⟩ := denotes_iff.1 (.mk (UInt8.not_le.1 hsign) rfl)
    cases k with
    | zero => exact hk
    | succ k =>
      -- A zero in front of another form is the second thing that is refused.
      obtain ⟨rfl, hrest⟩ := List.cons.inj hk
      exact absurd ⟨rfl, (denotes_iff.2 ⟨k, hrest⟩).head⟩ hzero

lemma number?_of_shortest (h : Shortest n b) : number? b = some n := by
  obtain ⟨hd, hs⟩ := h
  unfold number?
  split
  · cases hd
  · rename_i a
    rw [if_pos hd.head]
    rw [← hd.value, Bytes.toNat_singleton]
  · rename_i a c rest
    rw [if_neg, hd.value]
    rintro (hsign | ⟨rfl, hc⟩)
    · exact absurd hd.head (UInt8.not_lt.2 hsign)
    · have := hs (.mk hc hd.value)
      simp at this

lemma number?_eq_some : number? b = some n ↔ b = content n :=
  ⟨eq_content_of_number?, fun h => number?_of_shortest (shortest_iff.2 h)⟩

lemma integer?_eq_some :
    integer? b = some (n, rest) ↔ (content n).length < 128 ∧ b = integer n ++ rest := by
  constructor
  · intro h
    unfold integer? at h
    split at h
    · rename_i length t
      obtain ⟨⟨hlt, hle⟩, h⟩ := Option.ite_none_right_eq_some.1 h
      obtain ⟨value, hv, h⟩ := Option.bind_eq_some_iff.1 h
      cases h
      have hc := number?_eq_some.1 hv
      have hl : (content n).length = length.toNat := by rw [← hc, List.length_take_of_le hle]
      refine ⟨hl ▸ hlt, ?_⟩
      rw [integer, hl, ← hc, UInt8.ofNat_toNat]
      simp
    · cases h
  · rintro ⟨hlt, rfl⟩
    have hn : (UInt8.ofNat (content n).length).toNat = (content n).length :=
      UInt8.toNat_ofNat_of_lt' (hlt.trans (by decide))
    simp only [integer, List.cons_append, integer?, hn]
    rw [if_pos ⟨hlt, by simp⟩, List.take_left, List.drop_left, number?_eq_some.2 rfl]
    rfl

lemma decode?_eq_some :
    decode? b = some (r, s) ↔ (integer r ++ integer s).length < 128 ∧ b = encode r s := by
  constructor
  · intro h
    unfold decode? at h
    split at h
    · rename_i length body
      obtain ⟨⟨hl, hlt⟩, h⟩ := Option.ite_none_right_eq_some.1 h
      obtain ⟨⟨r', rest⟩, hr, h⟩ := Option.bind_eq_some_iff.1 h
      obtain ⟨⟨s', rest'⟩, hs, h⟩ := Option.bind_eq_some_iff.1 h
      obtain ⟨rfl, h⟩ := Option.ite_none_right_eq_some.1 h
      cases h
      obtain ⟨-, rfl⟩ := integer?_eq_some.1 hr
      obtain ⟨-, rfl⟩ := integer?_eq_some.1 hs
      rw [List.append_nil] at hl hlt ⊢
      exact ⟨hlt, by rw [encode, ← hl, UInt8.ofNat_toNat]⟩
    · cases h
  · rintro ⟨hlt, rfl⟩
    have hn : (UInt8.ofNat (integer r ++ integer s).length).toNat = (integer r ++ integer s).length :=
      UInt8.toNat_ofNat_of_lt' (hlt.trans (by decide))
    have hlength := length_integers r s
    have hr : integer? (integer r ++ integer s) = some (r, integer s) :=
      integer?_eq_some.2 ⟨by omega, rfl⟩
    have hs : integer? (integer s) = some (s, []) :=
      integer?_eq_some.2 ⟨by omega, (List.append_nil _).symm⟩
    simp only [encode, decode?, hn]
    rw [if_pos ⟨trivial, hlt⟩, hr]
    simp only [Option.bind_eq_bind, Option.bind_some, hs, if_true]

lemma distinguished_iff :
    Distinguished r s b ↔ (integer r ++ integer s).length < 128 ∧ b = encode r s := by
  have hlength := length_integers r s
  constructor
  · rintro @⟨c, d, first, second, short⟩
    obtain rfl := shortest_iff.1 first
    obtain rfl := shortest_iff.1 second
    exact ⟨hlength ▸ short, by rw [encode, hlength]; rfl⟩
  · rintro ⟨hlt, rfl⟩
    rw [encode, hlength]
    exact .mk (shortest_iff.2 rfl) (shortest_iff.2 rfl) (hlength ▸ hlt)

end Der

end LedgerClient
