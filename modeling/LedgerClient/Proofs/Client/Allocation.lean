import LedgerClient.Client.Nonces
import LedgerClient.Proofs.Client.Course
import LedgerClient.Proofs.Client.NonceBook

namespace LedgerClient.Nonces

open NonceBook

variable {s s' : Client} {ms : List Moment} {a : Address} {k : SlotRef} {n base : Nonce}

lemma eq_of_next? {m : Nonce} (h : n.next? = some m) : m = n + 1 ∧ m.toNat = n.toNat + 1 := by
  unfold Nonce.next? at h
  split at h
  · rename_i hlt
    obtain rfl := Option.some.inj h
    refine ⟨rfl, ?_⟩
    rw [UInt64.toNat_add]
    exact Nat.mod_eq_of_lt hlt
  · cases h

lemma course_modifyBook {f : NonceBook → NonceBook} {u : Unit} :
    Task.Course (modifyBook f) s ms u s' ↔ ms = [] ∧ s' = s.mapNonces f :=
  Task.course_modify

lemma course_awaitTurn {u : Unit} :
    Task.Course (awaitTurn k) s ms u s' ↔
      (s.nonces.find k).held = false ∧ ms = [] ∧ s' = s ∨
        (s.nonces.find k).held = true ∧ ms = [⟨.turn k, s, (), s'⟩] := by
  cases h : (s.nonces.find k).held with
  | false =>
    have ht : awaitTurn k s = (pure () : Task Unit) s := by simp [awaitTurn, h]; rfl
    simpa [Task.Course, ht] using Task.course_pure (a := ()) (b := u)
  | true =>
    have ht : awaitTurn k s = Task.call (.turn k) s := by simp [awaitTurn, h]
    simpa [Task.Course, ht] using Task.course_call (c := .turn k) (a := u)

lemma find_touched : (s.mapNonces (·.touch a)).nonces.find (s.nonces.ref a) = s.nonces.slot a := by
  have hc : (s.mapNonces (·.touch a)).nonces.Current (s.nonces.ref a) := current_ref.touch
  exact hc.find_eq.trans (slot_touch _)

lemma course_acquire :
    Task.Course (acquire a) s ms k s' ↔ k = s.nonces.ref a ∧
      ((s.nonces.slot a).held = false ∧ ms = [] ∧ s' = s.mapNonces (·.touch a) ∨
        (s.nonces.slot a).held = true ∧
          ms = [⟨.turn (s.nonces.ref a), s.mapNonces (·.touch a), (), s'⟩]) := by
  have hr : (s.mapNonces (·.touch a)).nonces.ref a = s.nonces.ref a := ref_touch _
  constructor
  · intro h
    obtain ⟨ms₁, _, s₁, ms₂, rfl, h₁, h₂⟩ := Task.course_bind.1 h
    obtain ⟨rfl, rfl⟩ := course_modifyBook.1 h₁
    obtain ⟨ms₃, _, s₂, ms₄, rfl, h₃, h₄⟩ := Task.course_bind.1 h₂
    obtain ⟨rfl, rfl, rfl⟩ := Task.course_get.1 h₃
    obtain ⟨ms₅, _, s₃, ms₆, rfl, h₅, h₆⟩ := Task.course_bind.1 h₄
    obtain ⟨rfl, rfl, rfl⟩ := Task.course_pure.1 h₆
    rw [hr] at h₅
    simpa [hr, find_touched] using course_awaitTurn.1 h₅
  · rintro ⟨rfl, h⟩
    refine Task.course_bind.2 ⟨[], (), s.mapNonces (·.touch a), ms, rfl, ?_, ?_⟩
    · exact course_modifyBook.2 ⟨rfl, rfl⟩
    refine Task.course_bind.2 ⟨[], _, _, ms, rfl, Task.course_get.2 ⟨rfl, rfl, rfl⟩, ?_⟩
    refine Task.course_bind.2 ⟨ms, (), s', [], by simp, ?_, Task.course_pure.2 ⟨rfl, hr.symm, rfl⟩⟩
    rw [hr]
    exact course_awaitTurn.2 (by simpa [find_touched] using h)

lemma course_advance {result : Except NonceError Nonce} :
    (advance k base).Course s ms result s' ↔
      ms = [] ∧ (base.next? = none ∧ result = .error (.overflow k.account) ∧ s' = s ∨
        ∃ n, base.next? = some n ∧ result = .ok n ∧ s' = s.mapNonces (·.put k n)) := by
  cases h : base.next? with
  | none =>
    have ha : advance k base = throw (.overflow k.account) := by simp [advance, h]
    simp [ha, Action.course_throw]
  | some n =>
    have ha : advance k base = do
        modifyBook (·.put k n)
        return n := by simp [advance, h]
    rw [ha, modifyBook, Action.course_modify_bind, Action.course_pure]
    simp

lemma course_seed {result : Except NonceError Nonce} :
    (seed k).Course s ms result s' ↔
      ∃ (reply : Except NodeError AccountState) (found : Client),
        ms = [⟨.readState k.account, s.mapNonces (·.hold k), reply, found⟩] ∧
        result = (reply.map (·.nonce)).mapError .node ∧ s' = found.mapNonces (·.release k) := by
  rw [seed, modifyBook, modifyBook, Action.course_modify_bind, Action.course_callHolding_bind]
  simp only [Action.course_modify_bind]
  constructor
  · rintro ⟨reply, found, ms', rfl, h⟩
    refine ⟨reply, found, ?_⟩
    cases reply with
    | error cause =>
      obtain ⟨rfl, rfl, rfl⟩ := Action.course_throw.1 h
      exact ⟨rfl, rfl, rfl⟩
    | ok state =>
      obtain ⟨rfl, rfl, rfl⟩ := Action.course_pure.1 h
      exact ⟨rfl, rfl, rfl⟩
  · rintro ⟨reply, found, rfl, rfl, rfl⟩
    refine ⟨reply, found, [], rfl, ?_⟩
    cases reply with
    | error cause => exact Action.course_throw.2 ⟨rfl, rfl, rfl⟩
    | ok state => exact Action.course_pure.2 ⟨rfl, rfl, rfl⟩

lemma course_allocate {result : Except NonceError Nonce} :
    (allocate a).Course s ms result s' ↔
      ∃ k ms₁ s₁ ms₂, ms = ms₁ ++ ms₂ ∧ Task.Course (acquire a) s ms₁ k s₁ ∧
        ((∃ base, (s₁.nonces.find k).last = some base ∧ (advance k base).Course s₁ ms₂ result s') ∨
          (s₁.nonces.find k).last = none ∧
            (seed k >>= advance k).Course s₁ ms₂ result s') := by
  simp only [allocate, Action.course_lift_bind, Action.course_get_bind]
  constructor
  · rintro ⟨ms₁, k, s₁, ms₂, rfl, h₁, h₂⟩
    refine ⟨k, ms₁, s₁, ms₂, rfl, h₁, ?_⟩
    cases hl : (s₁.nonces.find k).last with
    | none => exact .inr ⟨rfl, by simpa only [hl] using h₂⟩
    | some base => exact .inl ⟨base, rfl, by simpa only [hl] using h₂⟩
  · rintro ⟨k, ms₁, s₁, ms₂, rfl, h₁, ⟨base, hl, h₂⟩ | ⟨hl, h₂⟩⟩
    · exact ⟨ms₁, k, s₁, ms₂, rfl, h₁, by simpa only [hl] using h₂⟩
    · exact ⟨ms₁, k, s₁, ms₂, rfl, h₁, by simpa only [hl] using h₂⟩

lemma course_rebindAndAllocate {state : AccountState} {result : Except NonceError Nonce} :
    (rebindAndAllocate state).Course s ms result s' ↔
      ∃ k s₁, Task.Course (acquire state.address) s ms k s₁ ∧
        (advance k state.nonce).Course s₁ [] result s' := by
  rw [rebindAndAllocate, Action.course_lift_bind]
  constructor
  · rintro ⟨ms₁, k, s₁, ms₂, rfl, h₁, h₂⟩
    obtain ⟨rfl, -⟩ := course_advance.1 h₂
    exact ⟨k, s₁, by rwa [List.append_nil], h₂⟩
  · rintro ⟨k, s₁, h₁, h₂⟩
    exact ⟨ms, k, s₁, [], (List.append_nil ms).symm, h₁, h₂⟩

def Queues (a : Address) (m : Moment) : Prop := ∃ k, k.account = a ∧ m.call = .turn k

lemma queues_acquire (h : Task.Course (acquire a) s ms k s') : ∀ m ∈ ms, Queues a m := by
  rcases course_acquire.1 h with ⟨-, ⟨-, rfl, -⟩ | ⟨-, rfl⟩⟩
  · simp
  · exact List.forall_mem_singleton.2 ⟨_, rfl, rfl⟩

lemma account_acquire (h : Task.Course (acquire a) s ms k s') : k.account = a := by
  rw [(course_acquire.1 h).1]
  rfl

lemma call_allocate {result : Except NonceError Nonce} (h : (allocate a).Course s ms result s') :
    ∀ m ∈ ms, Queues a m ∨ m.call = .readState a := by
  obtain ⟨k, ms₁, s₁, ms₂, rfl, h₁, h₂⟩ := course_allocate.1 h
  obtain rfl := account_acquire h₁
  refine List.forall_mem_append.2 ⟨fun m hm => .inl (queues_acquire h₁ m hm), ?_⟩
  rcases h₂ with ⟨base, -, h₂⟩ | ⟨-, h₂⟩
  · obtain ⟨rfl, -⟩ := course_advance.1 h₂
    simp
  · rcases Action.course_bind.1 h₂ with ⟨e, -, h₃⟩ | ⟨ms₃, base, s₂, ms₄, rfl, h₃, h₄⟩
    · obtain ⟨reply, found, rfl, -⟩ := course_seed.1 h₃
      simp
    · obtain ⟨reply, found, rfl, -⟩ := course_seed.1 h₃
      obtain ⟨rfl, -⟩ := course_advance.1 h₄
      simp

lemma call_rebindAndAllocate {state : AccountState} {result : Except NonceError Nonce}
    (h : (rebindAndAllocate state).Course s ms result s') :
    ∀ m ∈ ms, Queues state.address m := by
  obtain ⟨k, s₁, h₁, -⟩ := course_rebindAndAllocate.1 h
  exact queues_acquire h₁

end LedgerClient.Nonces
