import LedgerClient.Proofs.Submission.Loop

/-! How often a request submits, and with which nonces. The attempts and the reads of a request are
answered from two streams; everything else in the world stays free. -/

namespace LedgerClient

namespace Call

def isTurn : Call → Bool
  | turn _ => true
  | _ => false

def isAttempt : Call → Bool
  | attempt _ => true
  | _ => false

def isRead : Call → Bool
  | readState _ => true
  | _ => false

end Call

def calls (ms : List Moment) : List Call := (ms.map (·.call)).filter (!·.isTurn)

@[simp] lemma calls_append (ms ms' : List Moment) : calls (ms ++ ms') = calls ms ++ calls ms' := by
  simp [calls]

lemma calls_cons {m : Moment} (h : m.call.isTurn = false) (ms : List Moment) :
    calls (m :: ms) = m.call :: calls ms := by
  simp [calls, h]

structure Streams where
  answers : ℕ → Except ClientError TxHash
  reads : ℕ → Except NodeError AccountState

namespace Streams

variable (σ : Streams)

def nonce (n : Nonce) : ℕ → Nonce
  | 0 => n
  | i + 1 => match σ.reads i with
    | .ok state => state.nonce + 1
    | .error _ => n

def Barren (i : ℕ) : Prop :=
  (∃ cause, σ.reads i = .error cause) ∨ ∃ state, σ.reads i = .ok state ∧ state.nonce.next? = none

end Streams

structure World.Follows (w : World) (before : List Moment) (σ : Streams) : Prop where
  attempt (past : List Moment) (n : Nonce) (s : Client) :
    (w (before ++ past) (.attempt n) s).1 = σ.answers ((calls past).countP (·.isAttempt))
  read (past : List Moment) (a : Address) (s : Client) :
    (w (before ++ past) (.readState a) s).1 = σ.reads ((calls past).countP (·.isRead))

namespace Streams

variable (σ : Streams)

def world : World
  | past, .attempt _, s => (σ.answers ((calls past).countP (·.isAttempt)), s)
  | past, .readState _, s => (σ.reads ((calls past).countP (·.isRead)), s)
  | _, call, s => (call.silence, s)

def drop (k : ℕ) : Streams := ⟨σ.answers, fun i => σ.reads (k + i)⟩

lemma world_follows {before : List Moment} (h : (calls before).countP (·.isAttempt) = 0) :
    σ.world.Follows before (σ.drop ((calls before).countP (·.isRead))) where
  attempt past n s := by simp [world, drop, h]
  read past a s := by simp [world, drop]

end Streams

namespace Requester

def caller : Builder := fun _ n => ExceptT.mk (Task.call (.attempt n))

variable (r : Requester) (a : Address) (σ : Streams) (n₀ : Nonce)

def roundCalls (i : ℕ) : List Call :=
  [.attempt (σ.nonce n₀ i), .readState a, .sleep r.policy.interval]

def Stops (i : ℕ) : Prop :=
  ¬ r.policy.Retries (σ.answers i) ∨ i = r.policy.tries.toNat ∨ σ.Barren i

inductive Outcome (i : ℕ) : List Call → Except ClientError TxHash → Prop
  | concluded (h : ¬ r.policy.Retries (σ.answers i) ∨ i = r.policy.tries.toNat) :
      Outcome i [] (σ.answers i)
  | unread {cause : NodeError} (retries : r.policy.Retries (σ.answers i))
      (below : i < r.policy.tries.toNat) (read : σ.reads i = .error cause) :
      Outcome i [.readState a] (.error (.ofNode cause))
  | exhausted {state : AccountState} (retries : r.policy.Retries (σ.answers i))
      (below : i < r.policy.tries.toNat) (read : σ.reads i = .ok state)
      (last : state.nonce.next? = none) :
      Outcome i [.readState a, .sleep r.policy.interval]
        (.error (.nonce (.overflow state.address)))

structure Reached (past : List Moment) (p : Attempt) : Prop where
  called : calls past = (List.range p.index).flatMap (r.roundCalls a σ n₀)
  nonce : p.nonce = σ.nonce n₀ p.index
  onward : ∀ j < p.index, r.policy.Retries (σ.answers j) ∧ ¬ σ.Barren j

variable {r a σ n₀} {w : World} {before past ms : List Moment} {p q : Attempt} {s s' : Client}

lemma countP_roundCalls {f : Call → Bool} (hf : ∀ i, (r.roundCalls a σ n₀ i).countP f = 1) (i : ℕ) :
    ((List.range i).flatMap (r.roundCalls a σ n₀)).countP f = i := by
  induction i with
  | zero => rfl
  | succ i ih =>
    rw [List.range_succ, List.flatMap_append, List.countP_append, ih]
    simp [hf]

lemma calls_eq_nil (h : ∀ m ∈ ms, Nonces.Queues a m) : calls ms = [] := by
  rw [calls, List.filter_eq_nil_iff]
  intro c hc
  obtain ⟨m, hm, rfl⟩ := List.mem_map.1 hc
  obtain ⟨k, -, hk⟩ := h m hm
  simp [hk, Call.isTurn]

lemma rebindAndAllocate_eq {state : AccountState} {result : Except NonceError Nonce}
    (h : (Nonces.rebindAndAllocate state).Course s ms result s') :
    calls ms = [] ∧
      (result = .error (.overflow state.address) ∧ state.nonce.next? = none ∨
        ∃ n, result = .ok n ∧ state.nonce.next? = some n) := by
  refine ⟨calls_eq_nil (Nonces.call_rebindAndAllocate h), ?_⟩
  obtain ⟨k, s₁, h₁, h₂⟩ := Nonces.course_rebindAndAllocate.1 h
  obtain ⟨-, ⟨hn, rfl, -⟩ | ⟨n, hn, rfl, -⟩⟩ := Nonces.course_advance.1 h₂
  · exact .inl ⟨by rw [Nonces.account_acquire h₁], hn⟩
  · exact .inr ⟨n, rfl, hn⟩

lemma Makes.answered (hw : w.Follows before σ) (hr : r.Reached a σ n₀ past p)
    {result : Except ClientError TxHash} (h : Makes caller p ms result s)
    (ha : w.Answers (before ++ past) ms) :
    calls ms = [.attempt (σ.nonce n₀ p.index)] ∧ result = σ.answers p.index := by
  obtain rfl := Task.course_call.1 h
  have hh : result = _ := (congrArg Prod.fst ha.head).trans (hw.attempt _ _ _)
  rw [hr.called, countP_roundCalls fun _ => rfl] at hh
  refine ⟨?_, hh⟩
  rw [← hr.nonce]
  rfl

lemma read_answered (hw : w.Follows before σ) (hr : r.Reached a σ n₀ past p) {n : Nonce}
    {past' : List Moment} (hp : calls past' = [.attempt n]) {left found : Client}
    {reply : Except NodeError AccountState}
    (ha : w.Answers (before ++ past ++ past') (⟨.readState a, left, reply, found⟩ :: ms)) :
    reply = σ.reads p.index := by
  have hh := hw.read (past ++ past') a left
  rw [calls_append, List.countP_append, hr.called, countP_roundCalls fun _ => rfl, hp,
    ← List.append_assoc] at hh
  exact (congrArg Prod.fst ha.head).trans hh

lemma Reached.round (hw : w.Follows before σ) (hr : r.Reached a σ n₀ past p)
    (h : r.Round a caller p ms q) (ha : w.Answers (before ++ past) ms) :
    r.Reached a σ n₀ (past ++ ms) q := by
  obtain ⟨hm, hc, hv⟩ := h
  obtain ⟨hm', hc'⟩ := hm.answered hw hr ha.left
  obtain ⟨hn⟩ := hv
  -- One read for every attempt so far: the two streams are in step.
  have hs := read_answered hw hr hm' ha.right
  obtain ⟨hb, ⟨he, -⟩ | ⟨n, he, hn'⟩⟩ := rebindAndAllocate_eq hn
  · cases he
  cases he
  refine ⟨?_, ?_, ?_⟩
  · rw [calls_append, calls_append, hr.called, hm', calls_cons rfl, calls_cons rfl, hb,
      List.range_succ, List.flatMap_append]
    rfl
  · simp only [Streams.nonce, ← hs]
    exact (Nonces.eq_of_next? hn').1
  · intro j hj
    rcases Nat.lt_succ_iff_lt_or_eq.1 hj with hj | rfl
    · exact hr.onward j hj
    refine ⟨hc' ▸ hc, ?_⟩
    rintro (⟨cause, he⟩ | ⟨state', he, hl⟩) <;> rw [← hs] at he <;> cases he
    rw [hn'] at hl
    cases hl

lemma Reached.rounds (hw : w.Follows before σ) (h : r.Rounds a caller p ms q) :
    ∀ {past : List Moment}, r.Reached a σ n₀ past p → w.Answers (before ++ past) ms →
      r.Reached a σ n₀ (past ++ ms) q := by
  induction h with
  | none p =>
    intro past hr _
    rwa [List.append_nil]
  | next hd _ ih =>
    intro past hr ha
    have hr' := hr.round hw hd ha.left
    have ha' := ha.right
    rw [List.append_assoc] at ha'
    rw [← List.append_assoc]
    exact ih hr' ha'

lemma Reached.last (hw : w.Follows before σ) (hr : r.Reached a σ n₀ past p)
    {result : Except ClientError TxHash}
    (h : r.Last a caller r.policy.tries.toNat p ms result s) (ha : w.Answers (before ++ past) ms) :
    r.Stops σ p.index ∧ ∃ rest, calls ms = .attempt (σ.nonce n₀ p.index) :: rest ∧
      r.Outcome a σ p.index rest result := by
  cases h with
  | settled hm hf =>
    obtain ⟨hm', rfl⟩ := hm.answered hw hr ha
    exact ⟨.inl hf, [], hm', .concluded (.inl hf)⟩
  | spent hm hc hi =>
    obtain ⟨hm', he⟩ := hm.answered hw hr ha
    exact ⟨.inr (.inl hi), [], hm', he ▸ .concluded (.inr hi)⟩
  | defeated hm hc hi hd =>
    obtain ⟨hm', hc'⟩ := hm.answered hw hr ha.left
    rw [hc'] at hc
    cases hd with
    | unread =>
      have hs := read_answered hw hr hm' ha.right
      refine ⟨.inr (.inr (.inl ⟨_, hs.symm⟩)), [.readState a], ?_, .unread hc hi hs.symm⟩
      rw [calls_append, hm', calls_cons rfl]
      rfl
    | exhausted hn =>
      have hs := read_answered hw hr hm' ha.right
      obtain ⟨hb, ⟨he, hl⟩ | ⟨n, he, -⟩⟩ := rebindAndAllocate_eq hn
      · cases he
        refine ⟨.inr (.inr (.inr ⟨_, hs.symm, hl⟩)), _, ?_, .exhausted hc hi hs.symm hl⟩
        rw [calls_append, hm', calls_cons rfl, calls_cons rfl, hb]
        rfl
      · cases he

lemma calls_allocate {result : Except NonceError Nonce}
    (h : (Nonces.allocate a).Course s ms result s') :
    (calls ms).countP (·.isAttempt) = 0 := by
  rw [List.countP_eq_zero]
  intro c hc
  obtain ⟨m, hm, rfl⟩ := List.mem_map.1 (List.mem_of_mem_filter hc)
  rcases Nonces.call_allocate h m hm with ⟨_, -, hm⟩ | hm <;> simp [hm, Call.isAttempt]

lemma Outcome.no_attempt {i : ℕ} {rest : List Call} {result : Except ClientError TxHash}
    (h : r.Outcome a σ i rest result) : rest.countP (·.isAttempt) = 0 := by
  cases h <;> rfl

/-- A request whose first allocation succeeds makes attempts up to the first one that none may
follow, and tells of that one. -/
theorem request_attempts {s₁ : Client} {seeding : List Moment} (hw : w.Follows seeding σ)
    (hp : s.signer.principal = .ok a)
    (hn : (Nonces.allocate a).play w [] s = (seeding, .ok n₀, s₁)) :
    ∃ i rounds last p rest result s',
      IsLeast {j | r.Stops σ j} i ∧ i ≤ r.policy.tries.toNat ∧
      (r.request caller).play w [] s = (seeding ++ (rounds ++ last), result, s') ∧
      (calls (seeding ++ (rounds ++ last))).countP (·.isAttempt) = i + 1 ∧
      r.Rounds a caller ⟨0, a, n₀, s₁⟩ rounds p ∧ p.index = i ∧
      calls (rounds ++ last) =
        (List.range i).flatMap (r.roundCalls a σ n₀) ++ .attempt (σ.nonce n₀ i) :: rest ∧
      r.Outcome a σ i rest result := by
  have hc := (r.request caller).play_course w [] s
  have hr := (r.request caller).play_answers w [] s
  obtain ⟨s₂, -, ⟨cause, -, h⟩ | ⟨ms₁, n, s₃, ms₂, hms, h₁, h₂⟩⟩ := course_request hp hc
  · rw [h.play_eq hr] at hn
    cases hn
  rw [hms] at hr
  rw [h₁.play_eq hr.left] at hn
  cases hn
  obtain ⟨p, rounds, last, rfl, hi, hd, hl⟩ := course_submitLoop a h₂
  rw [Nat.zero_add] at hi hl
  -- Calls and streams are in step before the first attempt, and each round keeps them so.
  have h₀ : r.Reached a σ n₀ [] ⟨0, a, n₀, s₁⟩ := ⟨rfl, rfl, fun j hj => absurd hj j.not_lt_zero⟩
  have hq := h₀.rounds hw hd (by simpa using hr.right.left)
  obtain ⟨hs, rest, hrest, ho⟩ := hq.last hw hl (by simpa using hr.right.right)
  have hcalls : calls (rounds ++ last) =
      (List.range p.index).flatMap (r.roundCalls a σ n₀) ++
        .attempt (σ.nonce n₀ p.index) :: rest := by
    rw [calls_append, hrest, ← hq.called, List.nil_append]
  refine ⟨p.index, rounds, last, p, rest, _, _, ⟨hs, ?_⟩, hi, Prod.ext hms rfl, ?_, hd, rfl, hcalls,
    ho⟩
  · intro j hj
    by_contra hlt
    obtain ⟨hretry, hb⟩ := hq.onward j (not_le.1 hlt)
    rcases hj with hf | rfl | hb'
    · exact hf hretry
    · omega
    · exact hb hb'
  · rw [calls_append, hcalls, List.countP_append, List.countP_append,
      countP_roundCalls fun _ => rfl, List.countP_cons, calls_allocate h₁, ho.no_attempt]
    simp [Call.isAttempt]

theorem request_attempts_twice :
    let a : Address := ⟨Curve.Point.base⟩
    let s : Client := .start (.remote ⟨some ⟨a, ⟨"pw"⟩⟩⟩) none
    let σ : Streams := ⟨fun i => if i = 0 then .error (.conflict ⟨.nonceTooLow, "stale"⟩)
      else .ok ⟨sha256 []⟩, fun _ => .ok ⟨a, 40, 0⟩⟩
    let r : Requester := ⟨.standard, none⟩
    ((Nonces.allocate a).play σ.world [] s).2.1 = .ok 41 ∧
      ∃ ms result s', (r.request caller).play σ.world [] s = (ms, result, s') ∧
        (calls ms).countP (·.isAttempt) = 2 := by
  intro a s σ r
  have hn : ((Nonces.allocate a).play σ.world [] s).2.1 = .ok 41 := rfl
  refine ⟨hn, ?_⟩
  obtain ⟨i, rounds, last, p, rest, result, s', ⟨hi, hl⟩, -, hr, hc, -⟩ :=
    request_attempts (r := r) (σ.world_follows (calls_allocate (Action.play_course _ _ _ _))) rfl
      (Prod.ext rfl (Prod.ext hn rfl))
  have h₁ : i ≤ 1 := hl (.inl id)
  have h₀ : i ≠ 0 := by
    rintro rfl
    rcases hi with h | h | ⟨cause, h⟩ | ⟨state, h, hs⟩
    · exact h trivial
    · cases h
    · cases h
    · cases h
      cases hs
  obtain rfl : i = 1 := by omega
  exact ⟨_, result, s', hr, hc⟩

end Requester

end LedgerClient
