import LedgerClient.Proofs.Client.Allocation
import LedgerClient.Proofs.Client.Signing
import LedgerClient.Submission.Requester

/-! The rounds of a submission loop. A round is an attempt that ends in a conflict, a read of the
account's state, a sleep and a rebinding; the last attempt ends the loop. -/

namespace LedgerClient

def RetryPolicy.Retries (p : RetryPolicy) : Except ClientError TxHash → Prop
  | .error (.conflict _) => True
  | .error (.connection _) => p.retriesConnections = true
  | _ => False

namespace Client

def attempted (s : Client) : Client := s.mapMetrics fun m => { m with attempts := m.attempts + 1 }

def conflicted (cause : ClientError) (s : Client) : Client :=
  if cause.isConflict then s.mapMetrics fun m => { m with conflicts := m.conflicts + 1 } else s

def rebound (s : Client) : Client := s.mapMetrics fun m => { m with rebinds := m.rebinds + 1 }

def finished (began : Nat) (result : Except ClientError TxHash) (s : Client) : Client :=
  s.mapMetrics (·.finish result.isOk (Requester.seconds (s.clock - began)))

end Client

def Call.isPause : Call → Bool
  | readState _ => true
  | sleep _ => true
  | turn _ => true
  | _ => false

structure Attempt where
  index : Nat
  entry : Address
  nonce : Nonce
  start : Client

namespace Requester

variable (r : Requester) (a : Address) (build : Builder)

inductive Recovery (s : Client) : Address → Nonce → List Moment → Client → Prop
  | mk {state : AccountState} {n : Nonce} {found woken s' : Client} {ms : List Moment}
      (rebind : (Nonces.rebindAndAllocate state).Course woken ms (.ok n) s') :
      Recovery s state.address n
        (⟨.readState a, s, .ok state, found⟩ ::
          ⟨.sleep r.policy.interval, found, (), woken⟩ :: ms) s'.rebound

inductive Defeat (s : Client) : ClientError → List Moment → Client → Prop
  | unread {cause : NodeError} {s' : Client} :
      Defeat s (.ofNode cause) [⟨.readState a, s, .error cause, s'⟩] s'
  | exhausted {state : AccountState} {cause : NonceError} {found woken s' : Client}
      {ms : List Moment}
      (rebind : (Nonces.rebindAndAllocate state).Course woken ms (.error cause) s') :
      Defeat s (.nonce cause)
        (⟨.readState a, s, .ok state, found⟩ ::
          ⟨.sleep r.policy.interval, found, (), woken⟩ :: ms) s'

def Makes (p : Attempt) (ms : List Moment) (result : Except ClientError TxHash) (s : Client) :
    Prop :=
  (build p.index p.nonce).Course p.start.attempted ms result s

inductive Round : Attempt → List Moment → Attempt → Prop
  | mk {p : Attempt} {ms₁ ms₂ : List Moment} {cause : ClientError} {entry : Address} {n : Nonce}
      {s₁ s₂ : Client} (made : Makes build p ms₁ (.error cause) s₁)
      (retries : r.policy.Retries (.error cause))
      (recovery : r.Recovery a (s₁.conflicted cause) entry n ms₂ s₂) :
      Round p (ms₁ ++ ms₂) ⟨p.index + 1, entry, n, s₂⟩

inductive Rounds : Attempt → List Moment → Attempt → Prop
  | none (p : Attempt) : Rounds p [] p
  | next {p q q' : Attempt} {ms ms' : List Moment} (round : r.Round a build p ms q)
      (rest : Rounds q ms' q') : Rounds p (ms ++ ms') q'

inductive Last (limit : Nat) (p : Attempt) :
    List Moment → Except ClientError TxHash → Client → Prop
  | settled {ms : List Moment} {result : Except ClientError TxHash} {s : Client}
      (made : Makes build p ms result s) (final : ¬ r.policy.Retries result) :
      Last limit p ms result s
  | spent {ms : List Moment} {cause : ClientError} {s : Client}
      (made : Makes build p ms (.error cause) s) (retries : r.policy.Retries (.error cause))
      (reached : p.index = limit) : Last limit p ms (.error cause) (s.conflicted cause)
  | defeated {ms₁ ms₂ : List Moment} {cause e : ClientError} {s₁ s₂ : Client}
      (made : Makes build p ms₁ (.error cause) s₁) (retries : r.policy.Retries (.error cause))
      (below : p.index < limit) (defeat : r.Defeat a (s₁.conflicted cause) e ms₂ s₂) :
      Last limit p (ms₁ ++ ms₂) (.error e) s₂

variable {r a build} {s s' : Client} {ms : List Moment}

lemma countAttempt_eq : countAttempt = liftM (modify Client.attempted : Task Unit) := rfl

lemma countRebind_eq : countRebind = liftM (modify Client.rebound : Task Unit) := rfl

lemma countConflict_eq (cause : ClientError) :
    countConflict cause = liftM (modify (Client.conflicted cause) : Task Unit) := by
  by_cases h : cause.isConflict
  · have hc : Client.conflicted cause =
        Client.mapMetrics fun m => { m with conflicts := m.conflicts + 1 } :=
      funext fun s => if_pos h
    rw [hc]
    exact if_pos h
  · have hc : Client.conflicted cause = id := funext fun s => if_neg h
    rw [hc]
    exact (if_neg h).trans rfl

lemma conclude_of_not_retries {result : Except ClientError TxHash}
    {retry : ClientError → Action ClientError TxHash} (h : ¬ r.policy.Retries result) :
    r.conclude result retry = Action.ofExcept result := by
  cases result with
  | ok hash => rfl
  | error e =>
    cases e with
    | conflict cause => exact absurd trivial h
    | connection reason =>
      have hc : r.policy.retriesConnections = false := by simpa [RetryPolicy.Retries] using h
      simp only [conclude, Verdict.ofResult, hc]
      rfl
    | _ => rfl

lemma conclude_of_retries {cause : ClientError} {retry : ClientError → Action ClientError TxHash}
    (h : r.policy.Retries (.error cause)) :
    r.conclude (.error cause) retry = countConflict cause >>= fun _ => retry cause := by
  cases cause with
  | conflict cause => rfl
  | connection reason =>
    have hc : r.policy.retriesConnections = true := h
    simp only [conclude, Verdict.ofResult, hc, if_true]
  | _ => exact h.elim

lemma conclude_cases (result : Except ClientError TxHash)
    (retry : ClientError → Action ClientError TxHash) :
    ¬ r.policy.Retries result ∧ r.conclude result retry = Action.ofExcept result ∨
      ∃ cause, result = .error cause ∧ r.policy.Retries (.error cause) ∧
        r.conclude result retry =
          (liftM (modify (Client.conflicted cause) : Task Unit) >>= fun _ => retry cause) := by
  by_cases hr : r.policy.Retries result
  · cases result with
    | ok hash => exact hr.elim
    | error cause => exact .inr ⟨cause, rfl, hr, by rw [conclude_of_retries hr, countConflict_eq]⟩
  · exact .inl ⟨hr, conclude_of_not_retries hr⟩

lemma course_rebindAfterConflict {result : Except ClientError Nonce}
    (h : (r.rebindAfterConflict a).Course s ms result s') :
    (∃ entry n, result = .ok n ∧ r.Recovery a s entry n ms s') ∨
      ∃ e, result = .error e ∧ r.Defeat a s e ms s' := by
  rw [rebindAfterConflict, Action.course_call_bind] at h
  obtain ⟨reply, found, ms₁, rfl, h⟩ := h
  cases reply with
  | error cause =>
    obtain ⟨rfl, rfl, rfl⟩ := Action.course_throw.1 h
    exact .inr ⟨_, rfl, .unread⟩
  | ok state =>
    obtain ⟨_, woken, ms₂, rfl, h'⟩ := Action.course_call_bind.1 h
    rcases Action.course_bind.1 h' with ⟨e, rfl, he⟩ | ⟨ms₃, n, s₁, ms₄, rfl, h₁, h₂⟩
    · obtain ⟨y, hy, hd⟩ := Action.course_adapt.1 he
      cases y with
      | ok n => cases hy
      | error cause =>
        cases hy
        exact .inr ⟨_, rfl, .exhausted hd⟩
    · obtain ⟨y, hy, hn⟩ := Action.course_adapt.1 h₁
      rw [countRebind_eq, Action.course_modify_bind] at h₂
      obtain ⟨rfl, rfl, rfl⟩ := Action.course_pure.1 h₂
      cases y with
      | error cause => cases hy
      | ok n' =>
        cases hy
        rw [List.append_nil]
        exact .inl ⟨_, n, rfl, .mk hn⟩

lemma course_attempt {x : Action ClientError TxHash}
    {retry : ClientError → Action ClientError TxHash} {result : Except ClientError TxHash}
    (h : Action.Course (do
      countAttempt
      r.conclude (← x.outcome) retry) s ms result s') :
    x.Course s.attempted ms result s' ∧ ¬ r.policy.Retries result ∨
      ∃ ms₁ ms₂ cause s₁, ms = ms₁ ++ ms₂ ∧ x.Course s.attempted ms₁ (.error cause) s₁ ∧
        r.policy.Retries (.error cause) ∧
        (retry cause).Course (s₁.conflicted cause) ms₂ result s' := by
  rw [countAttempt_eq, Action.course_modify_bind] at h
  obtain ⟨ms₁, y, s₁, ms₂, rfl, h₁, h₂⟩ := Action.course_outcome_bind.1 h
  rcases r.conclude_cases y retry with ⟨hr, he⟩ | ⟨cause, rfl, hr, he⟩
  · rw [he] at h₂
    obtain ⟨rfl, rfl, rfl⟩ := Action.course_ofExcept.1 h₂
    exact .inl ⟨by rwa [List.append_nil], hr⟩
  · rw [he, Action.course_modify_bind] at h₂
    exact .inr ⟨ms₁, ms₂, cause, s₁, rfl, h₁, hr, h₂⟩

lemma course_submitLoop (entry : Address) {left i : Nat} {n : Nonce}
    {result : Except ClientError TxHash}
    (h : (r.submitLoop a build left i n).Course s ms result s') :
    ∃ p ms₁ ms₂, ms = ms₁ ++ ms₂ ∧ p.index ≤ i + left ∧
      r.Rounds a build ⟨i, entry, n, s⟩ ms₁ p ∧ r.Last a build (i + left) p ms₂ result s' := by
  -- The entry changes on the way: a recovery goes on with the one that the node has named.
  induction left generalizing i n s ms entry with
  | zero =>
    refine ⟨⟨i, entry, n, s⟩, [], ms, rfl, le_rfl, .none _, ?_⟩
    rcases course_attempt h with ⟨h₁, hf⟩ | ⟨ms₁, ms₂, cause, s₁, rfl, h₁, hr, h₂⟩
    · exact .settled h₁ hf
    · obtain ⟨rfl, rfl, rfl⟩ := Action.course_throw.1 h₂
      rw [List.append_nil]
      exact .spent h₁ hr rfl
  | succ left ih =>
    rcases course_attempt h with ⟨h₁, hf⟩ | ⟨ms₁, ms₂, cause, s₁, rfl, h₁, hr, h₂⟩
    · exact ⟨⟨i, entry, n, s⟩, [], ms, rfl, Nat.le_add_right _ _, .none _, .settled h₁ hf⟩
    rcases Action.course_bind.1 h₂ with ⟨e, rfl, h₃⟩ | ⟨ms₃, n', s₂, ms₄, rfl, h₃, h₄⟩
    · rcases course_rebindAfterConflict h₃ with ⟨_, _, he, -⟩ | ⟨_, he, hd⟩
      · cases he
      · cases he
        exact ⟨⟨i, entry, n, s⟩, [], ms₁ ++ ms₂, rfl, Nat.le_add_right _ _, .none _,
          .defeated h₁ hr (by simp) hd⟩
    · rcases course_rebindAfterConflict h₃ with ⟨entry', _, he, hc⟩ | ⟨_, he, -⟩
      · cases he
        obtain ⟨p, ms₅, ms₆, rfl, hp, hs, hl⟩ := ih entry' h₄
        have hi : i + 1 + left = i + (left + 1) := by omega
        rw [hi] at hp hl
        exact ⟨p, ms₁ ++ ms₃ ++ ms₅, ms₆, by simp, hp, .next (.mk h₁ hr hc) hs, hl⟩
      · cases he

lemma course_recorded {x : Action ClientError TxHash} {result : Except ClientError TxHash} :
    (recorded x).Course s ms result s' ↔
      ∃ s₁, x.Course s ms result s₁ ∧ s' = s₁.finished s.clock result := by
  rw [recorded, Action.course_get_bind]
  constructor
  · intro h
    obtain ⟨ms₁, y, s₁, ms₂, rfl, h₁, h₂⟩ := Action.course_outcome_bind.1 h
    have h₃ := Action.course_modify_bind.1 (Action.course_get_bind.1 h₂)
    obtain ⟨rfl, rfl, rfl⟩ := Action.course_ofExcept.1 h₃
    exact ⟨s₁, by rwa [List.append_nil], rfl⟩
  · rintro ⟨s₁, h, rfl⟩
    refine Action.course_outcome_bind.2 ⟨ms, result, s₁, [], by simp, h, ?_⟩
    refine Action.course_get_bind.2 (Action.course_modify_bind.2 ?_)
    exact Action.course_ofExcept.2 ⟨rfl, rfl, rfl⟩

lemma course_principal {result : Except ClientError Address} :
    principal.Course s ms result s' ↔
      ms = [] ∧ result = s.signer.principal.mapError .signer ∧ s' = s := by
  rw [principal, Action.course_adapt]
  simp only [Signing.course_principal]
  constructor
  · rintro ⟨y, rfl, rfl, rfl, rfl⟩
    exact ⟨rfl, rfl, rfl⟩
  · rintro ⟨rfl, rfl, rfl⟩
    exact ⟨_, rfl, rfl, rfl, rfl⟩

lemma course_request {result : Except ClientError TxHash} (hp : s.signer.principal = .ok a)
    (h : (r.request build).Course s ms result s') :
    ∃ s₁, s' = s₁.finished s.clock result ∧
      ((∃ cause, result = .error (.nonce cause) ∧
          (Nonces.allocate a).Course s ms (.error cause) s₁) ∨
        ∃ ms₁ n s₂ ms₂, ms = ms₁ ++ ms₂ ∧ (Nonces.allocate a).Course s ms₁ (.ok n) s₂ ∧
          (r.submitLoop a build r.policy.tries.toNat 0 n).Course s₂ ms₂ result s₁) := by
  obtain ⟨s₁, h', rfl⟩ := course_recorded.1 h
  refine ⟨s₁, rfl, ?_⟩
  rcases Action.course_bind.1 h' with ⟨e, rfl, h₁⟩ | ⟨ms₁, a', s₂, ms₂, rfl, h₁, h₂⟩
  · obtain ⟨-, he, -⟩ := course_principal.1 h₁
    rw [hp] at he
    cases he
  obtain ⟨rfl, ha, rfl⟩ := course_principal.1 h₁
  rw [hp] at ha
  obtain rfl := Except.ok.inj ha
  rcases Action.course_bind.1 h₂ with ⟨e, rfl, h₃⟩ | ⟨ms₃, n, s₃, ms₄, rfl, h₃, h₄⟩
  · obtain ⟨y, hy, hn⟩ := Action.course_adapt.1 h₃
    cases y with
    | ok n => cases hy
    | error cause =>
      cases hy
      exact .inl ⟨cause, rfl, hn⟩
  · obtain ⟨y, hy, hn⟩ := Action.course_adapt.1 h₃
    cases y with
    | error cause => cases hy
    | ok n' =>
      cases hy
      exact .inr ⟨ms₃, n, s₃, ms₄, rfl, hn, h₄⟩

lemma course_request_locked {result : Except ClientError TxHash} {e : SignerError}
    (hp : s.signer.principal = .error e) (h : (r.request build).Course s ms result s') :
    ms = [] ∧ result = .error (.signer e) ∧ s' = s.finished s.clock result := by
  obtain ⟨s₁, h', rfl⟩ := course_recorded.1 h
  rcases Action.course_bind.1 h' with ⟨e', rfl, h₁⟩ | ⟨ms₁, a', s₂, ms₂, rfl, h₁, -⟩
  · obtain ⟨rfl, he, rfl⟩ := course_principal.1 h₁
    rw [hp] at he
    exact ⟨rfl, congrArg Except.error (Except.error.inj he), rfl⟩
  · obtain ⟨-, ha, -⟩ := course_principal.1 h₁
    rw [hp] at ha
    cases ha

lemma request_locked {result : Except ClientError TxHash} {e : SignerError}
    (hp : s.signer.principal = .error e) (h : (r.request build).Course s ms result s') :
    ms = [] :=
  (course_request_locked hp h).1

lemma isPause_allocate {result : Except NonceError Nonce}
    (h : (Nonces.allocate a).Course s ms result s') : ∀ m ∈ ms, m.call.isPause := by
  intro m hm
  rcases Nonces.call_allocate h m hm with ⟨_, -, hcall⟩ | hcall <;> rw [hcall] <;> rfl

lemma Recovery.isPause {entry : Address} {n : Nonce} (h : r.Recovery a s entry n ms s') :
    ∀ m ∈ ms, m.call.isPause := by
  obtain ⟨hn⟩ := h
  refine List.forall_mem_cons.2 ⟨rfl, List.forall_mem_cons.2 ⟨rfl, fun m hm => ?_⟩⟩
  obtain ⟨_, -, hcall⟩ := Nonces.call_rebindAndAllocate hn m hm
  rw [hcall]
  rfl

lemma Defeat.isPause {e : ClientError} (h : r.Defeat a s e ms s') : ∀ m ∈ ms, m.call.isPause := by
  cases h with
  | unread => exact List.forall_mem_singleton.2 rfl
  | exhausted hn =>
    refine List.forall_mem_cons.2 ⟨rfl, List.forall_mem_cons.2 ⟨rfl, fun m hm => ?_⟩⟩
    obtain ⟨_, -, hcall⟩ := Nonces.call_rebindAndAllocate hn m hm
    rw [hcall]
    rfl

inductive Arises (r : Requester) (a : Address) (build : Builder) (s : Client) :
    List Moment → Attempt → Prop
  | mk {seeding ms : List Moment} {n : Nonce} {s₁ : Client} {p : Attempt}
      (allocated : (Nonces.allocate a).Course s seeding (.ok n) s₁)
      (rounds : r.Rounds a build ⟨0, a, n, s₁⟩ ms p) : Arises r a build s (seeding ++ ms) p

variable {p q : Attempt} {m : Moment}

lemma mem_split {α : Type} {l₁ l₂ pre post : List α} {x : α} (h : l₁ ++ l₂ = pre ++ x :: post) :
    (∃ post', l₁ = pre ++ x :: post' ∧ post = post' ++ l₂) ∨
      ∃ pre', pre = l₁ ++ pre' ∧ l₂ = pre' ++ x :: post := by
  rcases List.append_eq_append_iff.1 h with ⟨pre', rfl, rfl⟩ | ⟨l, rfl, h'⟩
  · exact .inr ⟨pre', rfl, rfl⟩
  · cases l with
    | nil => exact .inr ⟨[], by simp, h'.symm⟩
    | cons y l =>
      obtain ⟨rfl, rfl⟩ := List.cons.inj h'
      exact .inl ⟨l, rfl, rfl⟩

variable {pre post : List Moment}

lemma Rounds.split (h : r.Rounds a build p ms q) (hm : ms = pre ++ m :: post)
    (hc : ¬ m.call.isPause) :
    ∃ before p' ms₁ ms₂ after cause s₁, pre = before ++ ms₁ ∧ post = ms₂ ++ after ∧
      r.Rounds a build p before p' ∧ Makes build p' (ms₁ ++ m :: ms₂) (.error cause) s₁ ∧
      r.policy.Retries (.error cause) := by
  induction h generalizing pre with
  | none p => simp at hm
  | @next p q q' ms ms' hd rest ih =>
    rcases mem_split hm with ⟨post', hms, rfl⟩ | ⟨pre', rfl, hms'⟩
    · obtain ⟨hmade, hr, hv⟩ := hd
      rcases mem_split hms with ⟨post'', rfl, rfl⟩ | ⟨pre', rfl, rfl⟩
      · exact ⟨[], p, pre, post'', _, _, _, rfl, List.append_assoc _ _ _, .none p, hmade, hr⟩
      · exact absurd (hv.isPause m (by simp)) hc
    · obtain ⟨before, p', ms₁, ms₂, after, cause, s₁, rfl, hpost, hd', hmade, hr⟩ := ih hms'
      exact ⟨ms ++ before, p', ms₁, ms₂, after, cause, s₁, by simp, hpost, .next hd hd', hmade, hr⟩

lemma Last.split {limit : ℕ} {result : Except ClientError TxHash}
    (h : r.Last a build limit p (pre ++ m :: post) result s) (hc : ¬ m.call.isPause) :
    ∃ ms₂ after result' s₁, post = ms₂ ++ after ∧ Makes build p (pre ++ m :: ms₂) result' s₁ ∧
      (r.policy.Retries result' ∨ after = [] ∧ result' = result) := by
  generalize hms : pre ++ m :: post = ms at h
  cases h with
  | settled hmade hf =>
    subst hms
    exact ⟨post, [], _, _, by simp, hmade, .inr ⟨rfl, rfl⟩⟩
  | spent hmade hr hi =>
    subst hms
    exact ⟨post, [], _, _, by simp, hmade, .inl hr⟩
  | defeated hmade hr hi hd =>
    rcases mem_split hms.symm with ⟨post', rfl, rfl⟩ | ⟨pre', rfl, rfl⟩
    · exact ⟨post', _, _, _, rfl, hmade, .inl hr⟩
    · exact absurd (hd.isPause m (by simp)) hc

lemma submitLoop_split (entry : Address) {left i : ℕ} {n : Nonce} {result : Except ClientError TxHash}
    (h : (r.submitLoop a build left i n).Course s (pre ++ m :: post) result s')
    (hc : ¬ m.call.isPause) :
    ∃ before p ms₁ ms₂ after result' s₁, pre = before ++ ms₁ ∧ post = ms₂ ++ after ∧
      r.Rounds a build ⟨i, entry, n, s⟩ before p ∧ Makes build p (ms₁ ++ m :: ms₂) result' s₁ ∧
      (r.policy.Retries result' ∨ after = [] ∧ result' = result) := by
  obtain ⟨p, rounds, last, hms, -, hd, hl⟩ := course_submitLoop entry h
  rcases mem_split hms.symm with ⟨post', hrounds, rfl⟩ | ⟨pre', rfl, rfl⟩
  · obtain ⟨before, p', ms₁, ms₂, after, cause, s₁, rfl, rfl, hd', hmade, hr⟩ :=
      hd.split hrounds hc
    exact ⟨before, p', ms₁, ms₂, after ++ last, _, s₁, rfl, by simp, hd', hmade, .inl hr⟩
  · obtain ⟨ms₂, after, result', s₁, rfl, hmade, hr⟩ := hl.split hc
    exact ⟨rounds, p, pre', ms₂, after, result', s₁, rfl, rfl, hd, hmade, hr⟩

lemma request_split {result : Except ClientError TxHash} (hp : s.signer.principal = .ok a)
    (h : (r.request build).Course s (pre ++ m :: post) result s') (hc : ¬ m.call.isPause) :
    ∃ before p ms₁ ms₂ after result' s₁, pre = before ++ ms₁ ∧ post = ms₂ ++ after ∧
      r.Arises a build s before p ∧ Makes build p (ms₁ ++ m :: ms₂) result' s₁ ∧
      (r.policy.Retries result' ∨ after = [] ∧ result' = result) := by
  obtain ⟨s₁, -, ⟨cause, -, h'⟩ | ⟨seeding, n, s₂, ms, hms, h₁, h₂⟩⟩ := course_request hp h
  · exact absurd (isPause_allocate h' m (by simp)) hc
  rcases mem_split hms.symm with ⟨post', rfl, rfl⟩ | ⟨pre', rfl, rfl⟩
  · exact absurd (isPause_allocate h₁ m (by simp)) hc
  obtain ⟨before, p, ms₁, ms₂, after, result', s₃, rfl, rfl, hd, hmade, hr⟩ :=
    submitLoop_split a h₂ hc
  exact ⟨seeding ++ before, p, ms₁, ms₂, after, result', s₃, by simp, rfl, .mk h₁ hd, hmade, hr⟩

lemma request_made {result : Except ClientError TxHash} (hp : s.signer.principal = .ok a)
    (h : (r.request build).Course s ms result s') (hm : m ∈ ms) (hc : ¬ m.call.isPause) :
    ∃ pre p ms' result' s₁, pre ++ ms' <+: ms ∧ r.Arises a build s pre p ∧
      Makes build p ms' result' s₁ ∧ m ∈ ms' := by
  obtain ⟨pre, post, rfl⟩ := List.append_of_mem hm
  obtain ⟨before, p, ms₁, ms₂, after, result', s₁, rfl, rfl, ha, hmade, -⟩ := request_split hp h hc
  refine ⟨before, p, ms₁ ++ m :: ms₂, result', s₁, ?_, ha, hmade, by simp⟩
  exact ⟨after, by simp⟩

end Requester

end LedgerClient
