import LedgerClient.Proofs.Client.Suspension
import LedgerClient.Proofs.Submission.Balance

/-! How many transactions a call hands over. Each attempt hands over at most one, and no attempt but
the last is without. -/

namespace LedgerClient

def Call.isSubmission : Call → Bool
  | submit _ => true
  | attempt _ => true
  | _ => false

def submissions (calls : List Call) : ℕ := calls.countP (·.isSubmission)

namespace Moment

def isCustody (m : Moment) : Prop := ∃ call, m.call = .custody call

def Contested : Moment → Prop
  | ⟨.submit _, _, reply, _⟩ => ∃ cause, reply = .error (.rejected cause) ∧ cause.isRetryable
  | ⟨.attempt _, _, reply, _⟩ => ∃ cause, reply = .error (.conflict cause)
  | ⟨.readState _, _, reply, _⟩ => ∃ state, reply = .ok state ∧ state.nonce.next?.isSome
  | _ => True

end Moment

variable {ms ms' : List Moment}

lemma submissions_append (calls calls' : List Call) :
    submissions (calls ++ calls') = submissions calls + submissions calls' :=
  List.countP_append

lemma submissions_map_append :
    submissions ((ms ++ ms').map (·.call)) =
      submissions (ms.map (·.call)) + submissions (ms'.map (·.call)) := by
  rw [List.map_append, submissions_append]

lemma submissions_eq_zero {P : Moment → Prop} (hP : ∀ m, P m → m.call.isSubmission = false)
    (h : ∀ m ∈ ms, P m) : submissions (ms.map (·.call)) = 0 := by
  refine List.countP_eq_zero.2 fun call hcall => ?_
  obtain ⟨m, hm, rfl⟩ := List.mem_map.1 hcall
  exact ne_true_of_eq_false (hP m (h m hm))

lemma submissions_of_pauses (h : ∀ m ∈ ms, m.call.isPause) :
    submissions (ms.map (·.call)) = 0 := by
  refine submissions_eq_zero (fun m hm => ?_) h
  cases hcall : m.call <;> rw [hcall] at hm <;> first | rfl | cases hm

lemma submissions_of_custody (h : ∀ m ∈ ms, m.isCustody) : submissions (ms.map (·.call)) = 0 := by
  refine submissions_eq_zero (fun m hm => ?_) h
  obtain ⟨call, hcall⟩ := hm
  rw [hcall]
  rfl

namespace RetryPolicy

lemma tries_succ_eq (p : RetryPolicy) :
    p.tries.toNat + 1 = p.maxAttempts + if p.tries.toNat + 1 = UInt32.size then 1 else 0 := by
  have hlt : p.tries.toNat < UInt32.size := p.tries.toNat_lt
  rw [maxAttempts]
  split
  · rename_i hmax
    omega
  · omega

end RetryPolicy

namespace Requester

inductive Tries (signs : Prop) : List Moment → Except ClientError TxHash → Prop
  | unsigned {ms : List Moment} {cause : SignerError} (h : signs) (asks : ∀ m ∈ ms, m.isCustody) :
      Tries signs ms (.error (.signer cause))
  | submitted {ms : List Moment} {signed : SignedTransaction} {left found : Client}
      {reply : Except NodeError TxHash} (asks : ∀ m ∈ ms, m.isCustody) :
      Tries signs (ms ++ [⟨.submit signed, left, reply, found⟩]) (reply.mapError .ofNode)
  | called {n : Nonce} {left found : Client} {reply : Except ClientError TxHash} :
      Tries signs [⟨.attempt n, left, reply, found⟩] reply

variable {r : Requester} {a : Address} {build : Builder} {s s' : Client} {p q : Attempt}
  {e : Errand} {signed : SignedTransaction} {result : Except ClientError TxHash} {v : Suspension}
  {limit : ℕ} {n : Nonce} {signs : Prop}

lemma tries_submit (h : (submit signed).Course s ms result s') : Tries signs ms result := by
  obtain ⟨reply, rfl, rfl⟩ := course_submit h
  exact @Tries.submitted signs [] signed s s' reply (List.forall_mem_nil _)

lemma tries_sendTemplate {t : Template} {chain : ChainId} (hsigns : signs)
    (h : (sendTemplate t chain n).Course s ms result s') : Tries signs ms result := by
  cases sent h with
  | locked unlocked => exact .unsigned hsigns (List.forall_mem_nil _)
  | unsigned unlocked signing => exact .unsigned hsigns (Signing.course_sign signing).1
  | submitted unlocked signing => exact .submitted (Signing.course_sign signing).1

lemma tries_caller {i : ℕ} (h : (caller i n).Course s ms result s') : Tries signs ms result := by
  obtain rfl := Task.course_call.1 h
  exact .called

lemma tries_again {i : ℕ} (h : (again signed caller i n).Course s ms result s') :
    Tries signs ms result := by
  cases i with
  | zero => exact tries_submit h
  | succ i => exact tries_caller (i := i) h

lemma Reaches.tries {pre : List Moment} (h : r.Reaches a s e build pre p)
    (hmade : Makes build q ms result s') : Tries (∃ t, e = .send t) ms result := by
  cases h with
  | request => exact tries_caller hmade
  | send => exact tries_sendTemplate ⟨_, rfl⟩ hmade
  | resubmit => exact tries_again hmade

namespace Tries

lemma submissions_le (h : Tries signs ms result) : submissions (ms.map (·.call)) ≤ 1 := by
  cases h with
  | unsigned _ asks => exact (submissions_of_custody asks).trans_le zero_le_one
  | submitted asks =>
    rw [submissions_map_append, submissions_of_custody asks, zero_add]
    exact le_rfl
  | called => exact le_rfl

lemma submissions_eq (h : Tries signs ms result) (hr : r.policy.Retries result) :
    submissions (ms.map (·.call)) = 1 := by
  cases h with
  | unsigned => exact hr.elim
  | submitted asks =>
    rw [submissions_map_append, submissions_of_custody asks, zero_add]
    rfl
  | called => rfl

lemma conflict (h : Tries signs ms result) (hc : ∀ m ∈ ms, m.Contested) :
    (∃ cause, result = .error (.conflict cause)) ∨
      signs ∧ ∃ cause, result = .error (.signer cause) := by
  cases h with
  | unsigned h asks => exact .inr ⟨h, _, rfl⟩
  | submitted asks =>
    obtain ⟨cause, rfl, hcause⟩ := hc _ (List.mem_append_right _ (List.mem_singleton_self _))
    exact .inl ⟨cause, congrArg Except.error (if_pos hcause)⟩
  | called => exact .inl (hc _ (List.mem_singleton_self _))

end Tries

section Tried

variable (ht : ∀ {q ms result s}, Makes build q ms result s → Tries signs ms result)
include ht

lemma Round.submissions (h : r.Round a build p ms q) :
    LedgerClient.submissions (ms.map (·.call)) = 1 := by
  obtain ⟨made, retries, recovery⟩ := h
  rw [submissions_map_append, (ht made).submissions_eq retries,
    submissions_of_pauses recovery.isPause]

lemma Rounds.submissions (h : r.Rounds a build p ms q) :
    p.index + LedgerClient.submissions (ms.map (·.call)) = q.index := by
  -- A round hands over one transaction and makes the index greater by one.
  induction h with
  | none p => rfl
  | @next p q q' ms ms' round _ ih =>
    have hindex : q.index = p.index + 1 := by
      cases round
      rfl
    rw [submissions_map_append, round.submissions ht, ← ih, hindex, add_assoc]

lemma Last.submissions_le (h : r.Last a build limit p ms result s) :
    LedgerClient.submissions (ms.map (·.call)) ≤ 1 := by
  cases h with
  | settled made final => exact (ht made).submissions_le
  | spent made retries reached => exact (ht made).submissions_le
  | defeated made retries below defeat =>
    rw [submissions_map_append, submissions_of_pauses defeat.isPause]
    exact (ht made).submissions_le

omit ht in
lemma Defeat.not_contested {cause : ClientError} (h : r.Defeat a s cause ms s') :
    ¬ ∀ m ∈ ms, m.Contested := by
  intro hc
  cases h with
  | unread =>
    obtain ⟨_, hreply, -⟩ := hc _ (List.mem_singleton_self _)
    cases hreply
  | exhausted rebind =>
    obtain ⟨_, hreply, hnext⟩ := (List.forall_mem_cons.1 hc).1
    cases hreply
    obtain ⟨-, ⟨-, hnone⟩ | ⟨n, hresult, -⟩⟩ := rebindAndAllocate_eq rebind
    · rw [hnone] at hnext
      cases hnext
    · cases hresult

lemma Last.contested (h : r.Last a build limit p ms result s) (hc : ∀ m ∈ ms, m.Contested) :
    p.index = limit ∧ LedgerClient.submissions (ms.map (·.call)) = 1 ∧
        (∃ cause, result = .error (.conflict cause)) ∨
      signs ∧ ∃ cause, result = .error (.signer cause) := by
  cases h with
  | settled made final =>
    rcases (ht made).conflict hc with ⟨cause, rfl⟩ | hsigner
    · exact absurd trivial final
    · exact .inr hsigner
  | spent made retries reached =>
    rcases (ht made).conflict hc with hconflict | ⟨-, _, hcause⟩
    · exact .inl ⟨reached, (ht made).submissions_eq retries, hconflict⟩
    · rw [hcause] at retries
      exact retries.elim
  | defeated made retries below defeat =>
    exact absurd (List.forall_mem_append.1 hc).2 defeat.not_contested

end Tried

lemma Reaches.submissions {pre : List Moment} (h : r.Reaches a s e build pre p) :
    LedgerClient.submissions (pre.map (·.call)) = p.index := by
  obtain ⟨seeding, rounds, n, s₁, rfl, hseeding, hrounds⟩ := h.seeded
  have hpauses : ∀ m ∈ seeding, m.call.isPause := by
    rcases hseeding with ⟨rfl, -⟩ | allocated
    · exact List.forall_mem_nil _
    · exact isPause_allocate allocated
  rw [submissions_map_append, submissions_of_pauses hpauses]
  exact hrounds.submissions h.tries

lemma Fares.submissions_le (h : r.Fares s e ms result s') :
    LedgerClient.submissions (ms.map (·.call)) ≤ r.policy.tries.toNat + 1 := by
  cases h with
  | refused begins => exact Nat.zero_le _
  | unseeded begins allocated =>
    rw [submissions_of_pauses (isPause_allocate allocated)]
    exact Nat.zero_le _
  | tried begins reaches within ends =>
    rw [submissions_map_append, reaches.submissions]
    exact Nat.add_le_add within (ends.submissions_le reaches.tries)

lemma Fares.contested (h : r.Fares s e ms result s') (hbegins : r.Begins s e ms)
    (hc : ∀ m ∈ ms, m.Contested) :
    LedgerClient.submissions (ms.map (·.call)) = r.policy.tries.toNat + 1 ∧
        (∃ cause, result = .error (.conflict cause)) ∨
      (∃ t, e = .send t) ∧ ∃ cause, result = .error (.signer cause) := by
  cases h with
  | refused begins => exact absurd hbegins begins
  | unseeded begins allocated => exact absurd hbegins begins
  | tried begins reaches within ends =>
    refine (ends.contested reaches.tries (List.forall_mem_append.1 hc).2).imp_left ?_
    rintro ⟨hindex, hlast, hconflict⟩
    rw [submissions_map_append, reaches.submissions, hlast, hindex]
    exact ⟨rfl, hconflict⟩

lemma submissions_suspended_le (h : (r.run e).Suspends s ms v) :
    submissions (ms.map (·.call) ++ [v.call]) ≤ r.policy.tries.toNat + 1 := by
  obtain ⟨post, result, s', hcourse⟩ := Run.Suspends.course h
  have hle := (fares hcourse).submissions_le
  rw [List.map_append, List.map_cons, List.append_cons, submissions_append] at hle
  exact (Nat.le_add_right _ _).trans hle

/-- A call that runs to its end or is dropped on the way hands over one transaction and at most as
many more as the policy has tries, one for each attempt. If the node refuses every nonce and tells
of another one each time, and no signature fails, it is that many exactly. The bound that the policy
tells of is that number but for the greatest number of tries, for which it is one less. -/
theorem submissions_exact (r : Requester) (s : Client) (e : Errand) :
    (∀ ms v, (r.run e).Suspends s ms v →
      submissions (ms.map (·.call) ++ [v.call]) ≤ r.policy.tries.toNat + 1) ∧
    (∀ ms result s', (r.run e).Course s ms result s' →
      submissions (ms.map (·.call)) ≤ r.policy.tries.toNat + 1 ∧
      (r.Begins s e ms → ∃ a build pre p last s₁, ms = pre ++ last ∧
        r.Reaches a s e build pre p ∧ r.Last a build r.policy.tries.toNat p last result s₁ ∧
        submissions (ms.map (·.call)) ≤ p.index + 1 ∧ p.index + 1 ≤ r.policy.tries.toNat + 1) ∧
      (r.Begins s e ms → (∀ m ∈ ms, m.Contested) →
        submissions (ms.map (·.call)) = r.policy.tries.toNat + 1 ∧
            (∃ cause, result = .error (.conflict cause)) ∨
          (∃ t, e = .send t) ∧ ∃ cause, result = .error (.signer cause))) ∧
    r.policy.tries.toNat + 1 =
      r.policy.maxAttempts + if r.policy.tries.toNat + 1 = UInt32.size then 1 else 0 := by
  refine ⟨fun ms v => submissions_suspended_le, fun ms result s' h => ?_, r.policy.tries_succ_eq⟩
  have hfares := fares h
  refine ⟨hfares.submissions_le, fun hbegins => ?_, hfares.contested⟩
  cases hfares with
  | refused begins => exact absurd hbegins begins
  | unseeded begins allocated => exact absurd hbegins begins
  | @tried a build pre last p _ s₁ begins reaches within ends =>
    refine ⟨a, build, pre, p, last, s₁, rfl, reaches, ends, ?_, Nat.succ_le_succ within⟩
    rw [submissions_map_append, reaches.submissions]
    exact Nat.add_le_add_left (ends.submissions_le reaches.tries) _

theorem submissions_exact_greatest :
    let a : Address := ⟨Curve.Point.base⟩
    let sig : Signature :=
      { r := ⟨1, by decide, by decide⟩, s := ⟨1, by decide, by decide⟩, low := by decide }
    let t : Template := { recipient := none, amount := 5 }
    let signed : SignedTransaction := ⟨t.fill (.ofName []) a 8, sig⟩
    let w : World := fun _ call s =>
      match call with
      | .readState _ => (.ok ⟨a, 40, 0⟩, s)
      | .attempt _ => (.error (.conflict ⟨.nonceTooLow, "stale"⟩), s)
      | .submit _ => (.error (.rejected ⟨.nonceTooLow, "stale"⟩), s)
      | call => (call.silence, s)
    let r : Requester := ⟨⟨4294967295, .ofMillis 100, false, by decide⟩, none⟩
    let s : Client := .start (.remote ⟨some ⟨a, ⟨"pw"⟩⟩⟩) none
    submissions (((r.run (.resubmit signed)).play w [] s).1.map (·.call)) = 4294967296 ∧
      r.policy.maxAttempts = 4294967295 := by
  intro a sig t signed w r s
  have hcontested : ∀ m ∈ ((r.run (.resubmit signed)).play w [] s).1, m.Contested := by
    intro m hm
    obtain ⟨past, hanswer⟩ := (Action.play_answers (r.run (.resubmit signed)) w [] s).of_mem hm
    obtain ⟨call, left, reply, found⟩ := m
    cases call with
    | submit tx => exact ⟨_, congrArg Prod.fst hanswer, rfl⟩
    | attempt n => exact ⟨_, congrArg Prod.fst hanswer⟩
    | readState b => exact ⟨_, congrArg Prod.fst hanswer, rfl⟩
    | _ => trivial
  obtain ⟨-, hcourses, -⟩ := submissions_exact r s (.resubmit signed)
  have hbegins (ms : List Moment) : r.Begins s (.resubmit signed) ms := .resubmit ⟨rfl, rfl⟩
  rcases (hcourses _ _ _ (Action.play_course _ w [] s)).2.2 (hbegins _) hcontested with
    ⟨hsubmissions, -⟩ | ⟨⟨_, hsend⟩, -⟩
  · exact ⟨hsubmissions, by decide⟩
  · cases hsend

end Requester

end LedgerClient
