import LedgerClient.Proofs.Client.Frame
import LedgerClient.Proofs.Submission.Attempts
import LedgerClient.Proofs.Submission.Sender

namespace LedgerClient

inductive Errand where
  | request
  | send (t : Template)
  | resubmit (signed : SignedTransaction)

def Errand.account (s : Client) : Errand → Except SignerError Address
  | resubmit signed => .ok signed.tx.sender
  | _ => s.signer.principal

namespace Requester

def again (signed : SignedTransaction) (build : Builder) : Builder
  | 0, _ => submit signed
  | i + 1, n => build i n

def run (r : Requester) : Errand → Action ClientError TxHash
  | .request => r.request caller
  | .send t => r.send t
  | .resubmit signed => r.resubmit signed caller

inductive Reaches (r : Requester) (a : Address) (s : Client) :
    Errand → Builder → List Moment → Attempt → Prop
  | request {pre : List Moment} {p : Attempt} (arises : r.Arises a caller s pre p) :
      Reaches r a s .request caller pre p
  | send {t : Template} {chain : ChainId} {pre : List Moment} {p : Attempt}
      (resolved : r.resolveChain t.chain = .ok chain)
      (arises : r.Arises a (fun _ n => sendTemplate t chain n) s pre p) :
      Reaches r a s (.send t) (fun _ n => sendTemplate t chain n) pre p
  | resubmit {signed : SignedTransaction} {pre : List Moment} {p : Attempt}
      (rounds : r.Rounds a (again signed caller) ⟨0, a, signed.tx.nonce, s⟩ pre p) :
      Reaches r a s (.resubmit signed) (again signed caller) pre p

variable {r : Requester} {a : Address} {build : Builder} {s s' : Client} {ms : List Moment}
  {m : Moment} {signed : SignedTransaction} {result : Except ClientError TxHash} {e : Errand}

lemma idle_submit : (submit signed).Idle := by
  refine Action.idle_bind (Action.idle_lift Task.idle_call) fun reply => ?_
  cases reply with
  | ok hash => exact Action.idle_pure
  | error cause => exact Action.idle_throw

lemma idle_sendTemplate (t : Template) (chain : ChainId) (n : Nonce) :
    (sendTemplate t chain n).Idle := by
  refine Action.idle_bind (Action.idle_adapt Signing.idle_principal) fun sender => ?_
  exact Action.idle_bind (Action.idle_adapt (Signing.idle_sign _)) fun _ => idle_submit

lemma idle_caller (i : ℕ) (n : Nonce) : (caller i n).Idle := Task.idle_call

lemma idle_again (hb : ∀ i n, (build i n).Idle) (i : ℕ) (n : Nonce) :
    (again signed build i n).Idle := by
  cases i with
  | zero => exact idle_submit
  | succ i => exact hb i n

lemma Reaches.idle {pre : List Moment} {p : Attempt} (h : r.Reaches a s e build pre p) (i : ℕ)
    (n : Nonce) : (build i n).Idle := by
  cases h with
  | request => exact idle_caller i n
  | send => exact idle_sendTemplate _ _ n
  | resubmit => exact idle_again idle_caller i n

lemma Reaches.seeded {pre : List Moment} {p : Attempt} (h : r.Reaches a s e build pre p) :
    ∃ seeding rounds n s₁, pre = seeding ++ rounds ∧
      (seeding = [] ∧ s₁ = s ∨ (Nonces.allocate a).Course s seeding (.ok n) s₁) ∧
      r.Rounds a build ⟨0, a, n, s₁⟩ rounds p := by
  have harises {build : Builder} (h : r.Arises a build s pre p) :
      ∃ seeding rounds n s₁, pre = seeding ++ rounds ∧
        (seeding = [] ∧ s₁ = s ∨ (Nonces.allocate a).Course s seeding (.ok n) s₁) ∧
        r.Rounds a build ⟨0, a, n, s₁⟩ rounds p := by
    obtain @⟨seeding, ms, n, s₁, p, allocated, rounds⟩ := h
    exact ⟨seeding, ms, n, s₁, rfl, .inr allocated, rounds⟩
  cases h with
  | request arises => exact harises arises
  | send resolved arises => exact harises arises
  | resubmit rounds => exact ⟨[], pre, _, s, rfl, .inl ⟨rfl, rfl⟩, rounds⟩

lemma submitLoop_again (a : Address) (left i : ℕ) (n : Nonce) :
    r.submitLoop a (again signed build) left (i + 1) n = r.submitLoop a build left i n := by
  induction left generalizing i n with
  | zero => rfl
  | succ left ih => simp only [submitLoop, again, ih]

lemma resubmit_eq :
    r.resubmit signed build = recorded (do
      Action.ofExcept (r.ensureChain signed.tx)
      ensureOwn signed.tx
      r.submitLoop signed.tx.sender (again signed build) r.policy.tries.toNat 0 signed.tx.nonce) := by
  obtain ⟨left, hleft⟩ := Nat.exists_eq_succ_of_ne_zero r.policy.tries_pos.ne'
  simp only [resubmit, hleft, submitLoop, again, submitLoop_again]

def Takes (r : Requester) (s : Client) (signed : SignedTransaction) : Prop :=
  r.ensureChain signed.tx = .ok () ∧ s.signer.principal = .ok signed.tx.sender

lemma course_ensureOwn {tx : Transaction} {y : Except ClientError Unit}
    (h : (ensureOwn tx).Course s ms y s') :
    ms = [] ∧ s' = s ∧ (y = .ok () ↔ s.signer.principal = .ok tx.sender) := by
  rcases Action.course_bind.1 h with ⟨e, rfl, h₁⟩ | ⟨ms₁, b, s₁, ms₂, rfl, h₁, h₂⟩
  · obtain ⟨rfl, he, rfl⟩ := course_principal.1 h₁
    refine ⟨rfl, rfl, iff_of_false nofun fun hp => ?_⟩
    rw [hp] at he
    cases he
  · obtain ⟨rfl, hb, rfl⟩ := course_principal.1 h₁
    obtain ⟨rfl, rfl, rfl⟩ := Action.course_ofExcept.1 h₂
    refine ⟨rfl, rfl, ?_⟩
    rw [mapError_eq_ok.1 hb.symm, mapError_eq_ok, ensureSender, ite_else_error_eq_ok]
    exact ⟨fun h => congrArg Except.ok h.1.symm, fun h => ⟨(Except.ok.inj h).symm, rfl⟩⟩

lemma course_resubmit (h : (r.resubmit signed build).Course s ms result s') :
    ∃ s₁, s' = s₁.finished s.clock result ∧
      (ms = [] ∧ s₁ = s ∧ (∃ e, result = .error e) ∧ ¬ r.Takes s signed ∨
        r.Takes s signed ∧
          (r.submitLoop signed.tx.sender (again signed build) r.policy.tries.toNat 0
            signed.tx.nonce).Course s ms result s₁) := by
  rw [resubmit_eq] at h
  obtain ⟨s₁, h', rfl⟩ := course_recorded.1 h
  refine ⟨s₁, rfl, ?_⟩
  rcases Action.course_bind.1 h' with ⟨e, rfl, h₁⟩ | ⟨ms₁, _, s₂, ms₂, rfl, h₁, h₂⟩
  · obtain ⟨rfl, hc, rfl⟩ := Action.course_ofExcept.1 h₁
    refine .inl ⟨rfl, rfl, ⟨e, rfl⟩, fun htakes => ?_⟩
    rw [htakes.1] at hc
    cases hc
  obtain ⟨rfl, hc, rfl⟩ := Action.course_ofExcept.1 h₁
  rcases Action.course_bind.1 h₂ with ⟨e, rfl, h₃⟩ | ⟨ms₃, _, s₃, ms₄, rfl, h₃, h₄⟩
  · obtain ⟨rfl, rfl, hp⟩ := course_ensureOwn h₃
    exact .inl ⟨rfl, rfl, ⟨e, rfl⟩, fun htakes => nomatch hp.2 htakes.2⟩
  · obtain ⟨rfl, rfl, hp⟩ := course_ensureOwn h₃
    exact .inr ⟨⟨hc.symm, hp.1 rfl⟩, h₄⟩

lemma send_resolved {t : Template} {chain : ChainId} (h : r.resolveChain t.chain = .ok chain) :
    r.send t = r.request fun _ n => sendTemplate t chain n := by
  unfold send
  rw [h]

lemma course_send_unresolved {t : Template} {cause : ClientError}
    (hc : r.resolveChain t.chain = .error cause) (h : (r.send t).Course s ms result s') :
    ms = [] ∧ result = .error cause ∧ s' = s.finished s.clock result := by
  unfold send at h
  rw [hc] at h
  obtain ⟨s₁, h', rfl⟩ := course_recorded.1 h
  obtain ⟨rfl, rfl, rfl⟩ := Action.course_throw.1 h'
  exact ⟨rfl, rfl, rfl⟩

lemma run_made (ha : e.account s = .ok a) (h : (r.run e).Course s ms result s') (hm : m ∈ ms)
    (hc : ¬ m.call.isPause) :
    ∃ build pre p ms' result' s₁, pre ++ ms' <+: ms ∧ r.Reaches a s e build pre p ∧
      Makes build p ms' result' s₁ ∧ m ∈ ms' := by
  cases e with
  | request =>
    obtain ⟨pre, p, ms', result', s₁, hpre, arises, hmade⟩ := request_made ha h hm hc
    exact ⟨_, pre, p, ms', result', s₁, hpre, .request arises, hmade⟩
  | send t =>
    cases hchain : r.resolveChain t.chain with
    | ok chain =>
      rw [run, send_resolved hchain] at h
      obtain ⟨pre, p, ms', result', s₁, hpre, arises, hmade⟩ := request_made ha h hm hc
      exact ⟨_, pre, p, ms', result', s₁, hpre, .send hchain arises, hmade⟩
    | error e =>
      obtain ⟨rfl, -⟩ := course_send_unresolved hchain h
      cases hm
  | resubmit signed =>
    cases ha
    obtain ⟨s₁, rfl, ⟨rfl, -⟩ | ⟨-, h'⟩⟩ := course_resubmit h
    · cases hm
    obtain ⟨pre, post, rfl⟩ := List.append_of_mem hm
    obtain ⟨before, p, ms₁, ms₂, after, result', s₂, rfl, rfl, rounds, hmade, -⟩ :=
      submitLoop_split signed.tx.sender h' hc
    exact ⟨_, before, p, ms₁ ++ m :: ms₂, result', s₂, ⟨after, by simp⟩, .resubmit rounds, hmade,
      by simp⟩

end Requester

end LedgerClient
