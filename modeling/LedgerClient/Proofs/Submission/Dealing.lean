import LedgerClient.Proofs.Client.Dealing
import LedgerClient.Proofs.Submission.Sender

namespace LedgerClient

open Hand Nonces

variable {k : SlotRef} {s : Client} {n : Nonce} {h : Hand} {e : Option Slot}

inductive SendAsks (k : SlotRef) : Hand → Call → Prop
  | turn : SendAsks k .eager (.turn k)
  | seed : SendAsks k .holding (.readState k.account)
  | custody (n : Nonce) (call : CustodyCall) : SendAsks k (.owning n) (.custody call)
  | submit (tx : SignedTransaction) : SendAsks k (.owning tx.tx.nonce) (.submit tx)
  | read : SendAsks k .sent (.readState k.account)
  | sleep (n : Nonce) (span : Duration) : SendAsks k (.informed n) (.sleep span)
  | rebind (n : Nonce) : SendAsks k (.informed n) (.turn k)

namespace Signing

lemma spares_sign (tx : Transaction) : Spares k (SendAsks k) (.owning n) (sign tx).run := by
  refine Spares.action_bind (Spares.map Spares.get _) fun s => ?_
  cases s.signer with
  | resident signer => exact Spares.pure _
  | remote signer =>
    refine Spares.action_bind (Spares.action_bind (Spares.map Spares.get _) fun s => Spares.pure _)
      fun address => ?_
    refine Spares.action_bind (Spares.pure _) fun _ => ?_
    refine Spares.action_bind ?_ fun signature => ?_
    · refine Spares.action_bind (Spares.map (Spares.call (.custody n _) (by simp) (by simp) ?_) _)
        fun reply => ?_
      · exact fun _ => rfl
      · cases reply <;> exact Spares.pure _
    · split <;> exact Spares.pure _

lemma deals_sign (tx : Transaction) (s : Client) :
    (sign tx).Deals k (SendAsks k)
      (fun h y _ => h = .owning n ∧ ∀ signed, y = .ok signed → signed.tx = tx) (.owning n) s :=
  fun hk => (spares_sign tx s hk).and_course fun _ _ _ hc signed hy => ((course_sign hc).2 signed hy).1

end Signing

namespace Requester

variable {r : Requester} {t : Template} {chain : ChainId}
  {retry : ClientError → Action ClientError TxHash}

lemma deals_submit (tx : SignedTransaction) (s : Client) :
    (submit tx).Deals k (SendAsks k) (fun h _ _ => h = .sent) (.owning tx.tx.nonce) s := by
  refine Action.deals_lift_bind (m := fun h _ _ => h = .sent) ?_ ?_
  · exact Task.deals_call (.submit tx) (fun _ he => by cases he) (by simp) fun _ _ _ => rfl
  · rintro _ reply s rfl
    cases reply with
    | ok hash => exact Action.deals_pure rfl
    | error cause => exact Action.deals_throw rfl

lemma deals_sendTemplate (s : Client) :
    (sendTemplate t chain n).Deals k (SendAsks k)
      (fun h y _ => h = .sent ∨ ∃ cause, y = .error (.signer cause)) (.owning n) s := by
  have hsigner {α : Type} {y : Except SignerError α} {cause : ClientError}
      (hy : y.mapError ClientError.signer = .error cause) : ∃ c, cause = .signer c := by
    cases y with
    | ok v => cases hy
    | error c => exact ⟨c, (Except.error.inj hy).symm⟩
  refine Action.deals_bind (m := fun h y _ => h = .owning n ∧
    ∀ cause, y = .error cause → ∃ c, cause = .signer c) ?_ ?_ ?_
  · refine Action.deals_adapt (m := fun h _ _ => h = .owning n) ?_ ?_
    · exact Spares.action_bind (Spares.map Spares.get _) (fun s => Spares.pure _) s
    · exact fun h' y e hh => ⟨hh, fun cause hy => hsigner hy⟩
  · rintro _ sender s ⟨rfl, -⟩
    refine Action.deals_bind (m := fun h y _ => h = .owning n ∧
      (∀ signed, y = .ok signed → signed.tx = t.fill chain sender n) ∧
        ∀ cause, y = .error cause → ∃ c, cause = .signer c) ?_ ?_ ?_
    · refine Action.deals_adapt (Signing.deals_sign _ s) ?_
      rintro h' y e ⟨hh, htx⟩
      exact ⟨hh, fun signed hy => htx signed (mapError_eq_ok.1 hy), fun cause hy => hsigner hy⟩
    · rintro _ signed s ⟨rfl, htx, -⟩
      have hn : signed.tx.nonce = n := by rw [htx signed rfl]; rfl
      exact fun hk => hn ▸ (deals_submit signed s hk).mono fun _ _ _ hh => .inl hh
    · rintro h' cause e ⟨-, -, hc⟩
      obtain ⟨c, rfl⟩ := hc cause rfl
      exact .inr ⟨c, rfl⟩
  · rintro h' cause e ⟨-, hc⟩
    obtain ⟨c, rfl⟩ := hc cause rfl
    exact .inr ⟨c, rfl⟩

lemma deals_rebindAfterConflict (s : Client) :
    (r.rebindAfterConflict k.account).Deals k (SendAsks k)
      (fun h y _ => ∀ n, y = .ok n → h = .owning n)
      .sent s := by
  refine Action.deals_lift_bind
    (m := fun h reply _ =>
      ∀ state, reply = .ok state → state.address = k.account ∧ h = .informed state.nonce)
    ?_ ?_
  · refine Task.deals_call .read (fun _ he => by cases he) (by simp) ?_
    rintro reply e hr state rfl
    exact ⟨hr.honest rfl, rfl⟩
  rintro h reply s hreply
  cases reply with
  | error cause => exact Action.deals_throw fun n hn => by cases hn
  | ok state =>
    obtain ⟨ha, rfl⟩ := hreply state rfl
    refine Action.deals_lift_bind (m := fun h _ _ => h = .informed state.nonce) ?_ ?_
    · exact Task.deals_call (c := .sleep r.policy.interval) (.sleep _ _) (fun _ he => by cases he)
        (by simp) fun _ _ _ => rfl
    rintro _ _ s rfl
    have hrebind : (rebindAndAllocate state).Deals k (SendAsks k)
        (fun h y _ => ∀ n, y = .ok n → h = .owning n) (.informed state.nonce) s := by
      refine deals_rebindAndAllocate ha (.rebind _) (fun n m hm => ?_) fun cause e n hn => ?_
      · rw [Except.ok.inj hm]
      · cases hn
    refine Action.deals_bind (m := fun h y _ => ∀ n, y = .ok n → h = .owning n) ?_ ?_ ?_
    · exact Action.deals_adapt hrebind fun h y e hy n hn => hy n (mapError_eq_ok.1 hn)
    · intro h n s hn
      rw [countRebind_eq]
      refine Action.deals_modify_bind h id (.still _ _) (Action.deals_pure ?_)
      exact fun m hm => Except.ok.inj hm ▸ hn n rfl
    · exact fun h cause e _ n hn => by cases hn

lemma deals_attempt {x : Action ClientError TxHash}
    (hx : ∀ s, x.Deals k (SendAsks k) (fun h y _ => h = .sent ∨ ∃ cause, y = .error (.signer cause))
      (.owning n) s)
    (hretry : ∀ cause s, (retry cause).Deals k (SendAsks k) (fun _ _ _ => True) .sent s) (s : Client) :
    Action.Deals k (SendAsks k) (fun _ _ _ => True) (.owning n)
      (do
        countAttempt
        r.conclude (← x.outcome) retry) s := by
  rw [countAttempt_eq]
  refine Action.deals_modify_bind (.owning n) id (.still _ _) ?_
  refine Action.deals_lift_bind (hx _) ?_
  intro h y s hy
  rcases r.conclude_cases y retry with ⟨-, he⟩ | ⟨cause, rfl, hr, he⟩
  · rw [he]
    exact Action.deals_ofExcept trivial
  · rw [he]
    rcases hy with rfl | ⟨c, hc⟩
    · have hsame : (Client.conflicted cause s).nonces = s.nonces := by
        unfold Client.conflicted
        split <;> rfl
      refine Action.deals_modify_bind .sent (by rw [hsame]; exact id) ?_ (hretry cause _)
      rw [hsame]
      exact .still _ _
    · obtain rfl := Except.error.inj hc
      exact hr.elim

lemma deals_submitLoop (left i : ℕ) (n : Nonce) (s : Client) :
    (r.submitLoop k.account (fun _ n => sendTemplate t chain n) left i n).Deals k (SendAsks k)
      (fun _ _ _ => True) (.owning n) s := by
  induction left generalizing i n s with
  | zero => exact deals_attempt deals_sendTemplate (fun cause s => Action.deals_throw trivial) s
  | succ left ih =>
    refine deals_attempt deals_sendTemplate (fun cause s => ?_) s
    refine Action.deals_bind (deals_rebindAfterConflict s) ?_ fun _ _ _ _ => trivial
    intro h n s hn
    obtain rfl := hn n rfl
    exact ih (i + 1) n s

lemma deals_recorded {x : Action ClientError TxHash}
    (hx : x.Deals k (SendAsks k) (fun _ _ _ => True) h s) :
    (recorded x).Deals k (SendAsks k) (fun _ _ _ => True) h s := by
  refine Action.deals_get_bind (Action.deals_lift_bind hx ?_)
  intro h' y s _
  refine Action.deals_get_bind (Action.deals_modify_bind h' id (.still _ _) ?_)
  exact Action.deals_ofExcept trivial

lemma deals_send (hp : ∀ b, s.signer.principal = .ok b → b = k.account) :
    (r.send t).Deals k (SendAsks k) (fun _ _ _ => True) .eager s := by
  unfold send
  split
  · exact deals_recorded (Action.deals_throw trivial)
  refine deals_recorded (Action.deals_bind (m := fun h y _ => h = .eager ∧ ∀ b, y = .ok b → b = k.account)
    ?_ ?_ fun _ _ _ _ => trivial)
  · refine Action.deals_adapt (m := fun h y _ => h = .eager ∧ y = s.signer.principal) ?_ ?_
    · exact Action.deals_get_bind (Action.deals_ofExcept ⟨rfl, rfl⟩)
    · rintro h y e ⟨hh, rfl⟩
      exact ⟨hh, fun b hb => hp b (mapError_eq_ok.1 hb)⟩
  rintro _ b s ⟨rfl, hb⟩
  obtain rfl := hb b rfl
  refine Action.deals_bind (m := fun h y _ => ∀ n, y = .ok n → h = .owning n) ?_ ?_
    fun _ _ _ _ => trivial
  · refine Action.deals_adapt (m := fun h y _ => ∀ n, y = .ok n → h = .owning n)
      (deals_allocate .turn .seed ?_ ?_) fun h y e hy n hn => hy n (mapError_eq_ok.1 hn)
    · exact fun n m hm => by rw [Except.ok.inj hm]
    · exact fun h cause e _ n hn => by cases hn
  · intro h n s hn
    obtain rfl := hn n rfl
    exact deals_submitLoop _ _ n s

end Requester

end LedgerClient
