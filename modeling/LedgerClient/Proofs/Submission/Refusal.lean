import LedgerClient.Proofs.Submission.Errand

/-! Errands that are refused on the spot: first for their chain, then for a signer that is locked,
then for a sender that is not the unlocked account. Nothing but the count of failures tells of
them. -/

namespace LedgerClient

def Errand.chain? : Errand → Option ChainId
  | .request => none
  | .send t => t.chain
  | .resubmit signed => some signed.tx.chain

namespace Requester

def runWith (r : Requester) (build : Builder) : Errand → Action ClientError TxHash
  | .request => r.request build
  | .send t => r.send t
  | .resubmit signed => r.resubmit signed build

def Places (r : Requester) (e : Errand) : Prop :=
  (∀ pinned chain, r.chain = some pinned → e.chain? = some chain → chain = pinned) ∧
    ∀ t, e = .send t → r.chain.isSome ∨ t.chain.isSome

inductive Refused (r : Requester) (signer : Signer) : Errand → ClientError → Prop
  | elsewhere {e : Errand} {pinned chain : ChainId} (pins : r.chain = some pinned)
      (names : e.chain? = some chain) (other : chain ≠ pinned) :
      Refused r signer e (.chainMismatch pinned chain)
  | nowhere {t : Template} (pins : r.chain = none) (names : t.chain = none) :
      Refused r signer (.send t) (.transaction (.missingField "chain_id"))
  | locked {e : Errand} (places : r.Places e) (closed : signer.principal? = none) :
      Refused r signer e (.signer .locked)
  | foreign {signed : SignedTransaction} {a : Address} (places : r.Places (.resubmit signed))
      (unlocked : signer.principal? = some a) (other : signed.tx.sender ≠ a) :
      Refused r signer (.resubmit signed) (.signer (.senderMismatch a signed.tx.sender))

variable {r : Requester} {s s' : Client} {build : Builder} {e : Errand} {cause : ClientError}

lemma run_recorded {x : Action ClientError TxHash} {result : Except ClientError TxHash}
    (h : x.run s = .done result s') :
    (recorded x).run s = .done result (s'.finished s.clock result) := by
  change ((x.run s).bind _).bind _ = _
  rw [h]
  rfl

lemma run_principal : principal.run s = .done (s.signer.principal.mapError .signer) s := rfl

lemma run_request_locked (h : s.signer.principal = .error .locked) :
    (r.request build).run s =
      .done (.error (.signer .locked)) (s.finished s.clock (.error (.signer .locked))) := by
  refine run_recorded (Action.run_bind_of_error ?_)
  rw [run_principal, h]
  rfl

lemma principal_of_none {signer : Signer} (h : signer.principal? = none) :
    signer.principal = .error .locked := by
  rw [Signer.principal, h]

lemma principal_of_some {signer : Signer} {a : Address} (h : signer.principal? = some a) :
    signer.principal = .ok a := by
  rw [Signer.principal, h]

lemma run_principal_of_ok {a : Address} (h : s.signer.principal = .ok a) :
    principal.run s = .done (.ok a) s := by
  rw [run_principal, h]
  rfl

lemma ensureChain_of_places {signed : SignedTransaction} (h : r.Places (.resubmit signed)) :
    r.ensureChain signed.tx = .ok () := by
  unfold ensureChain
  split
  · rfl
  · rename_i pinned hpinned
    exact if_pos (h.1 pinned _ hpinned rfl)

lemma resolveChain_of_places {t : Template} (h : r.Places (.send t)) :
    ∃ chain, r.resolveChain t.chain = .ok chain := by
  obtain ⟨hsame, hsome⟩ := h
  unfold resolveChain
  cases hr : r.chain with
  | none =>
    cases ht : t.chain with
    | none => simp [hr, ht] at hsome
    | some chain => exact ⟨chain, rfl⟩
  | some pinned =>
    cases ht : t.chain with
    | none => exact ⟨pinned, rfl⟩
    | some chain => exact ⟨pinned, if_pos (hsame pinned chain hr ht).symm⟩

lemma run_send_unresolved {t : Template} (h : r.resolveChain t.chain = .error cause) :
    (r.send t).run s = .done (.error cause) (s.finished s.clock (.error cause)) := by
  unfold send
  rw [h]
  exact run_recorded rfl

lemma run_resubmit_unplaced {signed : SignedTransaction}
    (h : r.ensureChain signed.tx = .error cause) :
    (r.resubmit signed build).run s = .done (.error cause) (s.finished s.clock (.error cause)) := by
  refine run_recorded (Action.run_bind_of_error ?_)
  rw [h]
  rfl

lemma run_resubmit_unowned {signed : SignedTransaction} (hc : r.ensureChain signed.tx = .ok ())
    (h : (ensureOwn signed.tx).run s = .done (.error cause) s) :
    (r.resubmit signed build).run s = .done (.error cause) (s.finished s.clock (.error cause)) := by
  refine run_recorded ?_
  rw [Action.run_ofExcept_bind hc]
  exact Action.run_bind_of_error h

lemma Refused.run (h : r.Refused s.signer e cause) (build : Builder) :
    (r.runWith build e).run s = .done (.error cause) (s.finished s.clock (.error cause)) := by
  cases h with
  | @elsewhere e pinned chain pins names other =>
    cases e with
    | request => cases names
    | send t =>
      refine run_send_unresolved ?_
      have names : t.chain = some chain := names
      simp only [resolveChain, pins, names]
      exact if_neg other.symm
    | resubmit signed =>
      cases names
      refine run_resubmit_unplaced ?_
      rw [ensureChain, pins]
      exact if_neg other
  | nowhere pins names =>
    refine run_send_unresolved ?_
    simp only [resolveChain, pins, names]
  | locked places closed =>
    have hp := principal_of_none closed
    cases e with
    | request => exact run_request_locked hp
    | send t =>
      obtain ⟨chain, hchain⟩ := resolveChain_of_places places
      rw [runWith, send_resolved hchain]
      exact run_request_locked hp
    | resubmit signed =>
      refine run_resubmit_unowned (ensureChain_of_places places) (Action.run_bind_of_error ?_)
      rw [run_principal, hp]
      rfl
  | foreign places unlocked other =>
    refine run_resubmit_unowned (ensureChain_of_places places) ?_
    rw [ensureOwn, Action.run_bind_of_ok (run_principal_of_ok (principal_of_some unlocked)),
      ensureSender, if_neg other]
    rfl

/-- An errand that is refused is over before any wait, whatever the caller would have built, and
leaves nothing behind but one more failure. A wrong or missing chain is told of first, then that the
signer is locked, then that the sender is another. -/
theorem refused_without_trace (h : r.Refused s.signer e cause) (build : Builder) :
    (r.runWith build e).run s = .done (.error cause) { s with
      metrics := s.metrics.map fun m => { m with
        failed := m.failed + 1, latency := m.latency.observe (seconds 0) } } := by
  rw [h.run build, Client.finished, Nat.sub_self]
  rfl

theorem refused_without_trace_elsewhere :
    let a : Address := ⟨Curve.Point.base⟩
    let sig : Signature :=
      { r := ⟨1, by decide, by decide⟩, s := ⟨1, by decide, by decide⟩, low := by decide }
    let pinned : ChainId := .ofName []
    let other : ChainId := .ofName [1]
    let r : Requester := ⟨.standard, some pinned⟩
    let s : Client := (Client.start (.remote ⟨none⟩) (some (.start "wallet"))).mapNonces
      fun book => (book.touch a).hold (book.ref a)
    let t : Template := { recipient := none, amount := 5 }
    let e : Errand := .resubmit ⟨t.fill other a 8, sig⟩
    r.Refused s.signer e (.chainMismatch pinned other) ∧
      ∃ s', (r.runWith caller e).run s = .done (.error (.chainMismatch pinned other)) s' ∧
        s'.nonces = s.nonces ∧ s'.metrics.map (fun m => (m.attempts, m.failed)) = some (0, 1) := by
  intro a sig pinned other r s t e
  have hother : other ≠ pinned := by decide +kernel
  have hrefused : r.Refused s.signer e (.chainMismatch pinned other) := .elsewhere rfl rfl hother
  exact ⟨hrefused, _, refused_without_trace hrefused caller, rfl, rfl⟩

end Requester

end LedgerClient
