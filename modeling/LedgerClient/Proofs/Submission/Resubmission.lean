import LedgerClient.Proofs.Submission.Refusal

/-! A resubmission is a submission loop for the transaction's sender that starts at the
transaction's own nonce: its first attempt submits the transaction as it is, and the caller's builder
makes the others. -/

namespace LedgerClient

def Client.tallies (s : Client) : Option (ℕ × ℕ × ℕ) :=
  s.metrics.map fun m => (m.attempts, m.conflicts, m.rebinds)

lemma Action.play_congr {ε α : Type} {x y : Action ε α} {s : Client} (h : x.run s = y.run s)
    (w : World) (past : List Moment) : x.play w past s = y.play w past s := by
  rw [play, h, play]

namespace Requester

variable {r : Requester} {s : Client} {signed : SignedTransaction} {build : Builder}
  {ms : List Moment} {result : Except ClientError TxHash} {s₁ : Client}

lemma tallies_finished (began : ℕ) (result : Except ClientError TxHash) (s : Client) :
    (s.finished began result).tallies = s.tallies := by
  rw [Client.tallies, Client.tallies, Client.finished, Client.mapMetrics, Option.map_map]
  congr 1
  funext m
  cases hr : result.isOk <;> simp only [Function.comp, Metrics.finish] <;> rfl

lemma run_recorded_congr {x y : Action ClientError TxHash} (h : x.run s = y.run s) :
    (recorded x).run s = (recorded y).run s := by
  change ((x.run s).bind _).bind _ = ((y.run s).bind _).bind _
  rw [h]

lemma play_recorded {x : Action ClientError TxHash} {w : World} {past : List Moment}
    (h : x.play w past s = (ms, result, s₁)) :
    (recorded x).play w past s = (ms, result, s₁.finished s.clock result) := by
  have hx := x.play_course w past s
  have hanswers := x.play_answers w past s
  rw [h] at hx hanswers
  exact (course_recorded.2 ⟨s₁, hx, rfl⟩ : (recorded x).Course s ms result _).play_eq hanswers

lemma run_ensureOwn {tx : Transaction} (h : s.signer.principal = .ok tx.sender) :
    (ensureOwn tx).run s = .done (.ok ()) s := by
  rw [ensureOwn, Action.run_bind_of_ok (run_principal_of_ok h), ensureSender, if_pos rfl]
  rfl

lemma run_resubmit (takes : r.Takes s signed) :
    (r.resubmit signed build).run s =
      (recorded (r.submitLoop signed.tx.sender (again signed build) r.policy.tries.toNat 0
        signed.tx.nonce)).run s := by
  rw [resubmit_eq]
  refine run_recorded_congr ?_
  rw [Action.run_ofExcept_bind takes.1, Action.run_bind_of_ok (run_ensureOwn takes.2)]

lemma submitLoop_again_head {a : Address} {left : ℕ} {n : Nonce}
    (h : (r.submitLoop a (again signed build) left 0 n).Course s ms result s₁) :
    ∃ reply found rest, ms = ⟨.submit signed, s.attempted, reply, found⟩ :: rest := by
  -- With attempts left or not, the first one is made before anything else.
  cases left <;>
    rcases course_attempt h with ⟨made, -⟩ | ⟨_, rest, _, _, rfl, made, -⟩ <;>
    obtain ⟨reply, rfl, -⟩ := course_submit made <;>
    exact ⟨reply, _, _, rfl⟩

/-- Whatever the node and the caller answer, a resubmission waits for the same, counts the same,
leaves the same nonces and returns the same as the loop whose first attempt is the transaction
itself, so that this attempt is one of those that the policy allows. -/
theorem resubmit_as_loop (takes : r.Takes s signed) (build : Builder) (w : World)
    (past : List Moment) :
    let a := signed.tx.sender
    let tries := r.policy.tries.toNat
    let loop := r.submitLoop a (again signed build) tries 0 signed.tx.nonce
    ∃ ms result s₁ s', loop.play w past s = (ms, result, s₁) ∧
      (r.resubmit signed build).play w past s = (ms, result, s') ∧
      s'.nonces = s₁.nonces ∧ s'.tallies = s₁.tallies ∧
      (∃ reply found rest, ms = ⟨.submit signed, s.attempted, reply, found⟩ :: rest) ∧
      ∃ rounds last p, ms = rounds ++ last ∧ p.index + 1 ≤ 1 + tries ∧
        r.Rounds a (again signed build) ⟨0, a, signed.tx.nonce, s⟩ rounds p ∧
        r.Last a (again signed build) tries p last result s₁ := by
  intro a tries loop
  rcases hloop : loop.play w past s with ⟨ms, result, s₁⟩
  have hcourse := loop.play_course w past s
  rw [hloop] at hcourse
  obtain ⟨p, rounds, last, hms, hp, hrounds, hlast⟩ := course_submitLoop a hcourse
  rw [Nat.zero_add] at hp hlast
  refine ⟨ms, result, s₁, s₁.finished s.clock result, rfl, ?_, rfl, tallies_finished _ _ _,
    submitLoop_again_head hcourse, rounds, last, p, hms, by omega, hrounds, hlast⟩
  rw [Action.play_congr (run_resubmit takes)]
  exact play_recorded hloop

theorem resubmit_as_loop_twice :
    let a : Address := ⟨Curve.Point.base⟩
    let sig : Signature :=
      { r := ⟨1, by decide, by decide⟩, s := ⟨1, by decide, by decide⟩, low := by decide }
    let t : Template := { recipient := none, amount := 5 }
    let signed : SignedTransaction := ⟨t.fill (.ofName []) a 8, sig⟩
    let w : World := fun _ call s =>
      match call with
      | .submit _ => (.error (.rejected ⟨.duplicateNonce, "stale"⟩), s)
      | .readState _ => (.ok ⟨a, 40, 0⟩, s)
      | .attempt _ => (.error (.conflict ⟨.nonceTooLow, "stale"⟩), s)
      | call => (call.silence, s)
    let r : Requester := ⟨.standard, none⟩
    let s : Client := .start (.remote ⟨some ⟨a, ⟨"pw"⟩⟩⟩) (some (.start "wallet"))
    let loop := r.submitLoop a (again signed caller) 2 0 8
    r.Takes s signed ∧ ((r.resubmit signed caller).play w [] s).1 = (loop.play w [] s).1 ∧
      (calls (loop.play w [] s).1).countP (·.isAttempt) = 2 := by
  intro a sig t signed w r s loop
  have takes : r.Takes s signed := ⟨rfl, rfl⟩
  obtain ⟨ms, result, s₁, s', hloop, hresubmit, -⟩ := resubmit_as_loop takes caller w []
  refine ⟨takes, ?_, by decide +kernel⟩
  rw [hresubmit]
  exact (congrArg Prod.fst hloop).symm

end Requester

end LedgerClient
