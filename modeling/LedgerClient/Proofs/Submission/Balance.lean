import LedgerClient.Proofs.Submission.Errand

namespace LedgerClient

def Uncounted (ms : List Moment) : Prop := ∀ m ∈ ms, m.found.metrics = m.left.metrics

lemma uncounted_append {ms ms' : List Moment} :
    Uncounted (ms ++ ms') ↔ Uncounted ms ∧ Uncounted ms' :=
  List.forall_mem_append

def Metrics.frame : Frame where
  Holds s ms s' := Uncounted ms → s'.metrics = s.metrics
  refl _ _ := rfl
  wait _ _ _ _ h := h _ (List.mem_singleton_self _)
  append first rest h :=
    (rest (uncounted_append.1 h).2).trans (first (uncounted_append.1 h).1)

lemma Metrics.frame_spares {a : Address} : frame.Spares a := fun _ _ _ _ => rfl

structure Metrics.Balanced (p : RetryPolicy) (calls begun : ℕ) (m : Metrics) : Prop where
  ended : m.succeeded + m.failed = calls
  timed : m.latency.count = calls
  attempted : m.attempts = m.rebinds + begun
  conflicts_le_attempts : m.conflicts ≤ m.attempts
  conflicts_le : m.conflicts ≤ m.rebinds + m.failed
  rebinds_le : p.retriesConnections = false → m.rebinds ≤ m.conflicts

namespace Metrics.Balanced

variable {p : RetryPolicy} {calls begun δ : ℕ} {m : Metrics}

lemma start (p : RetryPolicy) (family : String) : (Metrics.start family).Balanced p 0 0 :=
  ⟨rfl, rfl, rfl, le_rfl, le_rfl, fun _ => le_rfl⟩

lemma round (h : m.Balanced p calls begun) (hδ : δ ≤ 1)
    (hp : p.retriesConnections = false → δ = 1) :
    Balanced p calls begun { m with
      attempts := m.attempts + 1, conflicts := m.conflicts + δ, rebinds := m.rebinds + 1 } := by
  obtain ⟨ended, timed, attempted, conflicts_le_attempts, conflicts_le, rebinds_le⟩ := h
  refine ⟨ended, timed, ?_, ?_, ?_, fun hoff => ?_⟩
  · change m.attempts + 1 = m.rebinds + 1 + begun
    omega
  · exact Nat.add_le_add conflicts_le_attempts hδ
  · change m.conflicts + δ ≤ m.rebinds + 1 + m.failed
    omega
  · change m.rebinds + 1 ≤ m.conflicts + δ
    have := rebinds_le hoff
    have := hp hoff
    omega

lemma last (h : m.Balanced p calls begun) (hδ : δ ≤ 1) {success : Bool}
    (hs : success = true → δ = 0) (seconds : Float) :
    Balanced p (calls + 1) (begun + 1) (Metrics.finish
      { m with attempts := m.attempts + 1, conflicts := m.conflicts + δ } success seconds) := by
  obtain ⟨ended, timed, attempted, conflicts_le_attempts, conflicts_le, rebinds_le⟩ := h
  have hattempted : m.attempts + 1 = m.rebinds + (begun + 1) := by omega
  have hrebinds : p.retriesConnections = false → m.rebinds ≤ m.conflicts + δ :=
    fun hoff => (rebinds_le hoff).trans (Nat.le_add_right _ _)
  -- A conflict at the end is made up for by the failure that it is reported as.
  cases success with
  | true =>
    obtain rfl := hs rfl
    refine ⟨?_, congrArg (· + 1) timed, hattempted, Nat.add_le_add conflicts_le_attempts hδ,
      conflicts_le, hrebinds⟩
    change m.succeeded + 1 + m.failed = calls + 1
    omega
  | false =>
    refine ⟨?_, congrArg (· + 1) timed, hattempted, Nat.add_le_add conflicts_le_attempts hδ, ?_,
      hrebinds⟩
    · change m.succeeded + (m.failed + 1) = calls + 1
      omega
    · change m.conflicts + δ ≤ m.rebinds + (m.failed + 1)
      omega

lemma refused (h : m.Balanced p calls begun) (seconds : Float) :
    Balanced p (calls + 1) begun (m.finish false seconds) where
  ended := by
    change m.succeeded + (m.failed + 1) = calls + 1
    have := h.ended
    omega
  timed := congrArg (· + 1) h.timed
  attempted := h.attempted
  conflicts_le_attempts := h.conflicts_le_attempts
  conflicts_le := h.conflicts_le.trans (Nat.le_succ _)
  rebinds_le := h.rebinds_le

lemma readings (h : m.Balanced p calls begun) :
    reading m.succeeded + reading m.failed = reading calls ∧
      reading m.latency.count = reading calls ∧
        reading m.attempts = reading m.rebinds + reading begun := by
  have hadd (i j : ℕ) : reading (i + j) = reading i + reading j := UInt64.ofNat_add i j
  exact ⟨by rw [← hadd, h.ended], by rw [h.timed], by rw [← hadd, h.attempted]⟩

end Metrics.Balanced

def Client.Balanced (p : RetryPolicy) (calls begun : ℕ) (s : Client) : Prop :=
  ∃ m, s.metrics = some m ∧ m.Balanced p calls begun

namespace Requester

variable {r : Requester} {a : Address} {build : Builder} {s s' : Client} {ms : List Moment}
  {p q : Attempt} {calls begun : ℕ} {m : Metrics} {result : Except ClientError TxHash}
  {e : Errand} {signed : SignedTransaction}

lemma isConflict_of_retries {cause : ClientError} (h : r.policy.Retries (.error cause))
    (hoff : r.policy.retriesConnections = false) : cause.isConflict = true := by
  cases cause with
  | conflict cause => rfl
  | connection reason => exact absurd h (by simp [RetryPolicy.Retries, hoff])
  | _ => exact h.elim

lemma Recovery.metrics {entry : Address} {n : Nonce} (h : r.Recovery a s entry n ms s')
    (hms : Uncounted ms) (hm : s.metrics = some m) :
    s'.metrics = some { m with rebinds := m.rebinds + 1 } := by
  obtain ⟨rebind⟩ := h
  obtain ⟨hread, hrest⟩ := List.forall_mem_cons.1 hms
  obtain ⟨hsleep, hrest⟩ := List.forall_mem_cons.1 hrest
  have hrebind := Nonces.within_rebindAndAllocate Metrics.frame_spares rebind hrest
  exact congrArg (Option.map _) (((hrebind.trans hsleep).trans hread).trans hm)

lemma Defeat.metrics {cause : ClientError} (h : r.Defeat a s cause ms s') (hms : Uncounted ms) :
    s'.metrics = s.metrics := by
  cases h with
  | unread => exact hms _ (List.mem_singleton_self _)
  | exhausted rebind =>
    obtain ⟨hread, hrest⟩ := List.forall_mem_cons.1 hms
    obtain ⟨hsleep, hrest⟩ := List.forall_mem_cons.1 hrest
    have hrebind := Nonces.within_rebindAndAllocate Metrics.frame_spares rebind hrest
    exact (hrebind.trans hsleep).trans hread

lemma finished_balanced (hs : s.Balanced r.policy calls begun) (hm : s'.metrics = s.metrics)
    (cause : ClientError) (began : ℕ) :
    (s'.finished began (.error cause)).Balanced r.policy (calls + 1) begun := by
  obtain ⟨m, hs, hbalanced⟩ := hs
  exact ⟨_, congrArg (Option.map _) (hm.trans hs), hbalanced.refused _⟩

inductive Seeds (s : Client) (ms : List Moment) : Prop
  | mk {a : Address} {n : Nonce} {seeding : List Moment} {s₁ : Client} (waits : seeding <+: ms)
      (unlocked : s.signer.principal = .ok a)
      (allocated : (Nonces.allocate a).Course s seeding (.ok n) s₁)

inductive Begins (r : Requester) (s : Client) : Errand → List Moment → Prop
  | request {ms : List Moment} (seeds : Seeds s ms) : Begins r s .request ms
  | send {t : Template} {chain : ChainId} {ms : List Moment}
      (resolved : r.resolveChain t.chain = .ok chain) (seeds : Seeds s ms) :
      Begins r s (.send t) ms
  | resubmit {signed : SignedTransaction} {ms : List Moment} (takes : r.Takes s signed) :
      Begins r s (.resubmit signed) ms

inductive Fares (r : Requester) (s : Client) (e : Errand) :
    List Moment → Except ClientError TxHash → Client → Prop
  | refused {cause : ClientError} (begins : ¬ r.Begins s e []) :
      Fares r s e [] (.error cause) (s.finished s.clock (.error cause))
  | unseeded {a : Address} {ms : List Moment} {cause : NonceError} {s₁ : Client}
      (begins : ¬ r.Begins s e ms) (allocated : (Nonces.allocate a).Course s ms (.error cause) s₁) :
      Fares r s e ms (.error (.nonce cause)) (s₁.finished s.clock (.error (.nonce cause)))
  | tried {a : Address} {build : Builder} {pre last : List Moment} {p : Attempt}
      {result : Except ClientError TxHash} {s₁ : Client} (begins : r.Begins s e (pre ++ last))
      (reaches : r.Reaches a s e build pre p) (within : p.index ≤ r.policy.tries.toNat)
      (ends : r.Last a build r.policy.tries.toNat p last result s₁) :
      Fares r s e (pre ++ last) result (s₁.finished s.clock result)

lemma not_seeds_of_locked {cause : SignerError} (hp : s.signer.principal = .error cause) :
    ¬ Seeds s ms := by
  rintro ⟨-, unlocked, -⟩
  rw [hp] at unlocked
  cases unlocked

lemma not_seeds_of_error {cause : NonceError} (hp : s.signer.principal = .ok a)
    (h : (Nonces.allocate a).Course s ms (.error cause) s') : ¬ Seeds s ms := by
  rintro ⟨⟨rest, hrest⟩, unlocked, allocated⟩
  rw [hp] at unlocked
  cases unlocked
  -- An allocation that hands out a nonce would have the same waits as the one that fails.
  obtain ⟨-, heq, -⟩ := Run.Course.unique h allocated hrest.symm
  cases heq

lemma request_fares (hbegins : ∀ ms, r.Begins s e ms ↔ Seeds s ms)
    (hreaches : ∀ a pre p, r.Arises a build s pre p → r.Reaches a s e build pre p)
    (h : (r.request build).Course s ms result s') : r.Fares s e ms result s' := by
  cases hp : s.signer.principal with
  | error cause =>
    obtain ⟨rfl, rfl, rfl⟩ := course_request_locked hp h
    exact .refused (mt (hbegins _).1 (not_seeds_of_locked hp))
  | ok a =>
    obtain ⟨s₁, rfl, ⟨cause, rfl, h₁⟩ | ⟨seeding, n, s₂, rest, rfl, h₁, h₂⟩⟩ := course_request hp h
    · exact .unseeded (mt (hbegins _).1 (not_seeds_of_error hp h₁)) h₁
    · obtain ⟨p, rounds, last, rfl, hindex, hrounds, hlast⟩ := course_submitLoop a h₂
      rw [Nat.zero_add] at hindex hlast
      rw [← List.append_assoc]
      refine .tried ((hbegins _).2 (.mk ?_ hp h₁)) (hreaches _ _ _ (.mk h₁ hrounds)) hindex hlast
      rw [List.append_assoc]
      exact List.prefix_append _ _

lemma fares (h : (r.run e).Course s ms result s') : r.Fares s e ms result s' := by
  cases e with
  | request =>
    refine request_fares (fun _ => ⟨?_, .request⟩) (fun _ _ _ => .request) h
    rintro ⟨seeds⟩
    exact seeds
  | send t =>
    cases hchain : r.resolveChain t.chain with
    | ok chain =>
      rw [run, send_resolved hchain] at h
      refine request_fares (fun _ => ⟨?_, .send hchain⟩) (fun _ _ _ => .send hchain) h
      rintro (- | ⟨-, seeds⟩)
      exact seeds
    | error cause =>
      obtain ⟨rfl, rfl, rfl⟩ := course_send_unresolved hchain h
      refine .refused ?_
      rintro (- | ⟨resolved, -⟩)
      rw [hchain] at resolved
      cases resolved
  | resubmit signed =>
    obtain ⟨s₁, rfl, ⟨rfl, rfl, ⟨cause, rfl⟩, htakes⟩ | ⟨takes, h'⟩⟩ := course_resubmit h
    · refine .refused ?_
      rintro (- | - | ⟨takes⟩)
      exact htakes takes
    · obtain ⟨p, rounds, last, rfl, hindex, hrounds, hlast⟩ := course_submitLoop signed.tx.sender h'
      rw [Nat.zero_add] at hindex hlast
      exact .tried (.resubmit takes) (.resubmit hrounds) hindex hlast

section Built

variable (hb : ∀ i n, (build i n).Idle)
include hb

lemma Makes.metrics (h : Makes build p ms result s) (hms : Uncounted ms)
    (hm : p.start.metrics = some m) :
    s.metrics = some { m with attempts := m.attempts + 1 } :=
  ((hb _ _).within (F := Metrics.frame) h hms).trans (congrArg (Option.map _) hm)

lemma Makes.metrics_conflicted {cause : ClientError} (h : Makes build p ms (.error cause) s)
    (hms : Uncounted ms) (hm : p.start.metrics = some m) :
    (s.conflicted cause).metrics = some { m with
      attempts := m.attempts + 1, conflicts := m.conflicts + cause.isConflict.toNat } := by
  have hmade := h.metrics hb hms hm
  unfold Client.conflicted
  cases cause.isConflict with
  | true => exact congrArg (Option.map _) hmade
  | false => exact hmade

lemma Round.balanced (h : r.Round a build p ms q) (hms : Uncounted ms)
    (hs : p.start.Balanced r.policy calls begun) : q.start.Balanced r.policy calls begun := by
  obtain ⟨m, hm, hbalanced⟩ := hs
  obtain ⟨made, retries, recovery⟩ := h
  obtain ⟨hms₁, hms₂⟩ := uncounted_append.1 hms
  have hmade := made.metrics_conflicted hb hms₁ hm
  refine ⟨_, recovery.metrics hms₂ hmade, hbalanced.round (Bool.toNat_le _) fun hoff => ?_⟩
  rw [isConflict_of_retries retries hoff]
  rfl

lemma Rounds.balanced (h : r.Rounds a build p ms q) (hms : Uncounted ms)
    (hs : p.start.Balanced r.policy calls begun) : q.start.Balanced r.policy calls begun := by
  -- Before each attempt the counts are as between two calls.
  induction h with
  | none p => exact hs
  | next round _ ih =>
    obtain ⟨hround, hrest⟩ := uncounted_append.1 hms
    exact ih hrest (round.balanced hb hround hs)

lemma Last.metrics {limit : ℕ} (h : r.Last a build limit p ms result s) (hms : Uncounted ms)
    (hm : p.start.metrics = some m) :
    ∃ δ ≤ 1, (result.isOk = true → δ = 0) ∧
      s.metrics = some { m with attempts := m.attempts + 1, conflicts := m.conflicts + δ } := by
  cases h with
  | settled made final => exact ⟨0, Nat.zero_le _, fun _ => rfl, made.metrics hb hms hm⟩
  | spent made retries reached =>
    exact ⟨_, Bool.toNat_le _, nofun, made.metrics_conflicted hb hms hm⟩
  | defeated made retries below defeat =>
    obtain ⟨hms₁, hms₂⟩ := uncounted_append.1 hms
    have hmade := made.metrics_conflicted hb hms₁ hm
    exact ⟨_, Bool.toNat_le _, nofun, (defeat.metrics hms₂).trans hmade⟩

end Built

lemma run_balanced (h : (r.run e).Course s ms result s') (hms : Uncounted ms)
    (hs : s.Balanced r.policy calls begun) :
    r.Begins s e ms ∧ s'.Balanced r.policy (calls + 1) (begun + 1) ∨
      ¬ r.Begins s e ms ∧ s'.Balanced r.policy (calls + 1) begun := by
  cases fares h with
  | refused begins => exact .inr ⟨begins, finished_balanced hs rfl _ _⟩
  | unseeded begins allocated =>
    have hallocate := Nonces.within_allocate Metrics.frame_spares allocated hms
    exact .inr ⟨begins, finished_balanced hs hallocate _ _⟩
  | tried begins reaches within ends =>
    obtain ⟨hpre, hlast⟩ := uncounted_append.1 hms
    obtain ⟨seeding, rounds, n, s₁, rfl, hseeding, hrounds⟩ := reaches.seeded
    obtain ⟨hms₁, hms₂⟩ := uncounted_append.1 hpre
    have hs₁ : s₁.Balanced r.policy calls begun := by
      rcases hseeding with ⟨rfl, rfl⟩ | allocated
      · exact hs
      · obtain ⟨m, hm, hbalanced⟩ := hs
        exact ⟨m, (Nonces.within_allocate Metrics.frame_spares allocated hms₁).trans hm, hbalanced⟩
    obtain ⟨m, hm, hbalanced⟩ := hrounds.balanced reaches.idle hms₂ hs₁
    obtain ⟨δ, hδ, hok, hend⟩ := ends.metrics reaches.idle hlast hm
    exact .inl ⟨begins, _, congrArg (Option.map _) hend, hbalanced.last hδ hok _⟩

structure Served where
  errand : Errand
  start : Client
  waits : List Moment
  result : Except ClientError TxHash
  finish : Client

/-- Calls run to their ends one after another. Whoever else has the client may do to it what they
like, before a call and while it waits, but for the counts. -/
inductive Serves (r : Requester) : Client → List Served → Client → Prop
  | none (s : Client) : Serves r s [] s
  | next {s s' : Client} {v : Served} {vs : List Served} (between : v.start.metrics = s.metrics)
      (course : (r.run v.errand).Course v.start v.waits v.result v.finish)
      (uncounted : Uncounted v.waits) (rest : Serves r v.finish vs s') :
      Serves r s (v :: vs) s'

open scoped Classical in
noncomputable def countBegun (r : Requester) (vs : List Served) : ℕ :=
  vs.countP fun v => r.Begins v.start v.errand v.waits

lemma Serves.balanced {vs : List Served} (h : r.Serves s vs s')
    (hs : s.Balanced r.policy calls begun) :
    s'.Balanced r.policy (calls + vs.length) (begun + r.countBegun vs) := by
  induction h generalizing calls begun with
  | none s => exact hs
  | @next s s' v vs between course uncounted _ ih =>
    obtain ⟨m, hm, hbalanced⟩ := hs
    have hstart : v.start.Balanced r.policy calls begun := ⟨m, between.trans hm, hbalanced⟩
    rcases run_balanced course uncounted hstart with ⟨hbegins, hs'⟩ | ⟨hbegins, hs'⟩
    · have hcount : r.countBegun (v :: vs) = r.countBegun vs + 1 :=
        List.countP_cons_of_pos (by simpa using hbegins)
      rw [hcount, List.length_cons, add_comm vs.length, add_comm (r.countBegun vs), ← add_assoc,
        ← add_assoc]
      exact ih hs'
    · have hcount : r.countBegun (v :: vs) = r.countBegun vs :=
        List.countP_cons_of_neg (by simpa using hbegins)
      rw [hcount, List.length_cons, add_comm vs.length, ← add_assoc]
      exact ih hs'

/-- However calls end that run one after another: each is counted once with its outcome and its
duration, and every attempt but the first of a call goes with a nonce asked for anew. No attempt is
refused more than once, and each refusal is followed by a fresh nonce or by failure. Nothing but a
refusal leads to a fresh nonce unless the policy retries connections too. -/
theorem metrics_balance {family : String} {vs : List Served}
    (hs : s.metrics = some (.start family)) (h : r.Serves s vs s') :
    ∃ m, s'.metrics = some m ∧ m.Balanced r.policy vs.length (r.countBegun vs) := by
  have hbalanced := h.balanced ⟨_, hs, .start r.policy family⟩
  rwa [zero_add, zero_add] at hbalanced

lemma play_uncounted {ε α : Type} (x : Action ε α) {w : World}
    (hw : ∀ past call s, (w past call s).2.metrics = s.metrics) (s : Client) :
    Uncounted (x.play w [] s).1 := by
  intro m hm
  obtain ⟨past, hanswer⟩ := (x.play_answers w [] s).of_mem hm
  exact (congrArg (·.2.metrics) hanswer).trans (hw _ _ _)

def Served.play (r : Requester) (w : World) (e : Errand) (s : Client) : Served :=
  let run := (r.run e).play w [] s
  ⟨e, s, run.1, run.2.1, run.2.2⟩

lemma Serves.play {w : World} (hw : ∀ past call s, (w past call s).2.metrics = s.metrics)
    (e : Errand) {vs : List Served} (rest : r.Serves (Served.play r w e s).finish vs s') :
    r.Serves s (Served.play r w e s :: vs) s' :=
  .next rfl (Action.play_course (r.run e) w [] s) (play_uncounted (r.run e) hw s) rest

theorem metrics_balance_refused :
    let a : Address := ⟨Curve.Point.base⟩
    let w : World := fun _ call s =>
      match call with
      | .readState _ => (.ok ⟨a, 40, 0⟩, s)
      | .attempt n =>
        (if n = 9 then .error (.conflict ⟨.nonceTooLow, "stale"⟩) else .ok ⟨sha256 []⟩, s)
      | call => (call.silence, s)
    let r : Requester := ⟨.standard, none⟩
    let s : Client := (Client.start (.remote ⟨some ⟨a, ⟨"pw"⟩⟩⟩)
      (some (.start "wallet"))).mapNonces fun book => (book.touch a).put (book.ref a) 8
    let first := Served.play r w .request s
    let second := Served.play r w (.send { recipient := none, amount := 5 }) first.finish
    r.Serves s [first, second] second.finish ∧
      ∃ m, second.finish.metrics = some m ∧ m.attempts = 2 ∧ m.Balanced r.policy 2 1 := by
  intro a w r s first second
  have hw : ∀ past call s, (w past call s).2.metrics = s.metrics := by
    intro past call s
    cases call <;> rfl
  have hserves : r.Serves s [first, second] second.finish :=
    .play hw _ (.play hw _ (.none second.finish))
  have hs : s.metrics = some (.start "wallet") := rfl
  obtain ⟨m, hm, hbalanced⟩ := metrics_balance hs hserves
  have hcounts : second.finish.metrics.map (fun m => (m.attempts, m.rebinds)) = some (2, 1) := by
    decide +kernel
  rw [hm] at hcounts
  obtain ⟨hattempts, hrebinds⟩ := Prod.mk.inj (Option.some.inj hcounts)
  have hbegun : r.countBegun [first, second] = 1 := by
    have := hbalanced.attempted
    omega
  rw [hbegun] at hbalanced
  exact ⟨hserves, m, hm, hattempts, hbalanced⟩

end Requester

end LedgerClient
