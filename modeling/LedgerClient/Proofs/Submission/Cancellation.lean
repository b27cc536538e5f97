import LedgerClient.Proofs.Client.Suspension
import LedgerClient.Proofs.Submission.Balance
import LedgerClient.Proofs.Submission.Entries

/-! Requests that are dropped while they wait. Between two attempts nothing is taken over before the
nonce of the next one is, and that is counted in the same stretch. -/

namespace LedgerClient

namespace Client

def count (f : Metrics → ℕ) (s : Client) : ℤ := s.metrics.elim 0 fun m => f m

lemma count_mapMetrics {f : Metrics → ℕ} {g : Metrics → Metrics} {step : ℕ} {s : Client}
    (hg : ∀ m, f (g m) = f m + step) (hs : step = 0 ∨ s.metrics.isSome) :
    (s.mapMetrics g).count f = s.count f + step := by
  unfold count mapMetrics
  cases hm : s.metrics with
  | none =>
    obtain rfl : step = 0 := by simpa [hm] using hs
    rfl
  | some m => simp [hg]

end Client

def growth (f : Metrics → ℕ) : Client → List Moment → Client → ℤ
  | s, [], s' => s'.count f - s.count f
  | s, m :: ms, s' => m.left.count f - s.count f + growth f m.found ms s'

variable {f : Metrics → ℕ} {s s' : Client} {ms ms' : List Moment}

lemma growth_append (s₁ : Client) :
    growth f s (ms ++ ms') s' = growth f s ms s₁ + growth f s₁ ms' s' := by
  induction ms generalizing s with
  | nil =>
    cases ms' with
    | nil => simp only [List.nil_append, growth]; omega
    | cons m ms' => simp only [List.nil_append, growth]; omega
  | cons m ms ih => simp only [List.cons_append, growth, ih, add_assoc]

lemma growth_first (s₁ : Client) : growth f s ms s' = growth f s [] s₁ + growth f s₁ ms s' :=
  (growth_append s₁).symm ▸ rfl

lemma growth_last (s₁ : Client) : growth f s ms s' = growth f s ms s₁ + growth f s₁ [] s' := by
  rw [← growth_append s₁, List.append_nil]

lemma growth_of_uncounted (h : Uncounted ms) : growth f s ms s' = s'.count f - s.count f := by
  induction ms generalizing s with
  | nil => rfl
  | cons m ms ih =>
    obtain ⟨hm, hms⟩ := List.forall_mem_cons.1 h
    have hcount : m.found.count f = m.left.count f := congrArg (·.elim 0 fun m => (f m : ℤ)) hm
    rw [growth, ih hms, hcount]
    omega

def Metrics.unchanged (f : Metrics → ℕ) : Frame where
  Holds s ms s' := growth f s ms s' = 0
  refl _ := sub_self _
  wait call s reply found := by simp [growth]
  append {_ s₁ _ _ _} first rest := by rw [growth_append s₁, first, rest]; rfl

lemma Metrics.unchanged_spares {a : Address} : (unchanged f).Spares a := fun _ _ _ => sub_self _

structure Metrics.Paces (f : Metrics → ℕ) (step : ℕ) : Prop where
  attempts (m : Metrics) : f { m with attempts := m.attempts + 1 } = f m
  conflicts (m : Metrics) : f { m with conflicts := m.conflicts + 1 } = f m
  rebinds (m : Metrics) : f { m with rebinds := m.rebinds + 1 } = f m + step

lemma Metrics.paces_rebinds : Paces (·.rebinds) 1 := ⟨fun _ => rfl, fun _ => rfl, fun _ => rfl⟩

lemma Metrics.paces_succeeded : Paces (·.succeeded) 0 := ⟨fun _ => rfl, fun _ => rfl, fun _ => rfl⟩

lemma Metrics.paces_failed : Paces (·.failed) 0 := ⟨fun _ => rfl, fun _ => rfl, fun _ => rfl⟩

def Metered (ms : List Moment) : Prop := ∀ m ∈ ms, m.found.metrics.isSome

namespace Requester

variable (r : Requester) (a : Address) (build : Builder)

inductive Stalls (p : Attempt) : List Moment → Suspension → Prop
  | making {ms : List Moment} {v : Suspension}
      (h : (build p.index p.nonce).Suspends p.start.attempted ms v) : Stalls p ms v
  | recovering {ms₁ ms₂ : List Moment} {cause : ClientError} {s₁ : Client} {v : Suspension}
      (made : Makes build p ms₁ (.error cause) s₁) (retries : r.policy.Retries (.error cause))
      (h : (r.rebindAfterConflict a).Suspends (s₁.conflicted cause) ms₂ v) :
      Stalls p (ms₁ ++ ms₂) v

inductive Waits (s : Client) (e : Errand) : Option Attempt → List Moment → Suspension → Prop
  | seeding {ms : List Moment} {v : Suspension} (h : (Nonces.allocate a).Suspends s ms v) :
      Waits s e none ms v
  | stalling {build : Builder} {pre ms : List Moment} {p : Attempt} {v : Suspension}
      (reaches : r.Reaches a s e build pre p) (stalls : r.Stalls a build p ms v) :
      Waits s e (some p) (pre ++ ms) v

variable {r a build} {p q : Attempt} {v : Suspension} {e : Errand}

lemma suspends_attempt {x : Action ClientError TxHash}
    {retry : ClientError → Action ClientError TxHash}
    (h : Action.Suspends (do
      countAttempt
      r.conclude (← x.outcome) retry) s ms v) :
    x.Suspends s.attempted ms v ∨
      ∃ ms₁ ms₂ cause s₁, ms = ms₁ ++ ms₂ ∧ x.Course s.attempted ms₁ (.error cause) s₁ ∧
        r.policy.Retries (.error cause) ∧ (retry cause).Suspends (s₁.conflicted cause) ms₂ v := by
  rw [countAttempt_eq, Action.suspends_modify_bind] at h
  rcases Action.suspends_outcome_bind h with h | ⟨ms₁, y, s₁, ms₂, rfl, h₁, h₂⟩
  · exact .inl h
  rcases r.conclude_cases y retry with ⟨hr, he⟩ | ⟨cause, rfl, hr, he⟩
  · rw [he] at h₂
    exact absurd h₂ Action.not_suspends_ofExcept
  · rw [he, Action.suspends_modify_bind] at h₂
    exact .inr ⟨ms₁, ms₂, cause, s₁, rfl, h₁, hr, h₂⟩

lemma suspends_submitLoop (entry : Address) {left i : ℕ} {n : Nonce}
    (h : (r.submitLoop a build left i n).Suspends s ms v) :
    ∃ p pre rest, ms = pre ++ rest ∧ r.Rounds a build ⟨i, entry, n, s⟩ pre p ∧
      r.Stalls a build p rest v := by
  induction left generalizing i n s ms entry with
  | zero =>
    rcases suspends_attempt h with h | ⟨ms₁, ms₂, cause, s₁, rfl, h₁, hr, h₂⟩
    · exact ⟨_, [], ms, rfl, .none _, .making h⟩
    · exact absurd h₂ Action.not_suspends_throw
  | succ left ih =>
    rcases suspends_attempt h with h | ⟨ms₁, ms₂, cause, s₁, rfl, h₁, hr, h₂⟩
    · exact ⟨_, [], ms, rfl, .none _, .making h⟩
    rcases Action.suspends_bind h₂ with h₂ | ⟨ms₃, n', s₂, ms₄, rfl, h₃, h₄⟩
    · exact ⟨⟨i, entry, n, s⟩, [], _, rfl, .none _, .recovering h₁ hr h₂⟩
    · rcases course_rebindAfterConflict h₃ with ⟨entry', _, he, hc⟩ | ⟨_, he, -⟩
      · cases he
        obtain ⟨p, pre, rest, rfl, rounds, stalls⟩ := ih entry' h₄
        exact ⟨p, ms₁ ++ ms₃ ++ pre, rest, by simp, .next (.mk h₁ hr hc) rounds, stalls⟩
      · cases he

lemma suspends_recorded {x : Action ClientError TxHash} (h : (recorded x).Suspends s ms v) :
    x.Suspends s ms v := by
  rw [recorded, Action.suspends_get_bind] at h
  rcases Action.suspends_outcome_bind h with h | ⟨ms₁, y, s₁, ms₂, -, -, h⟩
  · exact h
  · exact absurd h Run.not_suspends_done

lemma suspends_request (hp : s.signer.principal = .ok a)
    (h : (r.request build).Suspends s ms v) :
    (Nonces.allocate a).Suspends s ms v ∨
      ∃ p pre rest, ms = pre ++ rest ∧ r.Arises a build s pre p ∧ r.Stalls a build p rest v := by
  rcases Action.suspends_bind (suspends_recorded h) with h | ⟨ms₁, a', s₁, ms₂, rfl, h₁, h₂⟩
  · exact absurd (Action.suspends_adapt h) Action.not_suspends_ofExcept
  obtain ⟨rfl, ha, rfl⟩ := course_principal.1 h₁
  rw [hp] at ha
  obtain rfl := Except.ok.inj ha
  rcases Action.suspends_bind h₂ with h₂ | ⟨ms₃, n, s₂, ms₄, rfl, h₃, h₄⟩
  · exact .inl (Action.suspends_adapt h₂)
  obtain ⟨y, hy, hn⟩ := Action.course_adapt.1 h₃
  obtain rfl := mapError_eq_ok.1 hy.symm
  obtain ⟨p, pre, rest, rfl, rounds, stalls⟩ := suspends_submitLoop _ h₄
  exact .inr ⟨p, ms₃ ++ pre, rest, by simp, .mk hn rounds, stalls⟩

lemma run_waits (he : ∀ signed, e ≠ .resubmit signed) (ha : e.account s = .ok a)
    (h : (r.run e).Suspends s ms v) : ∃ last, r.Waits a s e last ms v := by
  cases e with
  | request =>
    rcases suspends_request ha h with h | ⟨p, pre, rest, rfl, arises, stalls⟩
    · exact ⟨none, .seeding h⟩
    · exact ⟨some p, .stalling (.request arises) stalls⟩
  | send t =>
    cases hchain : r.resolveChain t.chain with
    | ok chain =>
      rw [run, send_resolved hchain] at h
      rcases suspends_request ha h with h | ⟨p, pre, rest, rfl, arises, stalls⟩
      · exact ⟨none, .seeding h⟩
      · exact ⟨some p, .stalling (.send hchain arises) stalls⟩
    | error cause =>
      rw [run, send, hchain] at h
      exact absurd (suspends_recorded h) Action.not_suspends_throw
  | resubmit signed => exact absurd rfl (he signed)

structure Steady (a : Address) (s : Client) (ms : List Moment) (p : Attempt) : Prop where
  entry : p.start.nonces.get? a = some ⟨some p.nonce, false⟩
  grown {f : Metrics → ℕ} {step : ℕ} (hf : Metrics.Paces f step) (hm : Metered ms) :
    growth f s ms p.start = step * p.index

section Counts

variable {step : ℕ} (hf : Metrics.Paces f step) {cause : ClientError}
include hf

lemma growth_attempted : growth f s [] s.attempted = 0 := by
  have h : s.attempted.count f = s.count f + (0 : ℕ) :=
    Client.count_mapMetrics hf.attempts (.inl rfl)
  exact sub_eq_zero.2 (h.trans (add_zero _))

lemma growth_conflicted : growth f s [] (s.conflicted cause) = 0 := by
  unfold Client.conflicted
  split
  · exact sub_eq_zero.2 ((Client.count_mapMetrics hf.conflicts (.inl rfl)).trans (add_zero _))
  · exact sub_self _

lemma growth_rebound (hs : s.metrics.isSome) : growth f s [] s.rebound = step :=
  sub_eq_iff_eq_add'.2 (Client.count_mapMetrics hf.rebinds (.inr hs))

variable (hb : ∀ i n, (build i n).Idle)
include hb

lemma Makes.growth_conflicted (h : Makes build p ms (.error cause) s) :
    growth f p.start ms (s.conflicted cause) = 0 := by
  have hmade : growth f p.start.attempted ms s = 0 :=
    (hb _ _).within (F := Metrics.unchanged f) h
  rw [growth_last s, growth_first p.start.attempted, growth_attempted hf, hmade,
    Requester.growth_conflicted hf]
  rfl

end Counts

section Undisturbed

variable {last : Option Nonce} (hspares : ∀ m ∈ ms, m.Spares a) (hhonest : ∀ m ∈ ms, m.Honest)
  (hs : s.nonces.get? a = some ⟨last, false⟩)
include hspares hhonest hs

lemma suspends_rebindAfterConflict (h : (r.rebindAfterConflict a).Suspends s ms v) :
    Still s ms v.left ∧ v.abandon = id := by
  rw [rebindAfterConflict] at h
  rcases Action.suspends_call_bind h with ⟨rfl, rfl⟩ | ⟨reply, found, ms₁, rfl, h₁⟩
  · exact ⟨rfl, rfl⟩
  cases reply with
  | error cause => exact absurd h₁ Action.not_suspends_throw
  | ok state =>
    rcases Action.suspends_call_bind h₁ with ⟨rfl, rfl⟩ | ⟨_, woken, ms₂, rfl, h₂⟩
    · exact ⟨⟨rfl, rfl⟩, rfl⟩
    obtain ⟨hread, hrest⟩ := List.forall_mem_cons.1 hspares
    have hwoken : woken.nonces.get? a = some ⟨last, false⟩ :=
      ((List.forall_mem_cons.1 hrest).1.1.trans hread.1).trans hs
    rcases Action.suspends_bind h₂ with h₂ | ⟨_, _, _, _, -, -, h₂⟩
    · have ha : state.address = a := (List.forall_mem_cons.1 hhonest).1
      have hfree := Nonces.held_of_get? hwoken
      exact absurd (Action.suspends_adapt h₂) (Nonces.not_suspends_rebindAndAllocate hfree ha)
    · exact absurd h₂ Action.not_suspends_pure

lemma Recovery.steady {entry : Address} {n : Nonce} (h : r.Recovery a s entry n ms s') :
    s'.nonces.get? a = some ⟨some n, false⟩ ∧
      ∀ {f step}, Metrics.Paces f step → Metered ms → growth f s ms s' = step := by
  obtain @⟨state, n, found, woken, s₂, ms, rebind⟩ := h
  obtain ⟨hread, hrest⟩ := List.forall_mem_cons.1 hspares
  have hwoken : woken.nonces.get? a = some ⟨last, false⟩ :=
    ((List.forall_mem_cons.1 hrest).1.1.trans hread.1).trans hs
  obtain ⟨rfl, hentry⟩ := Nonces.get?_rebindAndAllocate (Nonces.held_of_get? hwoken)
    (List.forall_mem_cons.1 hhonest).1 rebind
  refine ⟨hentry, fun {f step} hf hm => ?_⟩
  have hwait : Still s [⟨.readState a, s, .ok state, found⟩,
      ⟨.sleep r.policy.interval, found, (), woken⟩] woken := ⟨rfl, rfl, rfl⟩
  have hrebind : growth f woken [] s₂ = 0 :=
    Nonces.within_rebindAndAllocate Metrics.unchanged_spares rebind
  have hmetrics : s₂.metrics = woken.metrics :=
    Nonces.within_rebindAndAllocate Metrics.frame_spares rebind (List.forall_mem_nil _)
  have hsome : s₂.metrics.isSome :=
    hmetrics ▸ (List.forall_mem_cons.1 (List.forall_mem_cons.1 hm).2).1
  rw [growth_last s₂, growth_last woken, hwait.holds (Metrics.unchanged f), hrebind,
    growth_rebound hf hsome]
  omega

end Undisturbed

section Built

variable {pre : List Moment} {start : Client} (hb : ∀ i n, (build i n).Idle)
  (hspares : ∀ m ∈ ms, m.Spares a) (hhonest : ∀ m ∈ ms, m.Honest)
include hb hspares

lemma Makes.get?_conflicted {cause : ClientError} (hp : Steady a start pre p)
    (h : Makes build p ms (.error cause) s) :
    (s.conflicted cause).nonces.get? a = some ⟨some p.nonce, false⟩ := by
  rw [nonces_conflicted]
  exact ((h.untouched hb).get?_eq hspares).trans hp.entry

include hhonest

lemma Round.steady (h : r.Round a build p ms q) (hp : Steady a start pre p) :
    Steady a start (pre ++ ms) q := by
  obtain ⟨made, -, recovery⟩ := h
  obtain ⟨hspares₁, hspares₂⟩ := List.forall_mem_append.1 hspares
  obtain ⟨hentry, hgrown⟩ := recovery.steady hspares₂ (List.forall_mem_append.1 hhonest).2
    (made.get?_conflicted hb hspares₁ hp)
  refine ⟨hentry, fun {f step} hf hm => ?_⟩
  obtain ⟨hm₁, hm₂⟩ := List.forall_mem_append.1 hm
  rw [growth_append p.start, hp.grown hf hm₁, growth_append, made.growth_conflicted hf hb,
    hgrown hf (List.forall_mem_append.1 hm₂).2]
  push_cast
  ring

lemma Rounds.steady (h : r.Rounds a build p ms q) (hp : Steady a start pre p) :
    Steady a start (pre ++ ms) q := by
  induction h generalizing pre with
  | none p => rwa [List.append_nil]
  | next round _ ih =>
    obtain ⟨hspares₁, hspares₂⟩ := List.forall_mem_append.1 hspares
    obtain ⟨hhonest₁, hhonest₂⟩ := List.forall_mem_append.1 hhonest
    rw [← List.append_assoc]
    exact ih hspares₂ hhonest₂ (round.steady hb hspares₁ hhonest₁ hp)

lemma Arises.steady (hfree : (s.nonces.slot a).held = false) (h : r.Arises a build s ms p) :
    Steady a s ms p := by
  obtain @⟨seeding, ms, n, s₁, p, allocated, rounds⟩ := h
  obtain ⟨hspares₁, hspares₂⟩ := List.forall_mem_append.1 hspares
  refine rounds.steady hb hspares₂ (List.forall_mem_append.1 hhonest).2 ⟨?_, fun {f step} _ _ => ?_⟩
  · exact Nonces.get?_allocate hfree hspares₁ allocated
  · refine Eq.trans ?_ (mul_zero _).symm
    exact Nonces.within_allocate Metrics.unchanged_spares allocated

lemma Stalls.steady (h : r.Stalls a build p ms v) (hp : Steady a start pre p) :
    v.abandon = id ∧ v.left.nonces.get? a = some ⟨some p.nonce, false⟩ ∧
      ∀ {f step}, Metrics.Paces f step → growth f p.start ms v.left = 0 := by
  cases h with
  | making h =>
    obtain ⟨hstill, habandon⟩ := (hb _ _ _).suspends h
    refine ⟨habandon, ?_, fun {f step} hf => ?_⟩
    · exact ((hstill.holds (Untouched.frame a)).get?_eq hspares).trans hp.entry
    · rw [growth_first p.start.attempted, growth_attempted hf, hstill.holds (Metrics.unchanged f)]
      rfl
  | recovering made retries h =>
    obtain ⟨hspares₁, hspares₂⟩ := List.forall_mem_append.1 hspares
    have hentry := made.get?_conflicted hb hspares₁ hp
    obtain ⟨hstill, habandon⟩ :=
      suspends_rebindAfterConflict hspares₂ (List.forall_mem_append.1 hhonest).2 hentry h
    refine ⟨habandon, ?_, fun {f step} hf => ?_⟩
    · exact ((hstill.holds (Untouched.frame a)).get?_eq hspares₂).trans hentry
    · rw [growth_append, made.growth_conflicted hf hb, hstill.holds (Metrics.unchanged f)]
      rfl

end Built

structure Consistent (a : Address) (s : Client) (last : Option Attempt) (ms : List Moment)
    (v : Suspension) (found : Client) : Prop where
  cached : ((v.abandon found).nonces.slot a).last =
    last.elim (s.nonces.slot a).last fun p => some p.nonce
  resumes : Nonces.Resumes a (v.abandon found) ((v.abandon found).nonces.slot a).last
  rebinds (hm : Metered ms) :
    growth (·.rebinds) s ms v.left = last.elim 0 fun p => (p.index : ℤ)
  succeeded (hm : Metered ms) : growth (·.succeeded) s ms v.left = 0
  failed (hm : Metered ms) : growth (·.failed) s ms v.left = 0
  metrics : (v.abandon found).metrics = found.metrics

lemma Reaches.steady (he : ∀ signed, e ≠ .resubmit signed)
    (hfree : (s.nonces.slot a).held = false) (hspares : ∀ m ∈ ms, m.Spares a)
    (hhonest : ∀ m ∈ ms, m.Honest) (h : r.Reaches a s e build ms p) :
    (∀ i n, (build i n).Idle) ∧ Steady a s ms p := by
  cases h with
  | request arises => exact ⟨idle_caller, arises.steady idle_caller hspares hhonest hfree⟩
  | @send t chain _ _ resolved arises =>
    have hb := fun (_ : ℕ) => idle_sendTemplate t chain
    exact ⟨hb, arises.steady hb hspares hhonest hfree⟩
  | resubmit => exact absurd rfl (he _)

lemma Waits.consistent {last : Option Attempt} {found : Client}
    (he : ∀ signed, e ≠ .resubmit signed) (hfree : (s.nonces.slot a).held = false)
    (hspares : ∀ m ∈ ms, m.Spares a) (hhonest : ∀ m ∈ ms, m.Honest)
    (hfound : v.left.Spared a found) (h : r.Waits a s e last ms v) :
    Consistent a s last ms v found := by
  cases h with
  | seeding h =>
    -- The slot is held for the read alone, and is let go of without a nonce.
    obtain ⟨hlast, rfl, rfl⟩ := Nonces.suspends_allocate hfree h
    have hk : (s.mapNonces (·.touch a)).nonces.Current (s.nonces.ref a) := Nonces.current_touched
    have htouch := Nonces.get?_touch_free hfree
    rw [hlast] at htouch
    have hk' : found.nonces.Current (s.nonces.ref a) := Eq.trans hfound.2 hk.update
    have hheld : found.nonces.get? a = some ⟨none, true⟩ :=
      Eq.trans hfound.1 (hk.get?_update_some htouch)
    have hdropped : (found.mapNonces (·.release (s.nonces.ref a))).nonces.get? a =
        some ⟨none, false⟩ := hk'.get?_update_some hheld
    have hgrown (f : Metrics → ℕ) :
        growth f s [] ((s.mapNonces (·.touch a)).mapNonces (·.hold (s.nonces.ref a))) = 0 :=
      sub_self _
    refine ⟨?_, Nonces.resumes_of_free (Nonces.held_of_get? hdropped), fun _ => hgrown _,
      fun _ => hgrown _, fun _ => hgrown _, rfl⟩
    rw [Option.elim_none, hlast]
    exact congrArg Slot.last (NonceBook.slot_of_get? hdropped)
  | @stalling build pre rest p v reaches stalls =>
    obtain ⟨hspares₁, hspares₂⟩ := List.forall_mem_append.1 hspares
    obtain ⟨hhonest₁, hhonest₂⟩ := List.forall_mem_append.1 hhonest
    obtain ⟨hb, hsteady⟩ := reaches.steady he hfree hspares₁ hhonest₁
    obtain ⟨habandon, hleft, hstalls⟩ := stalls.steady hb hspares₂ hhonest₂ hsteady
    have hgrown {f : Metrics → ℕ} {step : ℕ} (hf : Metrics.Paces f step)
        (hm : Metered (pre ++ rest)) : growth f s (pre ++ rest) v.left = step * p.index := by
      rw [growth_append, hsteady.grown hf (List.forall_mem_append.1 hm).1, hstalls hf, add_zero]
    have hdropped : (v.abandon found).nonces.get? a = some ⟨some p.nonce, false⟩ := by
      rw [habandon]
      exact Eq.trans hfound.1 hleft
    refine ⟨congrArg Slot.last (NonceBook.slot_of_get? hdropped),
      Nonces.resumes_of_free (Nonces.held_of_get? hdropped), fun hm => ?_, fun hm => ?_,
      fun hm => ?_, by rw [habandon]; rfl⟩
    · simpa using hgrown Metrics.paces_rebinds hm
    · simpa using hgrown Metrics.paces_succeeded hm
    · simpa using hgrown Metrics.paces_failed hm

/-- A request may be dropped at any wait: the first read of its account's state, a submission, a
later read or a sleep. As long as nobody else uses the entry of its account and the node tells about
that account, it leaves the entry and the counts as they have to be after its last attempt. -/
theorem dropped_consistent (he : ∀ signed, e ≠ .resubmit signed) (ha : e.account s = .ok a)
    (hfree : (s.nonces.slot a).held = false) (hspares : ∀ m ∈ ms, m.Spares a)
    (hhonest : ∀ m ∈ ms, m.Honest) (h : (r.run e).Suspends s ms v) {found : Client}
    (hfound : v.left.Spared a found) :
    (∃ last, r.Waits a s e last ms v) ∧
      ∀ last, r.Waits a s e last ms v → Consistent a s last ms v found :=
  ⟨run_waits he ha h, fun _ hwaits => hwaits.consistent he hfree hspares hhonest hfound⟩

theorem dropped_consistent_asleep :
    let a : Address := ⟨Curve.Point.base⟩
    let w : World := fun _ call s =>
      match call with
      | .readState b => (.ok ⟨b, 7, 0⟩, s)
      | .attempt _ => (.error (.conflict ⟨.nonceTooLow, "expected 8"⟩), s)
      | call => (call.silence, s)
    let r : Requester := ⟨.standard, none⟩
    let s : Client := (Client.start (.remote ⟨some ⟨a, ⟨"pw"⟩⟩⟩)
      (some (.start "wallet"))).mapNonces fun book => (book.touch a).put (book.ref a) 4
    let ms : List Moment := ((r.run .request).play w [] s).1.take 2
    ∃ v, (r.run .request).Suspends s ms v ∧ v.call = .sleep (.ofMillis 100) ∧
      (v.left.nonces.slot a).last = some 5 ∧
        ∃ last, r.Waits a s .request last ms v ∧ Consistent a s last ms v v.left ∧
          v.left.count (·.rebinds) = last.elim 0 fun p => (p.index : ℤ) := by
  intro a w r s ms
  let waits := ((r.run .request).play w [] s).1
  have hw : w.Answers [] waits := (r.run .request).play_answers w [] s
  have hseen : (waits[2]?.map fun m => (m.call, (m.left.nonces.slot a).last)) =
      some (.sleep (.ofMillis 100), some 5) := by
    decide +kernel
  obtain ⟨m, hthird, hm⟩ := Option.map_eq_some_iff.1 hseen
  obtain ⟨hcall, hcached⟩ := Prod.mk.inj hm
  have hsplit : waits = ms ++ m :: waits.drop 3 := by
    obtain ⟨hlength, rfl⟩ := List.getElem?_eq_some_iff.1 hthird
    rw [← List.drop_eq_getElem_cons hlength, List.take_append_drop]
  have hmem {m : Moment} (hm : m ∈ ms) : m ∈ waits := List.mem_of_mem_take hm
  have hfound : ∀ m ∈ ms, m.found = m.left := by
    intro m hm
    obtain ⟨past, hanswer⟩ := hw.of_mem (hmem hm)
    have hleft : (w past m.call m.left).2 = m.left := by cases m.call <;> rfl
    exact (congrArg Prod.snd hanswer).trans hleft
  have hhonest : ∀ m ∈ ms, m.Honest := by
    have hw' : w.Honest := fun past b s state h => by cases h; rfl
    exact fun m hm => hw'.moment hw (hmem hm)
  obtain ⟨abandon, h⟩ := Run.Course.suspends (Action.play_course (r.run .request) w [] s) hsplit
  obtain ⟨⟨last, hwaits⟩, hconsistent⟩ := dropped_consistent (a := a) (by rintro _ ⟨⟩) rfl
    (by decide +kernel)
    (fun m hm => by rw [Moment.Spares, hfound m hm]; exact ⟨rfl, rfl⟩) hhonest h ⟨rfl, rfl⟩
  have hlast := hconsistent last hwaits
  have hmetered : Metered ms := by
    unfold Metered
    decide +kernel
  have hrebinds := hlast.rebinds hmetered
  rw [growth_of_uncounted fun m hm => congrArg (·.metrics) (hfound m hm)] at hrebinds
  exact ⟨_, h, hcall, hcached, last, hwaits, hlast, (sub_zero _).symm.trans hrebinds⟩

end Requester

end LedgerClient
