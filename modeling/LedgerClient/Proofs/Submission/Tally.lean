import LedgerClient.Proofs.Submission.Bound

/-! What the count of attempts counts. An attempt is counted before its transaction is signed. So the
count is ahead of the submissions by one as long as a signature is awaited, and for good if none
comes. -/

namespace LedgerClient

def Call.isSubmit : Call → Bool
  | submit _ => true
  | _ => false

def submits (calls : List Call) : ℕ := calls.countP (·.isSubmit)

def Call.lead : Call → ℕ
  | custody _ => 1
  | _ => 0

def Counts (n : ℕ) (s s' : Client) : Prop :=
  ∀ m, s.metrics = some m → ∃ m', s'.metrics = some m' ∧ m'.attempts = m.attempts + n

/-- A task starts with the count of attempts ahead of its submissions, and ends so. -/
inductive Tallies : ℕ → Client → List Moment → ℕ → Client → Prop
  | done {d n : ℕ} {s s' : Client} (counts : Counts n s s') : Tallies d s [] (d + n) s'
  | wait {d d' n : ℕ} {s s' : Client} {m : Moment} {ms : List Moment} (counts : Counts n s m.left)
      (ahead : d + n = submits [m.call] + m.call.lead)
      (rest : Tallies m.call.lead m.found ms d' s') : Tallies d s (m :: ms) d' s'

variable {s s₁ s' : Client} {ms ms' pre post : List Moment} {m : Moment} {n n' d d₁ d' : ℕ}

lemma submits_append (calls calls' : List Call) :
    submits (calls ++ calls') = submits calls + submits calls' :=
  List.countP_append

lemma counts_of_eq (h : s'.metrics = s.metrics) : Counts 0 s s' := fun m hm => ⟨m, h.trans hm, rfl⟩

lemma counts_map {f : Metrics → Metrics} (hf : ∀ m, (f m).attempts = m.attempts + n) :
    Counts n s (s.mapMetrics f) := fun m hm => ⟨f m, congrArg (Option.map f) hm, hf m⟩

lemma Counts.trans (h : Counts n s s₁) (h' : Counts n' s₁ s') : Counts (n + n') s s' := by
  intro m hm
  obtain ⟨m₁, hm₁, h₁⟩ := h m hm
  obtain ⟨m', hm', h₂⟩ := h' m₁ hm₁
  exact ⟨m', hm', by rw [h₂, h₁, add_assoc]⟩

lemma counts_attempted : Counts 1 s s.attempted := counts_map fun _ => rfl

lemma counts_conflicted (cause : ClientError) : Counts 0 s (s.conflicted cause) := by
  unfold Client.conflicted
  split
  · exact counts_map fun _ => rfl
  · exact counts_of_eq rfl

lemma counts_finished (began : ℕ) (result : Except ClientError TxHash) :
    Counts 0 s (s.finished began result) := by
  refine counts_map fun m => ?_
  rw [Metrics.finish]
  split <;> rfl

namespace Tallies

lemma stay (h : Counts 0 s s') : Tallies d s [] d s' := .done h

lemma append (h : Tallies d s ms d₁ s₁) (h' : Tallies d₁ s₁ ms' d' s') :
    Tallies d s (ms ++ ms') d' s' := by
  induction h with
  | done counts =>
    cases h' with
    | done counts' =>
      rw [List.nil_append, add_assoc]
      exact .done (counts.trans counts')
    | wait counts' ahead rest =>
      rw [add_assoc] at ahead
      exact .wait (counts.trans counts') ahead rest
  | wait counts ahead _ ih => exact .wait counts ahead (ih h')

lemma first (h : Counts n s s₁) (h' : Tallies (d + n) s₁ ms d' s') : Tallies d s ms d' s' :=
  (Tallies.done h).append h'

lemma last (h : Tallies d s ms d' s₁) (h' : Counts 0 s₁ s') : Tallies d s ms d' s' := by
  rw [← List.append_nil ms]
  exact h.append (.stay h')

lemma upto (h : Tallies d s (pre ++ m :: post) d' s') :
    Tallies d s pre (submits [m.call] + m.call.lead) m.left := by
  generalize hms : pre ++ m :: post = ms at h
  induction h generalizing pre with
  | done counts => simp at hms
  | @wait d d' n s s' m' ms counts ahead rest ih =>
    cases pre with
    | nil =>
      obtain ⟨rfl, -⟩ := List.cons.inj hms
      rw [← ahead]
      exact .done counts
    | cons _ pre =>
      obtain ⟨rfl, hrest⟩ := List.cons.inj hms
      exact .wait counts ahead (ih hrest)

lemma of_still (hstill : Still s ms s') (hasks : ∀ m ∈ ms, m.isCustody) : Tallies 1 s ms 1 s' := by
  induction ms generalizing s with
  | nil =>
    obtain rfl : s' = s := hstill
    exact .stay (counts_of_eq rfl)
  | cons m ms ih =>
    obtain ⟨rfl, hrest⟩ := hstill
    obtain ⟨⟨call, hcall⟩, hasks⟩ := List.forall_mem_cons.1 hasks
    refine .wait (counts_of_eq rfl) ?_ ?_
    · rw [hcall]
      rfl
    · rw [hcall]
      exact ih hrest hasks

def frame : Frame where
  Holds s ms s' := (∀ m ∈ ms, m.call.isPause) → Tallies 0 s ms 0 s'
  refl _ _ := .stay (counts_of_eq rfl)
  wait call s reply found h := by
    have hcall : call.isPause := h _ (List.mem_singleton_self _)
    refine .wait (counts_of_eq rfl) ?_ ?_
    · cases call <;> first | rfl | cases hcall
    · cases call <;> first | exact .stay (counts_of_eq rfl) | cases hcall
  append first rest h :=
    (first (List.forall_mem_append.1 h).1).append (rest (List.forall_mem_append.1 h).2)

lemma frame_spares {a : Address} : frame.Spares a := fun _ _ _ _ => .stay (counts_of_eq rfl)

end Tallies

def lost : Except ClientError TxHash → ℕ
  | .error (.signer _) => 1
  | _ => 0

namespace Requester

variable {r : Requester} {a : Address} {p q : Attempt} {t : Template} {chain : ChainId}
  {result : Except ClientError TxHash} {limit : ℕ}

lemma lost_submitted (reply : Except NodeError TxHash) : lost (reply.mapError .ofNode) = 0 := by
  cases reply with
  | ok hash => rfl
  | error cause =>
    cases cause with
    | connection reason => rfl
    | rejected cause =>
      change lost (.error (if cause.isRetryable then _ else _)) = 0
      split <;> rfl

lemma lost_of_retries (h : r.policy.Retries result) : lost result = 0 := by
  cases result with
  | ok hash => rfl
  | error cause =>
    cases cause with
    | signer cause => exact h.elim
    | _ => rfl

lemma Recovery.tallies {entry : Address} {nonce : Nonce} (h : r.Recovery a s entry nonce ms s') :
    Tallies 0 s ms 0 s' := by
  have hpauses := h.isPause
  obtain ⟨rebind⟩ := h
  obtain ⟨-, hpauses⟩ := List.forall_mem_cons.1 hpauses
  have hrebind : Tallies 0 _ _ 0 _ :=
    Nonces.within_rebindAndAllocate Tallies.frame_spares rebind (List.forall_mem_cons.1 hpauses).2
  refine .last ?_ (counts_map fun _ => rfl)
  exact .wait (counts_of_eq rfl) rfl (.wait (counts_of_eq rfl) rfl hrebind)

lemma Defeat.tallies {cause : ClientError} (h : r.Defeat a s cause ms s') :
    Tallies 0 s ms 0 s' ∧ lost (.error cause) = 0 := by
  have hpauses := h.isPause
  cases h with
  | @unread cause =>
    refine ⟨.wait (counts_of_eq rfl) rfl (.stay (counts_of_eq rfl)), ?_⟩
    exact lost_submitted (.error cause)
  | exhausted rebind =>
    obtain ⟨-, hpauses⟩ := List.forall_mem_cons.1 hpauses
    have hrebind : Tallies 0 _ _ 0 _ :=
      Nonces.within_rebindAndAllocate Tallies.frame_spares rebind (List.forall_mem_cons.1 hpauses).2
    exact ⟨.wait (counts_of_eq rfl) rfl (.wait (counts_of_eq rfl) rfl hrebind), rfl⟩

lemma sign_tallies {tx : Transaction} {y : Except SignerError SignedTransaction}
    (h : (Signing.sign tx).Course s ms y s') : Tallies 1 s ms 1 s' :=
  .of_still ((Signing.idle_sign tx s).still h) (Signing.course_sign h).1

lemma sendTemplate_tallies {nonce : Nonce}
    (h : (sendTemplate t chain nonce).Course s ms result s') : Tallies 1 s ms (lost result) s' := by
  cases sent h with
  | locked unlocked => exact .stay (counts_of_eq rfl)
  | unsigned unlocked signs =>
    exact sign_tallies signs
  | submitted unlocked signs =>
    rw [lost_submitted]
    exact (sign_tallies signs).append (.wait (counts_of_eq rfl) rfl (.stay (counts_of_eq rfl)))

abbrev sends (t : Template) (chain : ChainId) : Builder := fun _ n => sendTemplate t chain n

lemma Makes.tallies (h : Makes (sends t chain) p ms result s) :
    Tallies 0 p.start ms (lost result) s :=
  .first counts_attempted (sendTemplate_tallies h)

lemma Round.tallies (h : r.Round a (sends t chain) p ms q) : Tallies 0 p.start ms 0 q.start := by
  obtain ⟨made, retries, recovery⟩ := h
  have hmade := made.tallies
  rw [lost_of_retries retries] at hmade
  exact (hmade.last (counts_conflicted _)).append recovery.tallies

lemma Rounds.tallies (h : r.Rounds a (sends t chain) p ms q) : Tallies 0 p.start ms 0 q.start := by
  -- Before each attempt as much is counted as has been submitted.
  induction h with
  | none p => exact .stay (counts_of_eq rfl)
  | next round _ ih => exact round.tallies.append ih

lemma Last.tallies (h : r.Last a (sends t chain) limit p ms result s) :
    Tallies 0 p.start ms (lost result) s := by
  cases h with
  | settled made final => exact made.tallies
  | spent made retries reached => exact made.tallies.last (counts_conflicted _)
  | defeated made retries below defeat =>
    have hmade := made.tallies
    rw [lost_of_retries retries] at hmade
    obtain ⟨hdefeat, hlost⟩ := defeat.tallies
    rw [hlost]
    exact (hmade.last (counts_conflicted _)).append hdefeat

lemma send_tallies (h : (r.send t).Course s ms result s') :
    r.Begins s (.send t) ms ∧ Tallies 0 s ms (lost result) s' ∨
      ¬ r.Begins s (.send t) ms ∧ Tallies 0 s ms 0 s' := by
  have hfares : r.Fares s (.send t) ms result s' := fares h
  cases hfares with
  | refused begins => exact .inr ⟨begins, .stay (counts_finished _ _)⟩
  | unseeded begins allocated =>
    have hallocate :=
      Nonces.within_allocate Tallies.frame_spares allocated (isPause_allocate allocated)
    exact .inr ⟨begins, Tallies.last hallocate (counts_finished _ _)⟩
  | tried begins reaches within ends =>
    refine .inl ⟨begins, ?_⟩
    cases reaches with
    | send resolved arises =>
      obtain ⟨allocated, rounds⟩ := arises
      have hallocate :=
        Nonces.within_allocate Tallies.frame_spares allocated (isPause_allocate allocated)
      have hrounds := Tallies.append hallocate rounds.tallies
      exact hrounds.append (ends.tallies.last (counts_finished _ _))

end Requester

def stretches : Client → List Moment → Client → List (Client × Client)
  | s, [], s' => [(s, s')]
  | s, m :: ms, s' => (s, m.left) :: stretches m.found ms s'

inductive Relay : Client → List (Client × Client) → Client → Prop
  | none {s s' : Client} (idle : s'.metrics = s.metrics) : Relay s [] s'
  | next {s s' : Client} {x : Client × Client} {xs : List (Client × Client)}
      (idle : x.1.metrics = s.metrics) (rest : Relay x.2 xs s') : Relay s (x :: xs) s'

inductive Stage where
  | ended (result : Except ClientError TxHash) (left : Client)
  | waiting (v : Suspension)

namespace Stage

def left : Stage → Client
  | ended _ left => left
  | waiting v => v.left

def calls : Stage → List Call
  | ended _ _ => []
  | waiting v => [v.call]

end Stage

structure Sending where
  template : Template
  start : Client
  waits : List Moment
  stage : Stage

namespace Sending

def calls (x : Sending) : List Call := x.waits.map (·.call) ++ x.stage.calls

def stretches (x : Sending) : List (Client × Client) :=
  LedgerClient.stretches x.start x.waits x.stage.left

inductive Runs (r : Requester) : Sending → Prop
  | ended {t : Template} {s s' : Client} {ms : List Moment} {result : Except ClientError TxHash}
      (course : (r.send t).Course s ms result s') : Runs r ⟨t, s, ms, .ended result s'⟩
  | waiting {t : Template} {s : Client} {ms : List Moment} {v : Suspension}
      (suspends : (r.send t).Suspends s ms v) : Runs r ⟨t, s, ms, .waiting v⟩

inductive Owes (r : Requester) : Sending → Prop
  | failed {t : Template} {s s' : Client} {ms : List Moment} {cause : SignerError}
      (begins : r.Begins s (.send t) ms) : Owes r ⟨t, s, ms, .ended (.error (.signer cause)) s'⟩
  | awaiting {t : Template} {s left : Client} {ms : List Moment} {call : CustodyCall}
      {abandon : Client → Client} : Owes r ⟨t, s, ms, .waiting ⟨.custody call, left, abandon⟩⟩

open scoped Classical in
noncomputable def countOwing (r : Requester) (xs : List Sending) : ℕ := xs.countP fun x => x.Owes r

variable {r : Requester} {x : Sending} {xs : List Sending}

lemma owes_ended {t : Template} (h : r.Begins s (.send t) ms)
    (result : Except ClientError TxHash) (s' : Client) :
    Owes r ⟨t, s, ms, .ended result s'⟩ ∧ lost result = 1 ∨
      ¬ Owes r ⟨t, s, ms, .ended result s'⟩ ∧ lost result = 0 := by
  cases result with
  | ok hash => exact .inr ⟨nofun, rfl⟩
  | error cause =>
    cases cause with
    | signer cause => exact .inl ⟨.failed h, rfl⟩
    | _ => exact .inr ⟨nofun, rfl⟩

lemma Runs.tallies (h : x.Runs r) :
    x.Owes r ∧ Tallies 0 x.start x.waits (submits x.stage.calls + 1) x.stage.left ∨
      ¬ x.Owes r ∧ Tallies 0 x.start x.waits (submits x.stage.calls) x.stage.left := by
  cases h with
  | @ended t s s' ms result course =>
    rcases Requester.send_tallies course with ⟨hbegins, h⟩ | ⟨hbegins, h⟩
    · rcases owes_ended hbegins result s' with ⟨howes, hlost⟩ | ⟨howes, hlost⟩
      · rw [hlost] at h
        exact .inl ⟨howes, h⟩
      · rw [hlost] at h
        exact .inr ⟨howes, h⟩
    · refine .inr ⟨?_, h⟩
      rintro ⟨begins⟩
      exact hbegins begins
  | @waiting t s ms v suspends =>
    obtain ⟨post, result, s', course⟩ := Run.Suspends.course suspends
    have h : Tallies 0 s ms (submits [v.call] + v.call.lead) v.left := by
      rcases Requester.send_tallies course with ⟨-, h⟩ | ⟨-, h⟩ <;> exact h.upto
    obtain ⟨call, left, abandon⟩ := v
    cases call with
    | custody call => exact .inl ⟨.awaiting, h⟩
    | _ => exact .inr ⟨nofun, h⟩

end Sending

def Client.attempts (s : Client) : ℕ := s.metrics.elim 0 (·.attempts)

def grown (x : Client × Client) : ℕ := x.2.attempts - x.1.attempts

lemma Counts.grown_eq (h : Counts n s s') (hs : s.metrics.isSome) : grown (s, s') = n := by
  obtain ⟨m, hm⟩ := Option.isSome_iff_exists.1 hs
  obtain ⟨m', hm', hn⟩ := h m hm
  simp only [grown, Client.attempts, hm, hm', Option.elim_some, hn]
  omega

namespace Tallies

lemma counts (h : Tallies d s ms d' s') : ∀ x ∈ stretches s ms s', ∃ n, Counts n x.1 x.2 := by
  induction h with
  | done counts => exact List.forall_mem_singleton.2 ⟨_, counts⟩
  | wait counts ahead _ ih => exact List.forall_mem_cons.2 ⟨⟨_, counts⟩, ih⟩

lemma sum_grown (h : Tallies d s ms d' s') (hs : ∀ x ∈ stretches s ms s', x.1.metrics.isSome) :
    d + ((stretches s ms s').map grown).sum = submits (ms.map (·.call)) + d' := by
  induction h with
  | @done d n s s' counts =>
    have hn := counts.grown_eq (hs _ (List.mem_singleton_self _))
    change d + (grown (s, s') + 0) = 0 + (d + n)
    omega
  | @wait d d' n s s' m ms counts ahead rest ih =>
    obtain ⟨hhead, htail⟩ := List.forall_mem_cons.1 hs
    have hn := counts.grown_eq hhead
    have hrest := ih htail
    have hcalls : submits ((m :: ms).map (·.call)) =
        submits [m.call] + submits (ms.map (·.call)) := submits_append [m.call] _
    rw [hcalls]
    change d + (grown (s, m.left) + ((stretches m.found ms s').map grown).sum) = _
    omega

end Tallies

namespace Relay

variable {steps : List (Client × Client)}

lemma counts (h : Relay s steps s') (hsteps : ∀ x ∈ steps, ∃ n, Counts n x.1 x.2)
    (hs : s.metrics.isSome) :
    (∀ x ∈ steps, x.1.metrics.isSome) ∧ Counts (steps.map grown).sum s s' := by
  induction h with
  | none idle => exact ⟨List.forall_mem_nil _, counts_of_eq idle⟩
  | @next s s' x xs idle _ ih =>
    obtain ⟨⟨n, hn⟩, hrest⟩ := List.forall_mem_cons.1 hsteps
    have hx : x.1.metrics.isSome := idle ▸ hs
    obtain ⟨m, hm⟩ := Option.isSome_iff_exists.1 hx
    obtain ⟨m', hm', -⟩ := hn m hm
    obtain ⟨hsome, hcounts⟩ := ih hrest (by rw [hm']; rfl)
    refine ⟨List.forall_mem_cons.2 ⟨hx, hsome⟩, ?_⟩
    rw [List.map_cons, List.sum_cons, hn.grown_eq hx]
    have hstart : Counts 0 s x.1 := counts_of_eq idle
    have hwhole := (hstart.trans hn).trans hcounts
    rwa [zero_add] at hwhole

lemma of_uncounted {s₀ : Client} (h : Uncounted ms) (hs : s.metrics = s₀.metrics) :
    Relay s₀ (stretches s ms s') s' := by
  induction ms generalizing s s₀ with
  | nil => exact .next hs (.none rfl)
  | cons m ms ih =>
    obtain ⟨hm, hms⟩ := List.forall_mem_cons.1 h
    exact .next hs (ih hms hm)

end Relay

namespace Sending

variable {r : Requester} {x : Sending} {xs : List Sending}

lemma Runs.of_play {t : Template} {w : World}
    {run : List Moment × Except ClientError TxHash × Client} (h : run = (r.send t).play w [] s) :
    Runs r ⟨t, s, run.1, .ended run.2.1 run.2.2⟩ := by
  subst h
  exact .ended (Action.play_course _ w [] s)

lemma relay_of_play {t : Template} {w : World}
    (hw : ∀ past call s, (w past call s).2.metrics = s.metrics)
    {run : List Moment × Except ClientError TxHash × Client} (h : run = (r.send t).play w [] s) :
    Relay s (stretches ⟨t, s, run.1, .ended run.2.1 run.2.2⟩) run.2.2 := by
  subst h
  exact .of_uncounted (Requester.play_uncounted (r.send t) hw s) rfl

lemma Runs.sum_grown (h : x.Runs r) (hs : ∀ y ∈ x.stretches, y.1.metrics.isSome) :
    (x.stretches.map grown).sum = submits x.calls + countOwing r [x] := by
  rw [calls, submits_append]
  rcases h.tallies with ⟨howes, htallies⟩ | ⟨howes, htallies⟩
  · have hcount : countOwing r [x] = 1 := List.countP_cons_of_pos (by simpa using howes)
    rw [hcount, add_assoc, ← htallies.sum_grown hs, zero_add]
    rfl
  · have hcount : countOwing r [x] = 0 := List.countP_cons_of_neg (by simpa using howes)
    rw [hcount, add_zero, ← htallies.sum_grown hs, zero_add]
    rfl

lemma countOwing_cons (r : Requester) (x : Sending) (xs : List Sending) :
    countOwing r (x :: xs) = countOwing r [x] + countOwing r xs := by
  rw [← List.singleton_append]
  exact List.countP_append

lemma countOwing_eq_zero : countOwing r xs = 0 ↔ ∀ x ∈ xs, ¬ x.Owes r := by
  simp [countOwing, List.countP_eq_zero]

lemma sum_grown (hruns : ∀ x ∈ xs, x.Runs r)
    (hs : ∀ y ∈ xs.flatMap stretches, y.1.metrics.isSome) :
    ((xs.flatMap stretches).map grown).sum =
      (xs.map fun x => submits x.calls).sum + countOwing r xs := by
  induction xs with
  | nil => rfl
  | cons x xs ih =>
    obtain ⟨hx, hxs⟩ := List.forall_mem_cons.1 hruns
    rw [List.flatMap_cons] at hs ⊢
    obtain ⟨hhead, htail⟩ := List.forall_mem_append.1 hs
    rw [List.map_append, List.sum_append, hx.sum_grown hhead, ih hxs htail, List.map_cons,
      List.sum_cons, countOwing_cons r x xs]
    omega

/-- Any number of sends, one after another or at the same time, ended, dropped or still under way:
the count of attempts grows by their submissions, and by one more for each attempt whose signature
fails or is awaited. So it grows by their submissions exactly if there is no such attempt. -/
theorem attempts_counted {steps : List (Client × Client)} {m : Metrics}
    (hruns : ∀ x ∈ xs, x.Runs r) (hsteps : steps.Perm (xs.flatMap stretches))
    (hrelay : Relay s steps s') (hs : s.metrics = some m) :
    ∃ m', s'.metrics = some m' ∧
      m'.attempts = m.attempts + (xs.map fun x => submits x.calls).sum + countOwing r xs ∧
      (m'.attempts = m.attempts + (xs.map fun x => submits x.calls).sum ↔
        ∀ x ∈ xs, ¬ x.Owes r) := by
  have hcounts : ∀ y ∈ steps, ∃ n, Counts n y.1 y.2 := by
    intro y hy
    obtain ⟨x, hx, hyx⟩ := List.mem_flatMap.1 (hsteps.mem_iff.1 hy)
    rcases (hruns x hx).tallies with ⟨-, h⟩ | ⟨-, h⟩ <;> exact h.counts y hyx
  obtain ⟨hsome, hwhole⟩ := hrelay.counts hcounts (by rw [hs]; rfl)
  -- The order of the stretches does not matter for what they add up to.
  have hsum : (steps.map grown).sum = _ :=
    (hsteps.map grown).sum_eq.trans (sum_grown hruns fun y hy => hsome y (hsteps.mem_iff.2 hy))
  obtain ⟨m', hm', hattempts⟩ := hwhole m hs
  rw [hsum, ← add_assoc] at hattempts
  refine ⟨m', hm', hattempts, ?_⟩
  rw [← countOwing_eq_zero, hattempts]
  omega

theorem attempts_counted_unsigned :
    let a : Address := ⟨Curve.Point.base⟩
    let w : World := fun _ call s =>
      match call with
      | .custody (.sign _ _) => (.error (.rejected "no"), s)
      | call => (call.silence, s)
    let r : Requester := ⟨.standard, some (.ofName [])⟩
    let s : Client := (Client.start (.remote ⟨some ⟨a, ⟨"pw"⟩⟩⟩)
      (some (.start "wallet"))).mapNonces fun book => (book.touch a).put (book.ref a) 4
    let t : Template := { recipient := none, amount := 5 }
    let run := (r.send t).play w [] s
    let x : Sending := ⟨t, s, run.1, .ended run.2.1 run.2.2⟩
    submits x.calls = 0 ∧ run.2.2.attempts = 1 ∧ x.Owes r := by
  intro a w r s t run x
  have hw : ∀ past call s, (w past call s).2.metrics = s.metrics := by
    intro past call s
    rcases call with _ | _ | (_ | _ | _ | _ | _) | _ | _ | _ <;> rfl
  have hruns : ∀ y ∈ [x], y.Runs r := List.forall_mem_singleton.2 (.of_play (w := w) rfl)
  have hsteps : x.stretches.Perm ([x].flatMap stretches) := by
    rw [List.flatMap_singleton]
  have hrelay : Relay s x.stretches run.2.2 := relay_of_play hw rfl
  obtain ⟨m', hm', -, hiff⟩ := attempts_counted (m := .start "wallet") hruns hsteps hrelay rfl
  have hsubmits : submits x.calls = 0 := by decide +kernel
  have hattempts : run.2.2.attempts = 1 := by decide +kernel
  refine ⟨hsubmits, hattempts, ?_⟩
  by_contra howes
  have hzero := hiff.2 (List.forall_mem_singleton.2 howes)
  rw [List.map_singleton, hsubmits] at hzero
  rw [Client.attempts, hm'] at hattempts
  cases hattempts.symm.trans hzero

end Sending

end LedgerClient
