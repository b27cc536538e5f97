import LedgerClient.Proofs.Client.Frame
import LedgerClient.Proofs.Submission.Errand

/-! Which entries of the nonce book a call changes, and what a retry finds there: the nonce of a
retry stands in the entry of the account that the node has named last. -/

namespace LedgerClient

def Moment.Names (c : Address) : Moment → Prop
  | ⟨.readState _, _, .ok state, _⟩ => state.address = c
  | _ => False

def Moment.attempted? (m : Moment) : Option Nonce :=
  match m.call with
  | .attempt n => some n
  | _ => none

lemma call_of_attempted? {m : Moment} {n : Nonce} (h : m.attempted? = some n) :
    m.call = .attempt n := by
  unfold Moment.attempted? at h
  split at h
  · cases h
    assumption
  · cases h

namespace Requester

variable {r : Requester} {a c : Address} {build : Builder} {s s' : Client} {ms pre : List Moment}
  {p q : Attempt} {e : Errand} {signed : SignedTransaction} {result : Except ClientError TxHash}

lemma Recovery.untouched {entry : Address} {n : Nonce} (h : r.Recovery a s entry n ms s')
    (hn : ∀ m ∈ ms, ¬ m.Names c) : Untouched c s ms s' := by
  obtain ⟨rebind⟩ := h
  have hc := Ne.symm (List.forall_mem_cons.1 hn).1
  exact ⟨rfl, rfl, (Nonces.within_rebindAndAllocate (Untouched.frame_spares hc) rebind).to_eq rfl⟩

lemma Defeat.untouched {e : ClientError} (h : r.Defeat a s e ms s') (hn : ∀ m ∈ ms, ¬ m.Names c) :
    Untouched c s ms s' := by
  cases h with
  | unread => exact ⟨rfl, rfl⟩
  | exhausted rebind =>
    have hc := Ne.symm (List.forall_mem_cons.1 hn).1
    exact ⟨rfl, rfl, Nonces.within_rebindAndAllocate (Untouched.frame_spares hc) rebind⟩

lemma nonces_conflicted (cause : ClientError) (s : Client) :
    (s.conflicted cause).nonces = s.nonces := by
  unfold Client.conflicted
  split <;> rfl

lemma Makes.untouched (hb : ∀ i n, (build i n).Idle) (h : Makes build p ms result s) :
    Untouched c p.start ms s :=
  ((hb _ _).within (F := Untouched.frame c) h).from_eq rfl

lemma Round.untouched (hb : ∀ i n, (build i n).Idle) (h : r.Round a build p ms q)
    (hn : ∀ m ∈ ms, ¬ m.Names c) : Untouched c p.start ms q.start := by
  obtain ⟨made, -, recovery⟩ := h
  have hmade := made.untouched (c := c) hb
  have hrecovery := recovery.untouched (List.forall_mem_append.1 hn).2
  exact hmade.append (hrecovery.from_eq (by rw [nonces_conflicted]))

lemma Rounds.untouched (hb : ∀ i n, (build i n).Idle) (h : r.Rounds a build p ms q)
    (hn : ∀ m ∈ ms, ¬ m.Names c) : Untouched c p.start ms q.start := by
  induction h with
  | none p => exact rfl
  | next round _ ih =>
    obtain ⟨hround, hrest⟩ := List.forall_mem_append.1 hn
    exact (round.untouched hb hround).append (ih hrest)

lemma Last.untouched {limit : ℕ} (hb : ∀ i n, (build i n).Idle)
    (h : r.Last a build limit p ms result s) (hn : ∀ m ∈ ms, ¬ m.Names c) :
    Untouched c p.start ms s := by
  cases h with
  | settled made final => exact made.untouched hb
  | spent made retries reached =>
    have hmade := made.untouched (c := c) hb
    exact hmade.to_eq (congrArg (·.shelf c) (nonces_conflicted _ _))
  | defeated made retries below defeat =>
    have hmade := made.untouched (c := c) hb
    have hdefeat := defeat.untouched (List.forall_mem_append.1 hn).2
    exact hmade.append (hdefeat.from_eq (by rw [nonces_conflicted]))

lemma submitLoop_untouched (hb : ∀ i n, (build i n).Idle) {left i : ℕ} {n : Nonce}
    (h : (r.submitLoop a build left i n).Course s ms result s') (hn : ∀ m ∈ ms, ¬ m.Names c) :
    Untouched c s ms s' := by
  obtain ⟨p, ms₁, ms₂, rfl, -, rounds, last⟩ := course_submitLoop a h
  obtain ⟨hn₁, hn₂⟩ := List.forall_mem_append.1 hn
  exact (rounds.untouched hb hn₁).append (last.untouched hb hn₂)

/-- The waits of an errand, those of its allocation first. No other account's slots change, unless
the node names the account after the allocation. -/
inductive Frames (a : Address) (s : Client) : Errand → List Moment → Client → Prop
  | refused {e : Errand} {s' : Client} (same : s'.nonces = s.nonces) : Frames a s e [] s'
  | allocates {e : Errand} {seeding rest : List Moment} {result : Except NonceError Nonce}
      {seeded s' : Client} (unsigned : ∀ signed, e ≠ .resubmit signed)
      (allocation : (Nonces.allocate a).Course s seeding result seeded)
      (others : ∀ c ≠ a, (∀ m ∈ rest, ¬ m.Names c) → Untouched c s (seeding ++ rest) s') :
      Frames a s e (seeding ++ rest) s'
  | resubmits {signed : SignedTransaction} {ms : List Moment} {s' : Client}
      (others : ∀ c ≠ a, (∀ m ∈ ms, ¬ m.Names c) → Untouched c s ms s') :
      Frames a s (.resubmit signed) ms s'

lemma request_frames (hb : ∀ i n, (build i n).Idle) (he : ∀ signed, e ≠ .resubmit signed)
    (hp : s.signer.principal = .ok a) (h : (r.request build).Course s ms result s') :
    Frames a s e ms s' := by
  obtain ⟨s₁, rfl, ⟨cause, -, h'⟩ | ⟨seeding, n, s₂, rest, rfl, h₁, h₂⟩⟩ := course_request hp h
  · rw [← List.append_nil ms]
    refine .allocates he h' fun c hc _ => ?_
    rw [List.append_nil]
    exact (Nonces.within_allocate (Untouched.frame_spares hc) h').to_eq rfl
  · refine .allocates he h₁ fun c hc hn => ?_
    have hallocate := Nonces.within_allocate (Untouched.frame_spares hc) h₁
    exact hallocate.append ((submitLoop_untouched hb h₂ hn).to_eq rfl)

/-- A retry after the node has told of an account. Its nonce stands in the slot that the account has
once the sleep is over, and every other slot is as the last wait has left it. The slot is no longer
the account's if others have forgotten it while the retry waited for its turn there. -/
inductive Resumed (r : Requester) (a : Address) (p : Attempt) : List Moment → Prop
  | free {before : List Moment} {left found woken : Client} {state : AccountState}
      (named : state.address = p.entry) (next : state.nonce.next? = some p.nonce)
      (others : ∀ c ≠ p.entry, p.start.nonces.shelf c = woken.nonces.shelf c)
      (own : (p.start.nonces.slot p.entry).last = some p.nonce) :
      Resumed r a p (before ++
        [⟨.readState a, left, .ok state, found⟩, ⟨.sleep r.policy.interval, found, (), woken⟩])
  | queued {before : List Moment} {left found woken waiting admitted : Client}
      {state : AccountState} {k : SlotRef} (named : state.address = p.entry)
      (next : state.nonce.next? = some p.nonce) (slot : k = woken.nonces.ref p.entry)
      (held : (woken.nonces.slot p.entry).held = true)
      (others : ∀ c ≠ p.entry, p.start.nonces.shelf c = admitted.nonces.shelf c)
      (beside : ∀ q ≠ k, p.start.nonces.find? q = admitted.nonces.find? q)
      (written : (admitted.nonces.find? k).isSome → (p.start.nonces.find k).last = some p.nonce)
      (own : admitted.nonces.Has k → (p.start.nonces.slot p.entry).last = some p.nonce) :
      Resumed r a p (before ++
        [⟨.readState a, left, .ok state, found⟩, ⟨.sleep r.policy.interval, found, (), woken⟩,
          ⟨.turn k, waiting, (), admitted⟩])

lemma Resumed.prepend (h : r.Resumed a p ms) (before : List Moment) :
    r.Resumed a p (before ++ ms) := by
  cases h with
  | free named next others own =>
    rw [← List.append_assoc]
    exact .free named next others own
  | queued named next slot held others beside written own =>
    rw [← List.append_assoc]
    exact .queued named next slot held others beside written own

lemma Recovery.resumed {entry : Address} {n : Nonce} {i : ℕ}
    (h : r.Recovery a s entry n ms s') : r.Resumed a ⟨i, entry, n, s'⟩ ms := by
  obtain @⟨state, n, found, woken, s₂, ms, rebind⟩ := h
  obtain ⟨k, s₁, hacquire, hadvance⟩ := Nonces.course_rebindAndAllocate.1 rebind
  obtain ⟨-, ⟨-, hn, -⟩ | ⟨n', next, hn, rfl⟩⟩ := Nonces.course_advance.1 hadvance
  · cases hn
  cases hn
  rw [← List.nil_append (_ :: _)]
  obtain ⟨rfl, ⟨-, rfl, rfl⟩ | ⟨held, rfl⟩⟩ := Nonces.course_acquire.1 hacquire
  -- Only a slot that was waited for may be another than the account's by now.
  · have hhas := NonceBook.has_touched (b := woken.nonces) (a := state.address)
    have hown := congrArg Slot.last (hhas.slot_update (f := fun slot => { slot with last := some n }))
    refine .free rfl next (fun c hc => ?_) hown
    exact (NonceBook.shelf_update_of_ne _ hc).trans (NonceBook.shelf_touch_of_ne _ hc)
  · exact .queued rfl next rfl held
      (fun c hc => NonceBook.shelf_update_of_ne _ hc) (fun q hq => NonceBook.find?_update_of_ne _ hq)
      (fun hsome => congrArg Slot.last (NonceBook.find_update hsome))
      fun hhas => congrArg Slot.last hhas.slot_update

lemma Round.resumed (h : r.Round a build p ms q) : r.Resumed a q ms := by
  obtain ⟨-, -, recovery⟩ := h
  exact recovery.resumed.prepend _

lemma Rounds.resumed (h : r.Rounds a build p ms q) : q = p ∧ ms = [] ∨ r.Resumed a q ms := by
  induction h with
  | none p => exact .inl ⟨rfl, rfl⟩
  | next round _ ih =>
    rcases ih with ⟨rfl, rfl⟩ | hresumed
    · rw [List.append_nil]
      exact .inr round.resumed
    · exact .inr (hresumed.prepend _)

lemma Arises.resumed (h : r.Arises a build s pre p) (hi : p.index ≠ 0) : r.Resumed a p pre := by
  obtain ⟨-, rounds⟩ := h
  rcases rounds.resumed with ⟨rfl, -⟩ | hresumed
  · exact absurd rfl hi
  · exact hresumed.prepend _

lemma Reaches.resumed (h : r.Reaches a s e build pre p) (hi : p.index ≠ 0) : r.Resumed a p pre := by
  cases h with
  | request arises => exact arises.resumed hi
  | send resolved arises => exact arises.resumed hi
  | resubmit rounds =>
    rcases rounds.resumed with ⟨rfl, -⟩ | hresumed
    · exact absurd rfl hi
    · exact hresumed

lemma run_frames (ha : e.account s = .ok a) (h : (r.run e).Course s ms result s') :
    Frames a s e ms s' := by
  cases e with
  | request => exact request_frames idle_caller (fun _ he => by cases he) ha h
  | send t =>
    cases hc : r.resolveChain t.chain with
    | ok chain =>
      rw [run, send_resolved hc] at h
      exact request_frames (fun _ => idle_sendTemplate t chain) (fun _ he => by cases he) ha h
    | error cause =>
      obtain ⟨rfl, -, rfl⟩ := course_send_unresolved hc h
      exact .refused rfl
  | resubmit signed =>
    cases ha
    obtain ⟨s₁, rfl, ⟨rfl, rfl, -⟩ | ⟨-, h'⟩⟩ := course_resubmit h
    · exact .refused rfl
    · refine .resubmits fun c _ hn => ?_
      exact (submitLoop_untouched (idle_again idle_caller) h' hn).to_eq rfl

lemma Reaches.of_attempt {signed : SignedTransaction} {m : Moment} {n : Nonce}
    (hreach : r.Reaches a s (.resubmit signed) build pre p) (h : Makes build p ms result s')
    (hm : m ∈ ms) (hc : m.call = .attempt n) : p.index ≠ 0 ∧ p.nonce = n := by
  cases hreach
  obtain ⟨i, entry, n', start⟩ := p
  cases i with
  | zero =>
    obtain ⟨reply, rfl, -⟩ := course_submit h
    obtain rfl := List.mem_singleton.1 hm
    cases hc
  | succ i =>
    obtain rfl := Task.course_call.1 h
    obtain rfl := List.mem_singleton.1 hm
    exact ⟨Nat.succ_ne_zero i, Call.attempt.inj hc⟩

/-- An errand for an account leaves every other entry alone, unless the node answers a question of
a retry by naming another account. A retry finds its nonce in the entry of the account so named. -/
theorem retry_entries (ha : e.account s = .ok a) (h : (r.run e).Course s ms result s') :
    Frames a s e ms s' ∧
      (∀ m ∈ ms, ¬ m.call.isPause → ∃ build pre p ms' result' s₁, pre ++ ms' <+: ms ∧
        r.Reaches a s e build pre p ∧ Makes build p ms' result' s₁ ∧ m ∈ ms') ∧
      ∀ build pre p, r.Reaches a s e build pre p → p.index ≠ 0 → r.Resumed a p pre :=
  ⟨run_frames ha h, fun _ => run_made ha h, fun _ _ _ hreach => hreach.resumed⟩

theorem retry_entries_renamed :
    let a : Address := ⟨Curve.Point.base⟩
    let b : Address := ⟨
      { x := Fin.ofNat _ 0xe493dbf1c10d80f3581e4904930b1404cc6c13900ee0758474fa94abe8c4cd13
        y := Fin.ofNat _ 0x51ed993ea0d455b75642e2098ea51448d967ae33bfbdfe40cfe97bdc47739922
        onCurve := by decide +kernel }⟩
    let sig : Signature :=
      { r := ⟨1, by decide, by decide⟩, s := ⟨1, by decide, by decide⟩, low := by decide }
    let t : Template := { recipient := some b, amount := 5 }
    let errand : Errand := .resubmit ⟨t.fill (.ofName []) a 8, sig⟩
    let w : World := fun _ call s =>
      match call with
      | .submit _ => (.error (.rejected ⟨.nonceTooLow, "stale"⟩), s)
      | .readState _ => (.ok ⟨b, 40, 0⟩, s)
      | .attempt _ => (.ok ⟨sha256 []⟩, s)
      | call => (call.silence, s)
    let r : Requester := ⟨.standard, none⟩
    let s : Client := (Client.start (.remote ⟨some ⟨a, ⟨"pw"⟩⟩⟩) none).mapNonces fun book =>
      (book.touch a).put (book.ref a) 8
    let s' : Client := ((r.run errand).play w [] s).2.2
    (s'.nonces.slot a).last = some 8 ∧ (s'.nonces.slot b).last = some 41 ∧
      ∃ build pre p, r.Reaches a s errand build pre p ∧ p.nonce = 41 ∧ r.Resumed a p pre := by
  intro a b sig t errand w r s s'
  have hnonces : ((r.run errand).play w [] s).1.filterMap Moment.attempted? = [41] := by
    decide +kernel
  obtain ⟨m, hm, hattempt⟩ := List.mem_filterMap.1 (hnonces ▸ List.mem_singleton_self 41)
  have hcall := call_of_attempted? hattempt
  have hpause : ¬ m.call.isPause := by simp [hcall, Call.isPause]
  obtain ⟨-, hmade, hresumed⟩ := retry_entries (a := a) rfl (Action.play_course (r.run errand) w [] s)
  obtain ⟨build, pre, p, ms, result, s₁, -, hreach, hmakes, hm'⟩ := hmade m hm hpause
  obtain ⟨hindex, hnonce⟩ := hreach.of_attempt hmakes hm' hcall
  exact ⟨by decide +kernel, by decide +kernel, build, pre, p, hreach, hnonce,
    hresumed build pre p hreach hindex⟩

end Requester

end LedgerClient
