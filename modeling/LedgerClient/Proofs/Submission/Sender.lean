import LedgerClient.Proofs.Submission.Loop

/-! Whose nonces the transactions of a request carry. The nonce of an attempt comes from one
account's entry, the sender is whoever is unlocked when the attempt begins. -/

namespace LedgerClient

def Moment.Honest : Moment → Prop
  | ⟨.readState a, _, .ok state, _⟩ => state.address = a
  | _ => True

def World.Honest (w : World) : Prop :=
  ∀ past a s state, (w past (.readState a) s).1 = .ok state → state.address = a

lemma World.Honest.moment {w : World} (hw : w.Honest) {past ms : List Moment} {m : Moment}
    (h : w.Answers past ms) (hm : m ∈ ms) : m.Honest := by
  obtain ⟨past', hh⟩ := h.of_mem hm
  obtain ⟨call, left, reply, found⟩ := m
  cases call with
  | readState a =>
    cases reply with
    | error cause => trivial
    | ok state => exact hw _ a left state (congrArg Prod.fst hh).symm
  | _ => trivial

def Moment.submitted? (m : Moment) : Option SignedTransaction :=
  match m.call with
  | .submit tx => some tx
  | _ => none

lemma call_of_submitted? {m : Moment} {tx : SignedTransaction} (h : m.submitted? = some tx) :
    m.call = .submit tx := by
  unfold Moment.submitted? at h
  split at h
  · cases h
    assumption
  · cases h

namespace Requester

variable {r : Requester} {a : Address} {build : Builder} {s s' : Client} {ms : List Moment}
  {m : Moment} {p q : Attempt} {t : Template} {chain : ChainId} {n : Nonce} {tx : SignedTransaction}
  {result : Except ClientError TxHash}

lemma course_submit {signed : SignedTransaction} (h : (submit signed).Course s ms result s') :
    ∃ reply, ms = [⟨.submit signed, s, reply, s'⟩] ∧ result = reply.mapError .ofNode := by
  rw [submit, Action.course_call_bind] at h
  obtain ⟨reply, found, ms', rfl, h⟩ := h
  cases reply with
  | error cause =>
    obtain ⟨rfl, rfl, rfl⟩ := Action.course_throw.1 h
    exact ⟨_, rfl, rfl⟩
  | ok hash =>
    obtain ⟨rfl, rfl, rfl⟩ := Action.course_pure.1 h
    exact ⟨_, rfl, rfl⟩

inductive Sent (t : Template) (chain : ChainId) (n : Nonce) (s : Client) :
    List Moment → Except ClientError TxHash → Client → Prop
  | locked {e : SignerError} (unlocked : s.signer.principal = .error e) :
      Sent t chain n s [] (.error (.signer e)) s
  | unsigned {sender : Address} {ms : List Moment} {e : SignerError} {s' : Client}
      (unlocked : s.signer.principal = .ok sender)
      (signs : (Signing.sign (t.fill chain sender n)).Course s ms (.error e) s') :
      Sent t chain n s ms (.error (.signer e)) s'
  | submitted {sender : Address} {ms : List Moment} {signed : SignedTransaction} {found s' : Client}
      {reply : Except NodeError TxHash} (unlocked : s.signer.principal = .ok sender)
      (signs : (Signing.sign (t.fill chain sender n)).Course s ms (.ok signed) found) :
      Sent t chain n s (ms ++ [⟨.submit signed, found, reply, s'⟩]) (reply.mapError .ofNode) s'

lemma sent (h : (sendTemplate t chain n).Course s ms result s') : Sent t chain n s ms result s' := by
  rcases Action.course_bind.1 h with ⟨e, rfl, h₁⟩ | ⟨ms₁, sender, s₁, ms₂, rfl, h₁, h₂⟩
  · obtain ⟨rfl, he, rfl⟩ := course_principal.1 h₁
    cases hp : s'.signer.principal with
    | ok a =>
      rw [hp] at he
      cases he
    | error e =>
      rw [hp] at he
      cases he
      exact .locked hp
  obtain ⟨rfl, hp, rfl⟩ := course_principal.1 h₁
  have hunlocked := mapError_eq_ok.1 hp.symm
  rcases Action.course_bind.1 h₂ with ⟨e, rfl, h₃⟩ | ⟨ms₃, signed, s₂, ms₄, rfl, h₃, h₄⟩
  · obtain ⟨y, hy, hsign⟩ := Action.course_adapt.1 h₃
    cases y with
    | ok signed => cases hy
    | error e =>
      cases hy
      exact .unsigned hunlocked hsign
  obtain ⟨y, hy, hsign⟩ := Action.course_adapt.1 h₃
  obtain rfl := mapError_eq_ok.1 hy.symm
  obtain ⟨reply, rfl, rfl⟩ := course_submit h₄
  exact .submitted hunlocked hsign

lemma course_sendTemplate (h : (sendTemplate t chain n).Course s ms result s') (hm : m ∈ ms)
    (hc : m.call = .submit tx) :
    s.signer.principal = .ok tx.tx.sender ∧ tx.tx = t.fill chain tx.tx.sender n := by
  have hs {call : CustodyCall} (hh : m.call = .custody call) : False := by
    rw [hc] at hh
    cases hh
  cases sent h with
  | locked unlocked => cases hm
  | unsigned unlocked signs =>
    obtain ⟨call, hh⟩ := (Signing.course_sign signs).1 m hm
    exact (hs hh).elim
  | submitted unlocked signs =>
    obtain ⟨hcustody, hsigned⟩ := Signing.course_sign signs
    rcases List.mem_append.1 hm with hm | hm
    · obtain ⟨call, hh⟩ := hcustody m hm
      exact (hs hh).elim
    obtain rfl := List.mem_singleton.1 hm
    obtain rfl := Call.submit.inj hc
    obtain ⟨htx, hp⟩ := hsigned _ rfl
    rw [htx]
    exact ⟨hp, rfl⟩

lemma Rounds.entry (h : r.Rounds a build p ms q) (hh : ∀ m ∈ ms, m.Honest) (hp : p.entry = a) :
    q.entry = a := by
  induction h with
  | none p => exact hp
  | next hd rest ih =>
    obtain ⟨hd', hrest⟩ := List.forall_mem_append.1 hh
    refine ih hrest ?_
    obtain ⟨-, -, hv⟩ := hd
    cases hv
    exact (List.forall_mem_cons.1 (List.forall_mem_append.1 hd').2).1

lemma Arises.entry (h : r.Arises a build s ms p) (hh : ∀ m ∈ ms, m.Honest) : p.entry = a := by
  obtain ⟨-, hd⟩ := h
  exact hd.entry (List.forall_mem_append.1 hh).2 rfl

/-- A transaction that is sent carries a nonce from the entry of its sender exactly if the account
of the entry is the one unlocked when the attempt begins. The entry is that of the account unlocked
at the start, as long as the node answers about the account that it is asked about. -/
theorem sent_nonce_entry (h : (r.send t).Course s ms result s') (hm : m ∈ ms)
    (hc : m.call = .submit tx) :
    ∃ a chain pre p ms' result' s₁,
      s.signer.principal = .ok a ∧ pre ++ ms' <+: ms ∧
      r.Arises a (fun _ n => sendTemplate t chain n) s pre p ∧
      Makes (fun _ n => sendTemplate t chain n) p ms' result' s₁ ∧ m ∈ ms' ∧
      tx.tx.nonce = p.nonce ∧
      (tx.tx.sender = p.entry ↔ p.start.signer.principal = .ok p.entry) ∧
      ((∀ m ∈ pre, m.Honest) → p.entry = a) := by
  unfold send at h
  split at h
  · obtain ⟨s₁, h', -⟩ := course_recorded.1 h
    obtain ⟨rfl, -⟩ := Action.course_throw.1 h'
    cases hm
  · rename_i chain _
    cases hp : s.signer.principal with
    | error e =>
      obtain rfl := request_locked hp h
      cases hm
    | ok a =>
      have hpause : ¬ m.call.isPause := by simp [hc, Call.isPause]
      obtain ⟨pre, p, ms', result', s₁, hpre, ha, hmade, hm'⟩ := request_made hp h hm hpause
      obtain ⟨hsender, htx⟩ := course_sendTemplate hmade hm' hc
      refine ⟨a, chain, pre, p, ms', result', s₁, rfl, hpre, ha, hmade, hm', ?_, ?_, ha.entry⟩
      · rw [htx]
        rfl
      · have hs : p.start.signer.principal = .ok tx.tx.sender := hsender
        rw [hs, Except.ok.injEq]

theorem sent_nonce_entry_switched :
    let a : Address := ⟨Curve.Point.base⟩
    let b : Address := ⟨
      { x := Fin.ofNat _ 0xf9308a019258c31049344f85f89d5229b531c845836f99b08601f113bce036f9
        y := Fin.ofNat _ 0x388f7b0f632de8140fe337e62a37f3566500a99934c2231b6cb9fd7584b8e672
        onCurve := by decide +kernel }⟩
    let sig : Signature :=
      { r := ⟨0x9377c312145a5afb911bf9e8c067bcf6094c533603687850df502b61290bbf5e,
          by decide, by decide⟩
        s := ⟨0x46df83e0b576659d266502023dbb0ab8ebd0396022488d7b7ff1214ba3b36224,
          by decide, by decide⟩
        low := by decide }
    let w : World := fun past call s =>
      match past, call with
      | _, .readState c => (.ok ⟨c, 7, 0⟩, { s with signer := .remote ⟨some ⟨b, ⟨"two"⟩⟩⟩ })
      | _, .custody (.sign _ _) => (.ok sig, s)
      | _, call => (call.silence, s)
    let chain : ChainId := .ofName []
    let r : Requester := ⟨.standard, some chain⟩
    let t : Template := { recipient := some a, amount := 5 }
    let s : Client := .start (.remote ⟨some ⟨a, ⟨"one"⟩⟩⟩) none
    let tx : SignedTransaction := ⟨t.fill chain b 8, sig⟩
    (∃ m ∈ ((r.send t).play w [] s).1, m.call = .submit tx) ∧
      ∃ build pre p, r.Arises a build s pre p ∧ p.entry = a ∧ tx.tx.nonce = p.nonce ∧
        tx.tx.sender ≠ p.entry := by
  intro a b sig w chain r t s tx
  have hsub : ((r.send t).play w [] s).1.filterMap Moment.submitted? = [tx] := by decide +kernel
  obtain ⟨m, hm, hsubmitted⟩ := List.mem_filterMap.1 (hsub ▸ List.mem_singleton_self tx)
  have hc := call_of_submitted? hsubmitted
  obtain ⟨a', chain', pre, p, ms', result', s₁, hp, hpre, ha, hmade, hm', hn, hiff, hentry⟩ :=
    sent_nonce_entry (Action.play_course (r.send t) w [] s) hm hc
  obtain rfl : a = a' := Except.ok.inj hp
  have hh : ∀ m ∈ pre, m.Honest := by
    intro m hm
    have hw : w.Honest := fun past c s state h => by cases h; rfl
    exact hw.moment (Action.play_answers (r.send t) w [] s)
      (hpre.subset (List.mem_append_left _ hm))
  have hb : b ≠ a := by decide +kernel
  refine ⟨⟨m, hm, hc⟩, _, pre, p, ha, hentry hh, hn, ?_⟩
  rw [hentry hh]
  exact hb

end Requester

end LedgerClient
