import LedgerClient.Proofs.Submission.Sender

/-! Sending with a custody service that may answer anything. What it signs wrongly goes nowhere. -/

namespace LedgerClient

variable {s s' : Client} {ms pre post : List Moment} {signer : RemoteSigner} {a : Address}
  {sig : Signature}

namespace Requester

variable {r : Requester} {t : Template} {chain : ChainId} {n : Nonce} {tx : Transaction}
  {signed : SignedTransaction} {left found : Client} {result : Except ClientError TxHash}

structure Vouched (t : Template) (chain : ChainId) (pre : List Moment) (signed : SignedTransaction)
    (left : Client) : Prop where
  asked : ∃ pre' before, before.signer.principal = .ok signed.tx.sender ∧
    pre = pre' ++ [⟨.custody (.sign signed.tx.sender signed.tx), before, .ok signed.signature, left⟩]
  filled : signed.tx = t.fill chain signed.tx.sender signed.tx.nonce
  checked : signed.check chain = .ok ()

lemma not_submits_of_sign {tx : Transaction} {y : Except SignerError SignedTransaction}
    {reply : Except NodeError TxHash}
    (h : (Signing.sign tx).Course s (pre ++ ⟨.submit signed, left, reply, found⟩ :: post) y s') :
    False := by
  obtain ⟨call, hcall⟩ := (Signing.course_sign h).1 ⟨.submit signed, left, reply, found⟩ (by simp)
  cases hcall

lemma Sent.vouched {reply : Except NodeError TxHash}
    (h : Sent t chain n s (pre ++ ⟨.submit signed, left, reply, found⟩ :: post) result s')
    (hleft : left.signer = .remote signer) : Vouched t chain pre signed left := by
  generalize hms : pre ++ ⟨.submit signed, left, reply, found⟩ :: post = ms at h
  cases h with
  | locked unlocked => simp at hms
  | unsigned unlocked signs =>
    subst hms
    exact (not_submits_of_sign signs).elim
  | submitted unlocked signs =>
    -- What is submitted is the last wait, and all before it belongs to the signature.
    rcases mem_split hms.symm with ⟨post', rfl, rfl⟩ | ⟨pre', rfl, hm⟩
    · exact (not_submits_of_sign signs).elim
    obtain ⟨rfl, hm, rfl⟩ : pre' = [] ∧ _ ∧ post = [] := by
      cases pre' with
      | nil => exact ⟨rfl, (List.cons.inj hm).1, (List.cons.inj hm).2.symm⟩
      | cons m pre' => simp at hm
    cases hm
    cases hs : s.signer with
    | resident local_ =>
      rw [Signing.sign, Action.course_get_bind, hs] at signs
      obtain ⟨-, -, rfl⟩ := Action.course_ofExcept.1 signs
      rw [hs] at hleft
      cases hleft
    | remote signer =>
      rcases Signing.course_sign_remote hs signs with ⟨e, -, -, he, -⟩ | ⟨answer, hadmits, rfl, hj⟩
      · cases he
      obtain ⟨rfl, htx, hv⟩ := Signing.judgedSigned_eq_ok hj.symm
      have hp := Signer.admits_eq_ok.1 hadmits
      refine ⟨⟨[], s, by rw [htx]; exact hp, by simp [htx]⟩, by rw [htx]; rfl, ?_⟩
      have hc : signed.tx.chain = chain := by rw [htx]; rfl
      simp [SignedTransaction.check, hc, hv]

lemma refused_of_sign {y : Except SignerError SignedTransaction} {tx' : Transaction}
    (h : (Signing.sign tx').Course s (pre ++ ⟨.custody (.sign a tx), left, .ok sig, found⟩ :: post)
      y s') (hv : a.verifiesDigest tx.hash.digest sig = false) :
    pre = [] ∧ post = [] ∧ y = .error (.custody (.signature a)) := by
  cases hs : s.signer with
  | resident local_ =>
    rw [Signing.sign, Action.course_get_bind, hs] at h
    obtain ⟨hm, -, -⟩ := Action.course_ofExcept.1 h
    simp at hm
  | remote signer =>
    rcases Signing.course_sign_remote hs h with ⟨e, -, hm, -⟩ | ⟨reply, -, hm, rfl⟩
    · simp at hm
    cases pre with
    | cons m pre => simp at hm
    | nil =>
      obtain ⟨hm, rfl⟩ := List.cons.inj hm
      cases hm
      exact ⟨rfl, rfl, if_neg (by simp [hv])⟩

lemma Sent.refused
    (h : Sent t chain n s (pre ++ ⟨.custody (.sign a tx), left, .ok sig, found⟩ :: post) result s')
    (hv : a.verifiesDigest tx.hash.digest sig = false) :
    post = [] ∧ result = .error (.signer (.custody (.signature a))) := by
  generalize hms : pre ++ ⟨.custody (.sign a tx), left, .ok sig, found⟩ :: post = ms at h
  cases h with
  | locked unlocked => simp at hms
  | unsigned unlocked signs =>
    subst hms
    obtain ⟨-, rfl, he⟩ := refused_of_sign signs hv
    cases he
    exact ⟨rfl, rfl⟩
  | submitted unlocked signs =>
    rcases mem_split hms.symm with ⟨post', rfl, -⟩ | ⟨pre', -, hm⟩
    · obtain ⟨-, -, he⟩ := refused_of_sign signs hv
      cases he
    · cases pre' with
      | nil => cases (List.cons.inj hm).1
      | cons m pre' => simp at hm

lemma Vouched.prepend (h : Vouched t chain pre signed left) (before : List Moment) :
    Vouched t chain (before ++ pre) signed left where
  asked := by
    obtain ⟨pre', asked, hp, rfl⟩ := h.asked
    exact ⟨before ++ pre', asked, hp, (List.append_assoc _ _ _).symm⟩
  filled := h.filled
  checked := h.checked

lemma resolveChain_of_pinned {pinned : ChainId} {requested : Option ChainId}
    (h : r.resolveChain requested = .ok chain) (hp : r.chain = some pinned) : chain = pinned := by
  unfold resolveChain at h
  rw [hp] at h
  cases requested with
  | none => exact (Except.ok.inj h).symm
  | some actual =>
    simp only at h
    split at h
    · exact (Except.ok.inj h).symm
    · cases h

lemma send_split {m : Moment} (h : (r.send t).Course s (pre ++ m :: post) result s')
    (hc : ¬ m.call.isPause) :
    ∃ chain n before start ms₁ ms₂ after result' s₁, r.resolveChain t.chain = .ok chain ∧
      pre = before ++ ms₁ ∧ post = ms₂ ++ after ∧ Sent t chain n start (ms₁ ++ m :: ms₂) result' s₁ ∧
      (r.policy.Retries result' ∨ after = [] ∧ result' = result) := by
  unfold send at h
  split at h
  · obtain ⟨s₁, h', -⟩ := course_recorded.1 h
    obtain ⟨hm, -⟩ := Action.course_throw.1 h'
    simp at hm
  · rename_i chain hchain
    cases hp : s.signer.principal with
    | error e =>
      have hm := request_locked hp h
      simp at hm
    | ok a =>
      obtain ⟨before, p, ms₁, ms₂, after, result', s₁, hpre, hpost, -, hmade, hr⟩ :=
        request_split hp h hc
      exact ⟨chain, p.nonce, before, p.start.attempted, ms₁, ms₂, after, result', s₁, hchain, hpre,
        hpost, sent hmade, hr⟩

/-- Whatever custody and the node answer: a transaction that a remote signer lets through is the
template filled in for the resolved chain, signed by the account unlocked when custody was asked. A
signature of another ends the request, and none comes back over a message. -/
theorem custody_untrusted (r : Requester) (t : Template) (s : Client) :
    (∀ ms result s', (r.send t).Course s ms result s' →
      (∀ pre signed left signer reply found post,
        ms = pre ++ ⟨.submit signed, left, reply, found⟩ :: post → left.signer = .remote signer →
          ∃ chain, r.resolveChain t.chain = .ok chain ∧ (∀ pinned, r.chain = some pinned →
            chain = pinned) ∧ Vouched t chain pre signed left) ∧
      ∀ pre a tx left sig found post,
        ms = pre ++ ⟨.custody (.sign a tx), left, .ok sig, found⟩ :: post →
          a.verifiesDigest tx.hash.digest sig = false →
            post = [] ∧ result = .error (.signer (.custody (.signature a)))) ∧
    ∀ message ms sig s' signer, s.signer = .remote signer →
      (Signing.signMessage message).Course s ms (.ok sig) s' →
        ∃ a, s.signer.principal = .ok a ∧ a.verifies message sig := by
  refine ⟨fun ms result s' h => ⟨?_, ?_⟩, ?_⟩
  · rintro pre signed left signer reply found post rfl hleft
    obtain ⟨chain, n, before, start, ms₁, ms₂, after, result', s₁, hchain, rfl, -, hsent, -⟩ :=
      send_split h (by simp [Call.isPause])
    exact ⟨chain, hchain, fun pinned => resolveChain_of_pinned hchain,
      (hsent.vouched hleft).prepend before⟩
  · rintro pre a tx left sig found post rfl hv
    obtain ⟨chain, n, before, start, ms₁, ms₂, after, result', s₁, -, rfl, rfl, hsent, hr⟩ :=
      send_split h (by simp [Call.isPause])
    obtain ⟨rfl, rfl⟩ := hsent.refused hv
    rcases hr with hr | ⟨rfl, rfl⟩
    · exact hr.elim
    · exact ⟨rfl, rfl⟩
  · intro message ms sig s' signer hs h
    rcases Signing.course_signMessage_remote hs h with ⟨e, -, -, he, -⟩ | ⟨a, reply, hp, -, hj⟩
    · cases he
    · exact ⟨a, hp, (Signing.judgedMessage_eq_ok hj.symm).2⟩

def seen? : Moment → Option ((Address × Transaction × Signature) ⊕ SignedTransaction)
  | ⟨.custody (.sign a tx), _, .ok sig, _⟩ => some (.inl (a, tx, sig))
  | ⟨.submit signed, left, _, _⟩ => if left.signer.session?.isSome then some (.inr signed) else none
  | _ => none

lemma of_seen?_eq_inl {m : Moment} (h : seen? m = some (.inl (a, tx, sig))) :
    ∃ left found, m = ⟨.custody (.sign a tx), left, .ok sig, found⟩ := by
  unfold seen? at h
  split at h
  · cases h
    exact ⟨_, _, rfl⟩
  · split at h <;> cases h
  · cases h

lemma of_seen?_eq_inr {m : Moment} (h : seen? m = some (.inr signed)) :
    ∃ left signer reply found, m = ⟨.submit signed, left, reply, found⟩ ∧
      left.signer = .remote signer := by
  unfold seen? at h
  split at h
  · cases h
  · split at h
    · rename_i left _ _ hs
      cases h
      cases hl : left.signer with
      | resident local_ => simp [hl, Signer.session?] at hs
      | remote signer => exact ⟨_, signer, _, _, rfl, hl⟩
    · cases h
  · cases h

theorem custody_untrusted_caught :
    let a : Address := ⟨Curve.Point.base⟩
    let sig : Signature :=
      { r := ⟨0xa7fe4714044814df1309b107e970a84a94a1d5b2b62116017ebeabe80d09d657,
          by decide, by decide⟩
        s := ⟨0x6b0a3a839896b8c2dae3f3f71fec8a5deab677e1a368cc485c49cfb0d7ae1213,
          by decide, by decide⟩
        low := by decide }
    let forged : Signature :=
      { r := ⟨0x617ce6f82c666c1233f2a0d313b9e3d1a4ea0e1e1016c447b83c19f42cc8d1a4,
          by decide, by decide⟩
        s := ⟨0x617ce6f82c666c1233f2a0d313b9e3d1a4ea0e1e1016c447b83c19f42cc8d1a4,
          by decide, by decide⟩
        low := by decide }
    let w : World := fun past call s =>
      match past, call with
      | [], .readState c => (.ok ⟨c, 7, 0⟩, s)
      | _, .readState c => (.ok ⟨c, 8, 0⟩, s)
      | _, .custody (.sign _ tx) => (.ok (if tx.nonce = 8 then sig else forged), s)
      | _, .submit _ => (.error (.rejected ⟨.nonceTooLow, ""⟩), s)
      | _, call => (call.silence, s)
    let chain : ChainId := .ofName []
    let r : Requester := ⟨.standard, some chain⟩
    let t : Template := { recipient := some a, amount := 5 }
    let s : Client := .start (.remote ⟨some ⟨a, ⟨"one"⟩⟩⟩) none
    (∃ pre left, Vouched t chain pre ⟨t.fill chain a 8, sig⟩ left) ∧
      ((r.send t).play w [] s).2.1 = .error (.signer (.custody (.signature a))) := by
  intro a sig forged w chain r t s
  have hsends := (custody_untrusted r t s).1 _ _ _ (Action.play_course (r.send t) w [] s)
  have hseen : ((r.send t).play w [] s).1.filterMap seen? =
      [.inl (a, t.fill chain a 8, sig), .inr ⟨t.fill chain a 8, sig⟩,
        .inl (a, t.fill chain a 9, forged)] := by decide +kernel
  have hforged : a.verifiesDigest (t.fill chain a 9).hash.digest forged = false := by decide +kernel
  have hmem {x : (Address × Transaction × Signature) ⊕ SignedTransaction}
      (hx : x ∈ ((r.send t).play w [] s).1.filterMap seen?) :
      ∃ m pre post, ((r.send t).play w [] s).1 = pre ++ m :: post ∧ seen? m = some x := by
    obtain ⟨m, hm, hs⟩ := List.mem_filterMap.1 hx
    obtain ⟨pre, post, hms⟩ := List.append_of_mem hm
    exact ⟨m, pre, post, hms, hs⟩
  rw [hseen] at hmem
  constructor
  · obtain ⟨m, pre, post, hms, hs⟩ := hmem (x := .inr ⟨t.fill chain a 8, sig⟩) (by simp)
    obtain ⟨left, signer, reply, found, rfl, hl⟩ := of_seen?_eq_inr hs
    obtain ⟨chain', hchain, -, hv⟩ := hsends.1 pre _ left signer reply found post hms hl
    obtain rfl : chain = chain' := Except.ok.inj hchain
    exact ⟨pre, left, hv⟩
  · obtain ⟨m, pre, post, hms, hs⟩ := hmem (x := .inl (a, t.fill chain a 9, forged)) (by simp)
    obtain ⟨left, found, rfl⟩ := of_seen?_eq_inl hs
    exact (hsends.2 pre a _ left forged found post hms hforged).2

end Requester

end LedgerClient
