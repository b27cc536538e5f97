import LedgerClient.Proofs.Identity.KeyPair
import LedgerClient.Proofs.Signer.Store
import LedgerClient.Proofs.Signer.Use

/-! A signer that has custody sign behaves as one that holds the secrets itself, but for failures
that custody gives another name. -/

namespace LedgerClient

namespace Signing

variable {s s' : Client} {ms past : List Moment} {u : Use} {es : List Exchange}
  {result : Except SignerError Answer} {p p' : Option Session}

abbrev Kept := Address → Option KeyPair

structure Safe where
  kept : Kept
  past : List Exchange

/-- A custody service that unlocks what the store lets it load. It is free in what it says of a
failure, which may depend on all that it has been asked. -/
structure Custodian where
  store : KeyStore
  fault : List Exchange → CustodyCall → CustodyError

structure Response where
  asked : List Exchange
  result : Except SignerError Answer

namespace Custodian

variable (c : Custodian)

def signFor (v : Safe) (call : CustodyCall) (a : Address)
    (use : KeyPair → Except KeyError Signature) : Except CustodyError Signature :=
  match v.kept a with
  | some k => (use k).mapError fun _ => c.fault v.past call
  | none => .error (c.fault v.past call)

def answer (v : Safe) : (call : CustodyCall) → call.Reply
  | .unlock a credential =>
    ((c.store.load a credential).map fun _ => ()).mapError fun _ =>
      c.fault v.past (.unlock a credential)
  | .lock _ _ => .ok ()
  | .sign a tx => c.signFor v (.sign a tx) a (·.signDigest tx.hash.digest)
  | .signMessage a message => c.signFor v (.signMessage a message) a (·.sign message)
  | .list => .ok c.store.identities

def after (kept : Kept) : CustodyCall → Kept
  | .unlock a credential =>
    match c.store.load a credential with
    | .ok k => Function.update kept a (some k)
    | .error _ => kept
  | .lock a _ => Function.update kept a none
  | _ => kept

def step (v : Safe) (e : Exchange) : Safe := ⟨c.after v.kept e.call, v.past ++ [e]⟩

def Answered (v : Safe) (e : Exchange) : Prop := e.reply = c.answer v e.call

def world (v : Safe) : World := fun past call state =>
  match call with
  | .custody call => (c.answer ((past.filterMap exchange?).foldl c.step v) call, state)
  | call => (call.silence, state)

def responses : Safe → Client → List Use → List Response
  | _, _, [] => []
  | v, s, u :: us =>
    let (ms, result, s') := u.action.play (c.world v) [] s
    ⟨ms.filterMap exchange?, result⟩ :: responses ((ms.filterMap exchange?).foldl c.step v) s' us

end Custodian

inductive Shared : SignerError → Prop
  | locked : Shared .locked
  | senderMismatch (expected actual : Address) : Shared (.senderMismatch expected actual)

/-- Custody has been asked for one thing, and has called its failure `locked`. -/
inductive Concealed : List Exchange → Prop
  | unlock {a : Address} {credential : Credential} {p : Option Session} :
      Concealed [⟨.unlock a credential, p, .error .locked⟩]
  | sign {a : Address} {tx : Transaction} {p : Option Session} :
      Concealed [⟨.sign a tx, p, .error .locked⟩]
  | message {a : Address} {message : Bytes} {p : Option Session} :
      Concealed [⟨.signMessage a message, p, .error .locked⟩]

/-- The same value, or two errors that are the same if one of them is shared, unless it is the
`locked` of custody. -/
inductive Agree (es : List Exchange) :
    Except SignerError Answer → Except SignerError Answer → Prop
  | ok (x : Answer) : Agree es (.ok x) (.ok x)
  | error {e e' : SignerError} (h : Shared e ∨ Shared e' → e = e') : Agree es (.error e) (.error e')
  | concealed {e : SignerError} (he : ¬ Shared e) (h : Concealed es) :
      Agree es (.error e) (.error .locked)

variable {c : Custodian} {v : Safe} {kept : Kept} {signer : LocalSigner}

lemma Agree.refl (x : Except SignerError Answer) : Agree es x x := by
  cases x with
  | ok x => exact .ok x
  | error e => exact .error fun _ => rfl

lemma not_shared_ofKeyStore (cause : KeyStoreError) : ¬ Shared (.ofKeyStore cause) := by
  cases cause <;> rintro ⟨⟩

lemma Agree.eq {x y : Except SignerError Answer} (h : Agree es x y)
    (hx : ∀ e, x = .error e → Shared e) : x = y := by
  cases h with
  | ok x => rfl
  | error h => rw [h (.inl (hx _ rfl))]
  | concealed he => exact absurd (hx _ rfl) he

lemma Agree.map_signature {x y : Except SignerError Signature} {f : Signature → Answer}
    (h : Agree es (x.map .signature) (y.map .signature)) : Agree es (x.map f) (y.map f) := by
  cases x <;> cases y
  · cases h with
    | error h => exact .error h
    | concealed he h => exact .concealed he h
  · cases h
  · cases h
  · cases h
    exact .ok _

lemma not_shared_ofCustody {a : Address} {cause : CustodyError} (h : cause ≠ .locked) :
    ¬ Shared (.ofCustody a cause) := by
  cases cause with
  | locked => exact absurd rfl h
  | _ => rintro ⟨⟩

lemma agree_ofCustody {e : SignerError} {a : Address} {cause : CustodyError} (he : ¬ Shared e)
    (h : cause = .locked → Concealed es) : Agree es (.error e) (.error (.ofCustody a cause)) := by
  by_cases hc : cause = .locked
  · rw [hc]
    exact .concealed he (h hc)
  · exact .error fun hs => (hs.elim he (not_shared_ofCustody hc)).elim

inductive Matches (c : Custodian) (kept : Kept) : LocalSigner → Option Session → Prop
  | locked : Matches c kept ⟨c.store, none⟩ none
  | unlocked {k : KeyPair} (credential : Credential) (h : kept k.address = some k) :
      Matches c kept ⟨c.store, some k⟩ (some ⟨k.address, credential⟩)

lemma Matches.principal? (h : Matches c kept signer p) :
    (Signer.resident signer).principal? = (Signer.remote ⟨p⟩).principal? := by
  cases h <;> rfl

lemma Matches.principal (h : Matches c kept signer p) :
    (Signer.resident signer).principal = (Signer.remote ⟨p⟩).principal := by
  rw [Signer.principal, Signer.principal, h.principal?]

lemma agree_judged {a : Address} {valid : Signature → Bool} {α : Type} {use : Signature → α}
    {fault : CustodyFault} {f : α → Answer} {x : Except KeyError Signature} {cause : CustodyError}
    (hvalid : ∀ sig, x = .ok sig → valid sig = true)
    (hlocked : (x.mapError fun _ => cause) = .error .locked → Concealed es) :
    Agree es (((x.map use).mapError SignerError.key).map f)
      ((judged a valid use fault (x.mapError fun _ => cause)).map f) := by
  cases x with
  | ok sig =>
    have hv : judged a valid use fault (.ok sig) = .ok (use sig) := if_pos (hvalid sig rfl)
    change Agree es _ ((judged a valid use fault (.ok sig)).map f)
    rw [hv]
    exact .ok _
  | error e => exact agree_ofCustody nofun fun hc => hlocked (congrArg Except.error hc)

lemma signFor_of_kept {call : CustodyCall} {a : Address} {k : KeyPair}
    {use : KeyPair → Except KeyError Signature} (h : v.kept a = some k) :
    c.signFor v call a use = (use k).mapError fun _ => c.fault v.past call := by
  rw [Custodian.signFor, h]

lemma answer_sign {tx : Transaction} :
    (signer.answer (.sign tx)).1 = (signer.sign tx).map .signed := rfl

lemma answer_signMessage {message : Bytes} :
    (signer.answer (.signMessage message)).1 = (signer.signMessage message).map .signature := rfl

lemma sign_unlocked {store : KeyStore} {k : KeyPair} {tx : Transaction} :
    LocalSigner.sign ⟨store, some k⟩ tx =
      ensureSender k.address tx >>= fun _ => (k.signTransaction tx).mapError .key := rfl

lemma signMessage_unlocked {store : KeyStore} {k : KeyPair} {message : Bytes} :
    LocalSigner.signMessage ⟨store, some k⟩ message = (k.sign message).mapError .key := by
  have hk : LocalSigner.key ⟨store, some k⟩ = .ok k := rfl
  rw [LocalSigner.signMessage, hk, exceptBind_ok]

section Alike

variable {tx : Transaction} {message : Bytes} {e : SignerError}

lemma agree_refused (hm : Matches c kept signer p)
    (h : (Signer.remote ⟨p⟩).admits tx = .error e) :
    Agree es (signer.answer (.sign tx)).1 (.error e) := by
  cases hm with
  | locked =>
    cases h
    exact .refl _
  | @unlocked k credential hk =>
    have he : ensureSender k.address tx = .error e := h
    rw [answer_sign, sign_unlocked, he]
    exact .refl _

lemma agree_signed {reply : Except CustodyError Signature} (hm : Matches c v.kept signer p)
    (h : (Signer.remote ⟨p⟩).admits tx = .ok ()) (ha : reply = c.answer v (.sign tx.sender tx)) :
    Agree [⟨.sign tx.sender tx, p, reply⟩] (signer.answer (.sign tx)).1
      ((judgedSigned tx reply).map .signed) := by
  cases hm with
  | locked => cases h
  | @unlocked k credential hk =>
    have hs : ensureSender k.address tx = .ok () := h
    have hsender : tx.sender = k.address := ensureSender_eq_ok hs
    have hreply : reply = (k.signDigest tx.hash.digest).mapError _ :=
      ha.trans (signFor_of_kept (hsender ▸ hk))
    rw [answer_sign, sign_unlocked, hs, exceptBind_ok, KeyPair.signTransaction, judgedSigned, hreply]
    refine agree_judged (fun sig hsig => ?_) fun hl => hl ▸ .sign
    rw [hsender]
    exact KeyPair.verifiesDigest_of_signDigest hsig

lemma agree_unsigned (hm : Matches c kept signer p)
    (h : (Signer.remote ⟨p⟩).principal = .error e) :
    Agree es (signer.answer (.signMessage message)).1 (.error e) := by
  cases hm with
  | locked =>
    cases h
    exact .refl _
  | unlocked => cases h

lemma agree_message {a : Address} {reply : Except CustodyError Signature}
    (hm : Matches c v.kept signer p) (h : (Signer.remote ⟨p⟩).principal = .ok a)
    (ha : reply = c.answer v (.signMessage a message)) :
    Agree [⟨.signMessage a message, p, reply⟩] (signer.answer (.signMessage message)).1
      ((judgedMessage a message reply).map .signature) := by
  cases hm with
  | locked => cases h
  | @unlocked k credential hk =>
    obtain rfl : k.address = a := Except.ok.inj h
    have hid : (k.sign message).map id = k.sign message := by
      cases k.sign message <;> rfl
    have hreply : reply = (k.sign message).mapError _ := ha.trans (signFor_of_kept hk)
    rw [answer_signMessage, signMessage_unlocked, ← hid, judgedMessage, hreply]
    exact agree_judged (fun sig hsig => KeyPair.verifiesDigest_of_signDigest hsig) fun hl =>
      hl ▸ .message

end Alike

namespace Quiet

lemma kept_foldl (h : Quiet p u es result) : (es.foldl c.step v).kept = v.kept := by
  induction h with
  | text h ih => exact ih
  | _ => rfl

lemma agree (h : Quiet p u es result) (hm : Matches c v.kept signer p)
    (ha : Along c.step c.Answered v es) :
    Agree es (signer.answer u).1 result ∧ (signer.answer u).2 = signer := by
  induction h with
  | principal =>
    rw [← hm.principal]
    exact ⟨.refl _, rfl⟩
  | isUnlocked =>
    rw [Signer.isUnlocked, ← hm.principal?]
    exact ⟨.refl _, rfl⟩
  | refused h => exact ⟨agree_refused hm h, rfl⟩
  | signed reply h => exact ⟨agree_signed hm h ha.1, rfl⟩
  | locked h => exact ⟨agree_unsigned hm h, rfl⟩
  | message reply h => exact ⟨agree_message hm h ha.1, rfl⟩
  | text h ih => exact ⟨(ih ha).1.map_signature, rfl⟩
  | verified =>
    rw [← hm.principal]
    exact ⟨.refl _, rfl⟩

end Quiet

lemma Matches.store (h : Matches c kept signer p) : signer.store = c.store := by
  cases h <;> rfl

section Unlock

variable {a : Address} {credential : Credential}

lemma answer_unlock_of_error {cause : KeyStoreError}
    (h : signer.store.load a credential = .error cause) :
    signer.answer (.unlock a credential) = (.error (.ofKeyStore cause), signer) := by
  simp only [LocalSigner.answer, LocalSigner.unlock, h]

lemma answer_unlock_of_ok {k : KeyPair} (h : signer.store.load a credential = .ok k) :
    signer.answer (.unlock a credential) =
      (.ok (.account k.address), { signer with unlocked := some k }) := by
  simp only [LocalSigner.answer, LocalSigner.unlock, h]

lemma exists_load {reply : Except CustodyError Unit}
    (h : reply = c.answer v (.unlock a credential)) :
    (∃ cause, c.store.load a credential = .error cause ∧
        reply = .error (c.fault v.past (.unlock a credential))) ∨
      ∃ k, c.store.load a credential = .ok k ∧ reply = .ok () := by
  rw [h, Custodian.answer]
  cases c.store.load a credential with
  | error cause => exact .inl ⟨cause, rfl, rfl⟩
  | ok k => exact .inr ⟨k, rfl, rfl⟩

lemma after_unlock_of_error {cause : KeyStoreError}
    (h : c.store.load a credential = .error cause) :
    c.after kept (.unlock a credential) = kept := by
  rw [Custodian.after, h]

lemma after_unlock_of_ok {k : KeyPair} (h : c.store.load a credential = .ok k) :
    c.after kept (.unlock a credential) = Function.update kept a (some k) := by
  rw [Custodian.after, h]

lemma Matches.answer_unlock {k : KeyPair} {kept' : Kept} (hm : Matches c kept signer p)
    (h : c.store.load a credential = .ok k) (hk : kept' a = some k) :
    (signer.answer (.unlock a credential)).1 = .ok (.account a) ∧
      Matches c kept' (signer.answer (.unlock a credential)).2 (some ⟨a, credential⟩) := by
  obtain rfl := KeyStore.address_of_load h
  rw [answer_unlock_of_ok (hm.store ▸ h), hm.store]
  exact ⟨rfl, .unlocked credential hk⟩

end Unlock

lemma Step.agree (h : Step p u es result p') (hm : Matches c v.kept signer p)
    (ha : Along c.step c.Answered v es) :
    Agree es (signer.answer u).1 result ∧
      Matches c (es.foldl c.step v).kept (signer.answer u).2 p' := by
  cases h with
  | @refused _ a credential cause =>
    rcases exists_load ha.1 with ⟨e, he, hr⟩ | ⟨k, -, hr⟩
    · have hkept : c.after v.kept (.unlock a credential) = v.kept := after_unlock_of_error he
      rw [answer_unlock_of_error (hm.store ▸ he), List.foldl_cons, Custodian.step, hkept]
      exact ⟨agree_ofCustody (not_shared_ofKeyStore e) fun hl => hl ▸ .unlock, hm⟩
    · cases hr
  -- Custody replies as the store does, and the resident signer loads the same secret from it.
  | @unlocked _ a credential h =>
    rcases exists_load ha.1 with ⟨e, -, hr⟩ | ⟨k, hk, -⟩
    · cases hr
    · have hkept : c.after v.kept (.unlock a credential) a = some k := by
        rw [after_unlock_of_ok hk, Function.update_self]
      obtain ⟨hanswer, hmatches⟩ := hm.answer_unlock hk hkept
      rw [hanswer]
      exact ⟨.refl _, hmatches⟩
  | @replaced q a credential h reply =>
    rcases exists_load ha.1 with ⟨e, -, hr⟩ | ⟨k, hk, -⟩
    · cases hr
    · have hkept : Function.update (c.after v.kept (.unlock a credential)) q.address none a =
          some k := by
        rw [Function.update_of_ne h.symm, after_unlock_of_ok hk, Function.update_self]
      obtain ⟨hanswer, hmatches⟩ := hm.answer_unlock hk hkept
      rw [hanswer]
      exact ⟨.refl _, hmatches⟩
  | nothingToLock =>
    cases hm with
    | locked => exact ⟨.refl _, .locked⟩
  | locked h =>
    cases hm with
    | unlocked credential hk => exact ⟨.refl _, .locked⟩
  | kept h =>
    cases ha.1
  | quiet h =>
    obtain ⟨hagree, hsigner⟩ := h.agree hm ha
    rw [hsigner, h.kept_foldl]
    exact ⟨hagree, hm⟩

lemma world_signer (v : Safe) (past : List Moment) (call : Call) (s : Client) :
    (c.world v past call s).2.signer = s.signer := by
  cases call <;> rfl

lemma along_of_answers (h : (c.world v).Answers past ms) :
    Along c.step c.Answered ((past.filterMap exchange?).foldl c.step v)
      (ms.filterMap exchange?) := by
  induction ms generalizing past with
  | nil => trivial
  | cons m ms ih =>
    have hh := h.head
    have ht := ih h.tail
    rw [List.filterMap_append, List.foldl_append] at ht
    obtain ⟨call, left, reply, found⟩ := m
    cases call with
    | custody call => exact ⟨congrArg Prod.fst hh, ht⟩
    | _ => exact ht

lemma agree_responses {v₀ : Safe} {t : Client} (us : List Use) (hs : s.signer = .resident signer)
    (ht : t.signer = .remote ⟨p⟩) (hm : Matches c v.kept signer p) :
    List.Forall₂ (fun x y => Agree y.asked x.result y.result) (c.responses v₀ s us)
      (c.responses v t us) := by
  induction us generalizing s t v₀ v signer p with
  | nil => exact .nil
  | cons u us ih =>
    obtain ⟨-, hresult, hs'⟩ := course_resident hs (u.action.play_course (c.world v₀) [] s)
    have hanswers := u.action.play_answers (c.world v) [] t
    obtain ⟨p', ht', hstep⟩ := course_remote ht
      (undisturbed_of_answers (world_signer v) hanswers)
      (u.action.play_course (c.world v) [] t)
    obtain ⟨hagree, hm'⟩ := hstep.agree hm (along_of_answers hanswers)
    rw [← hresult] at hagree
    exact .cons hagree (ih hs' ht' hm')

lemma responses_resident (us : List Use) (hs : s.signer = .resident signer) :
    (c.responses v s us).map (·.result) = signer.answers us := by
  induction us generalizing s v signer with
  | nil => rfl
  | cons u us ih =>
    obtain ⟨-, hresult, hs'⟩ := course_resident hs (u.action.play_course (c.world v) [] s)
    exact congrArg₂ List.cons hresult (ih hs')

lemma Step.error_of_refused {a : Address} {credential : Credential} {cause : KeyStoreError}
    (h : Step p (.unlock a credential) es result p') (ha : Along c.step c.Answered v es)
    (hload : c.store.load a credential = .error cause) :
    result = .error (.ofCustody a (c.fault v.past (.unlock a credential))) := by
  have hreply : c.answer v (.unlock a credential) =
      .error (c.fault v.past (.unlock a credential)) := by
    rw [Custodian.answer, hload]
    rfl
  cases h with
  | refused cause' =>
    obtain rfl : cause' = c.fault v.past (.unlock a credential) :=
      Except.error.inj (ha.1.trans hreply)
    rfl
  | unlocked => cases ha.1.trans hreply
  | replaced => cases ha.1.trans hreply
  | quiet h => cases h

lemma responses_refused {a : Address} {credential : Credential} {cause : KeyStoreError}
    (hs : s.signer = .remote ⟨p⟩) (hload : c.store.load a credential = .error cause) :
    (c.responses v s [.unlock a credential]).map (·.result) =
      [.error (.ofCustody a (c.fault v.past (.unlock a credential)))] := by
  let x := (Use.unlock a credential).action
  have hanswers := x.play_answers (c.world v) [] s
  obtain ⟨p', -, hstep⟩ := course_remote hs
    (undisturbed_of_answers (world_signer v) hanswers) (x.play_course (c.world v) [] s)
  exact congrArg (· :: []) (hstep.error_of_refused (along_of_answers hanswers) hload)

lemma results_eq {xs ys : List Response}
    (h : List.Forall₂ (fun x y => Agree y.asked x.result y.result) xs ys)
    (hxs : ∀ x ∈ xs, ∀ e, x.result = .error e → Shared e) :
    ys.map (·.result) = xs.map (·.result) := by
  induction h with
  | nil => rfl
  | cons hagree _ ih =>
    obtain ⟨hx, hrest⟩ := List.forall_mem_cons.1 hxs
    rw [List.map_cons, List.map_cons, ih hrest, hagree.eq hx]

/-- Over one store, a signer that holds the secrets and one that leaves them in custody answer
alike, whatever they are used for, unless custody says `locked` of a failure of its own. -/
theorem signers_agree (c : Custodian) (v : Safe) (us : List Use) (s t : Client) :
    List.Forall₂ (fun x y => Agree y.asked x.result y.result)
      (c.responses v { s with signer := .resident (.ofStore c.store) } us)
      (c.responses v { t with signer := .remote ⟨none⟩ } us) :=
  agree_responses us rfl rfl .locked

theorem signers_agree_saved :
    let k : KeyPair := .ofSecret ⟨3, by decide, by decide⟩
    let credential : Credential := ⟨"pw"⟩
    let us : List Use := [.unlock k.address credential, .principal, .lock, .principal]
    let client : Client := .start (.remote ⟨none⟩) none
    ∃ store, KeyStore.save .empty k ⟨List.replicate 12 0, rfl⟩ credential = .ok (k.address, store) ∧
      let c : Custodian := ⟨store, fun _ _ => .authentication⟩
      (LocalSigner.ofStore store).answers us = [.ok (.account k.address), .ok (.account k.address),
          .ok (.outcome .locked), .error .locked] ∧
        (c.responses ⟨fun _ => none, []⟩ client us).map (·.result) =
          (LocalSigner.ofStore store).answers us := by
  intro k credential us client
  obtain ⟨store, hsave⟩ : ∃ store,
      KeyStore.save .empty k ⟨List.replicate 12 0, rfl⟩ credential = .ok (k.address, store) :=
    ⟨_, KeyStore.save_eq ..⟩
  refine ⟨store, hsave, ?_⟩
  intro c
  have hresident : (LocalSigner.ofStore store).answers us = [.ok (.account k.address),
      .ok (.account k.address), .ok (.outcome .locked), .error .locked] := by
    have hload : (LocalSigner.ofStore store).store.load k.address credential = .ok k :=
      (KeyStore.keeps_save hsave).load
    rw [LocalSigner.answers, answer_unlock_of_ok hload]
    rfl
  have hresults := responses_resident (c := c) (v := ⟨fun _ => none, []⟩) us
    (s := { client with signer := .resident (.ofStore store) }) rfl
  refine ⟨hresident, (results_eq (signers_agree c ⟨fun _ => none, []⟩ us client client) ?_).trans
    hresults⟩
  intro x hx e he
  have hmem := List.mem_map_of_mem (f := Response.result) hx
  rw [hresults, hresident, he] at hmem
  simp only [List.mem_cons, reduceCtorEq, Except.error.injEq, List.not_mem_nil, or_false,
    false_or] at hmem
  rw [hmem]
  exact .locked

/-- Custody says `locked` of an address that it does not know. -/
theorem signers_disagree :
    let k : KeyPair := .ofSecret ⟨3, by decide, by decide⟩
    let b : Address := ⟨Curve.Point.base⟩
    let credential : Credential := ⟨"pw"⟩
    let client (signer : Signer) : Client := .start signer none
    ∃ store, KeyStore.save .empty k ⟨List.replicate 12 0, rfl⟩ credential = .ok (k.address, store) ∧
      let c : Custodian := ⟨store, fun _ _ => .locked⟩
      let v : Safe := ⟨fun _ => none, []⟩
      (c.responses v (client (.resident (.ofStore store))) [.unlock b credential]).map (·.result) =
          [.error (.keyStore (.notFound b))] ∧
        (c.responses v (client (.remote ⟨none⟩)) [.unlock b credential]).map (·.result) =
          [.error .locked] := by
  intro k b credential client
  obtain ⟨store, hsave⟩ : ∃ store,
      KeyStore.save .empty k ⟨List.replicate 12 0, rfl⟩ credential = .ok (k.address, store) :=
    ⟨_, KeyStore.save_eq ..⟩
  have hb : b ≠ k.address := by decide +kernel
  have hload : (LocalSigner.ofStore store).store.load b credential = .error (.notFound b) := by
    rw [KeyStore.save_eq] at hsave
    cases hsave
    exact KeyStore.load_of_none (Table.get?_set_of_ne _ _ hb)
  refine ⟨store, hsave, ?_, responses_refused rfl hload⟩
  rw [responses_resident _ rfl, LocalSigner.answers, answer_unlock_of_error hload]
  rfl

end Signing

end LedgerClient
