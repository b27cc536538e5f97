import LedgerClient.Proofs.Client.Signing

namespace LedgerClient

namespace Signing

inductive Use where
  | unlock (a : Address) (c : Credential)
  | lock
  | principal
  | isUnlocked
  | sign (tx : Transaction)
  | signMessage (message : Bytes)
  | signText (text : String)
  | verifyMessage (message : Bytes) (sig : Signature)

inductive Answer where
  | account (a : Address)
  | outcome (o : LockOutcome)
  | flag (b : Bool)
  | signed (s : SignedTransaction)
  | signature (s : Signature)
  | text (s : String)

namespace Use

def action : Use → Action SignerError Answer
  | unlock a c => do return .account (← Signing.unlock a c)
  | lock => do return .outcome (← Signing.lock)
  | principal => do return .account (← Signing.principal)
  | isUnlocked => do return .flag (← get).signer.isUnlocked
  | sign tx => do return .signed (← Signing.sign tx)
  | signMessage message => do return .signature (← Signing.signMessage message)
  | signText text => do return .text (← Signing.signText text)
  | verifyMessage message sig => do return .flag (← Signing.verifyMessage message sig)

end Use

end Signing

namespace LocalSigner

open Signing

def answer (s : LocalSigner) : Use → Except SignerError Answer × LocalSigner
  | .unlock a c =>
    match s.unlock a c with
    | .ok (unlocked, s') => (.ok (.account unlocked), s')
    | .error e => (.error e, s)
  | .lock => (.ok (.outcome s.lock.1), s.lock.2)
  | .principal => ((Signer.resident s).principal.map .account, s)
  | .isUnlocked => (.ok (.flag (Signer.resident s).isUnlocked), s)
  | .sign tx => ((s.sign tx).map .signed, s)
  | .signMessage message => ((s.signMessage message).map .signature, s)
  | .signText text => ((s.signMessage (.ofText text)).map (.text ·.toBase64), s)
  | .verifyMessage message sig =>
    ((Signer.resident s).principal.map fun a => .flag (a.verifies message sig), s)

def answers : LocalSigner → List Use → List (Except SignerError Answer)
  | _, [] => []
  | s, u :: us => (s.answer u).1 :: (s.answer u).2.answers us

end LocalSigner

namespace Signing

variable {s s' : Client} {ms : List Moment} {u : Use} {result : Except SignerError Answer}

lemma course_signText {text : String} {result : Except SignerError String} :
    (signText text).Course s ms result s' ↔
      ∃ y, result = y.map Signature.toBase64 ∧ (signMessage (.ofText text)).Course s ms y s' :=
  Action.course_bind_pure

lemma course_verifyMessage {message : Bytes} {sig : Signature} {result : Except SignerError Bool} :
    (verifyMessage message sig).Course s ms result s' ↔
      ms = [] ∧ result = s.signer.principal.map (·.verifies message sig) ∧ s' = s := by
  rw [verifyMessage, Action.course_bind_pure]
  constructor
  · rintro ⟨y, rfl, h⟩
    obtain ⟨rfl, rfl, rfl⟩ := course_principal.1 h
    exact ⟨rfl, rfl, rfl⟩
  · rintro ⟨rfl, rfl, rfl⟩
    exact ⟨_, rfl, course_principal.2 ⟨rfl, rfl, rfl⟩⟩

lemma course_setSigner {signer : Signer} {u : Unit} :
    Task.Course (setSigner signer) s ms u s' ↔ ms = [] ∧ s' = { s with signer } :=
  Task.course_modify

section Resident

variable {signer : LocalSigner} (hs : s.signer = .resident signer)
include hs

lemma course_unlock_resident {a : Address} {c : Credential} {result : Except SignerError Address}
    (h : (unlock a c).Course s ms result s') :
    ms = [] ∧ result.map .account = (signer.answer (.unlock a c)).1 ∧
      s'.signer = .resident (signer.answer (.unlock a c)).2 := by
  rw [unlock, Action.course_get_bind, hs] at h
  rcases Action.course_bind.1 h with ⟨e, rfl, h₁⟩ | ⟨ms₁, ⟨unlocked, signer'⟩, s₁, ms₂, rfl, h₁, h₂⟩
  · obtain ⟨rfl, he, rfl⟩ := Action.course_ofExcept.1 h₁
    simp only [LocalSigner.answer, ← he]
    exact ⟨trivial, rfl, hs⟩
  · obtain ⟨rfl, he, rfl⟩ := Action.course_ofExcept.1 h₁
    obtain ⟨_, _, _, _, rfl, h₃, h₄⟩ := Action.course_lift_bind.1 h₂
    obtain ⟨rfl, rfl⟩ := course_setSigner.1 h₃
    obtain ⟨rfl, rfl, rfl⟩ := Action.course_pure.1 h₄
    simp only [LocalSigner.answer, ← he]
    exact ⟨rfl, rfl, trivial⟩

lemma course_signMessage_resident {message : Bytes} {result : Except SignerError Signature}
    (h : (signMessage message).Course s ms result s') :
    ms = [] ∧ result = signer.signMessage message ∧ s' = s := by
  rw [signMessage, Action.course_get_bind, hs] at h
  exact Action.course_ofExcept.1 h

lemma course_resident (h : u.action.Course s ms result s') :
    ms = [] ∧ result = (signer.answer u).1 ∧ s'.signer = .resident (signer.answer u).2 := by
  cases u with
  | unlock a c =>
    obtain ⟨y, rfl, hc⟩ := Action.course_bind_pure.1 h
    exact course_unlock_resident hs hc
  | lock =>
    obtain ⟨y, rfl, hc⟩ := Action.course_bind_pure.1 h
    rw [lock, Action.course_get_bind, hs] at hc
    obtain ⟨_, _, _, _, rfl, h₁, h₂⟩ := Action.course_lift_bind.1 hc
    obtain ⟨rfl, rfl⟩ := course_setSigner.1 h₁
    obtain ⟨rfl, rfl, rfl⟩ := Action.course_pure.1 h₂
    exact ⟨rfl, rfl, rfl⟩
  | principal =>
    obtain ⟨y, rfl, hc⟩ := Action.course_bind_pure.1 h
    obtain ⟨rfl, rfl, rfl⟩ := course_principal.1 hc
    exact ⟨rfl, by rw [hs]; rfl, hs⟩
  | isUnlocked =>
    rw [Use.action, Action.course_get_bind] at h
    obtain ⟨rfl, rfl, rfl⟩ := Action.course_pure.1 h
    exact ⟨rfl, by rw [hs]; rfl, hs⟩
  | sign tx =>
    obtain ⟨y, rfl, hc⟩ := Action.course_bind_pure.1 h
    rw [sign, Action.course_get_bind, hs] at hc
    obtain ⟨rfl, rfl, rfl⟩ := Action.course_ofExcept.1 hc
    exact ⟨rfl, rfl, hs⟩
  | signMessage message =>
    obtain ⟨y, rfl, hc⟩ := Action.course_bind_pure.1 h
    obtain ⟨rfl, rfl, rfl⟩ := course_signMessage_resident hs hc
    exact ⟨rfl, rfl, hs⟩
  | signText text =>
    obtain ⟨y, rfl, hc⟩ := Action.course_bind_pure.1 h
    obtain ⟨z, rfl, hm⟩ := course_signText.1 hc
    obtain ⟨rfl, rfl, rfl⟩ := course_signMessage_resident hs hm
    refine ⟨rfl, ?_, hs⟩
    simp only [LocalSigner.answer]
    cases signer.signMessage (.ofText text) <;> rfl
  | verifyMessage message sig =>
    obtain ⟨y, rfl, hc⟩ := Action.course_bind_pure.1 h
    obtain ⟨rfl, rfl, rfl⟩ := course_verifyMessage.1 hc
    refine ⟨rfl, ?_, hs⟩
    rw [hs]
    simp only [LocalSigner.answer]
    cases (Signer.resident signer).principal <;> rfl

end Resident

structure Exchange where
  call : CustodyCall
  session : Option Session
  reply : call.Reply

def exchange? : Moment → Option Exchange
  | ⟨.custody call, left, reply, _⟩ => some ⟨call, left.signer.session?, reply⟩
  | _ => none

def Along {σ : Type} (step : σ → Exchange → σ) (P : σ → Exchange → Prop) : σ → List Exchange → Prop
  | _, [] => True
  | x, e :: es => P x e ∧ Along step P (step x e) es

lemma along_append {σ : Type} {step : σ → Exchange → σ} {P : σ → Exchange → Prop} {x : σ}
    {es es' : List Exchange} :
    Along step P x (es ++ es') ↔ Along step P x es ∧ Along step P (es.foldl step x) es' := by
  induction es generalizing x with
  | nil => simp [Along]
  | cons e es ih => simp [Along, ih, and_assoc]

inductive Quiet (p : Option Session) : Use → List Exchange → Except SignerError Answer → Prop
  | principal : Quiet p .principal [] ((Signer.remote ⟨p⟩).principal.map .account)
  | isUnlocked : Quiet p .isUnlocked [] (.ok (.flag (Signer.remote ⟨p⟩).isUnlocked))
  | refused {tx : Transaction} {e : SignerError} (h : (Signer.remote ⟨p⟩).admits tx = .error e) :
      Quiet p (.sign tx) [] (.error e)
  | signed {tx : Transaction} (reply : Except CustodyError Signature)
      (h : (Signer.remote ⟨p⟩).admits tx = .ok ()) :
      Quiet p (.sign tx) [⟨.sign tx.sender tx, p, reply⟩] ((judgedSigned tx reply).map .signed)
  | locked {message : Bytes} {e : SignerError} (h : (Signer.remote ⟨p⟩).principal = .error e) :
      Quiet p (.signMessage message) [] (.error e)
  | message {message : Bytes} {a : Address} (reply : Except CustodyError Signature)
      (h : (Signer.remote ⟨p⟩).principal = .ok a) :
      Quiet p (.signMessage message) [⟨.signMessage a message, p, reply⟩]
        ((judgedMessage a message reply).map .signature)
  | text {text : String} {es : List Exchange} {y : Except SignerError Signature}
      (h : Quiet p (.signMessage (.ofText text)) es (y.map .signature)) :
      Quiet p (.signText text) es (y.map (.text ·.toBase64))
  | verified {message : Bytes} {sig : Signature} :
      Quiet p (.verifyMessage message sig) []
        ((Signer.remote ⟨p⟩).principal.map fun a => .flag (a.verifies message sig))

/-- All that a use of a remote signer can be: the session before it, what custody is asked and
replies, the result and the session after it. -/
inductive Step : Option Session → Use → List Exchange → Except SignerError Answer →
    Option Session → Prop
  | refused {p : Option Session} {a : Address} {c : Credential} (cause : CustodyError) :
      Step p (.unlock a c) [⟨.unlock a c, p, .error cause⟩] (.error (.ofCustody a cause)) p
  | unlocked {p : Option Session} {a : Address} {c : Credential} (h : ∀ q ∈ p, q.address = a) :
      Step p (.unlock a c) [⟨.unlock a c, p, .ok ()⟩] (.ok (.account a)) (some ⟨a, c⟩)
  | replaced {q : Session} {a : Address} {c : Credential} (h : q.address ≠ a)
      (reply : Except CustodyError Unit) :
      Step (some q) (.unlock a c)
        [⟨.unlock a c, some q, .ok ()⟩, ⟨.lock q.address q.credential, some ⟨a, c⟩, reply⟩]
        (.ok (.account a)) (some ⟨a, c⟩)
  | nothingToLock : Step none .lock [] (.ok (.outcome .nothingToLock)) none
  | locked {q : Session} {reply : Except CustodyError Unit}
      (h : reply = .ok () ∨ reply = .error .locked) :
      Step (some q) .lock [⟨.lock q.address q.credential, none, reply⟩] (.ok (.outcome .locked)) none
  | kept {q : Session} {cause : CustodyError} (h : cause ≠ .locked) :
      Step (some q) .lock [⟨.lock q.address q.credential, none, .error cause⟩]
        (.error (.ofCustody q.address cause)) (some q)
  | quiet {p : Option Session} {u : Use} {es : List Exchange} {result : Except SignerError Answer}
      (h : Quiet p u es result) : Step p u es result p

lemma course_setSession {session : Option Session} {u : Unit} :
    Task.Course (setSession session) s ms u s' ↔
      ms = [] ∧ s' = { s with signer := s.signer.withSession session } :=
  Task.course_modify

lemma course_lockReplaced {a : Address} {previous : Option Session} {u : Unit}
    (h : Task.Course (lockReplaced a previous) s ms u s') :
    ((∀ q ∈ previous, q.address = a) ∧ ms = [] ∧ s' = s) ∨
      ∃ q reply, previous = some q ∧ q.address ≠ a ∧
        ms = [⟨.custody (.lock q.address q.credential), s, reply, s'⟩] := by
  cases previous with
  | none =>
    obtain ⟨rfl, -, rfl⟩ := Task.course_pure.1 h
    exact .inl ⟨by simp, rfl, rfl⟩
  | some q =>
    rw [lockReplaced] at h
    split at h
    · rename_i hq
      obtain ⟨rfl, -, rfl⟩ := Task.course_pure.1 h
      exact .inl ⟨by simpa using hq, rfl, rfl⟩
    · rename_i hq
      obtain ⟨ms₁, reply, s₁, ms₂, rfl, h₁, h₂⟩ := Task.course_bind.1 h
      obtain rfl := Task.course_call.1 h₁
      obtain ⟨rfl, -, rfl⟩ := Task.course_pure.1 h₂
      exact .inr ⟨q, reply, rfl, hq, rfl⟩

lemma exists_remote {p : Option Session} (hs : s.signer = .remote ⟨p⟩) :
    ∃ c : Client, s = { c with signer := .remote ⟨p⟩ } :=
  ⟨s, by rw [← hs]⟩

lemma course_restore {q : Session} (hs : s.signer = .remote ⟨none⟩) {v : Unit}
    (h : Task.Course (restore q) s ms v s') : ms = [] ∧ s'.signer = .remote ⟨some q⟩ := by
  obtain ⟨_, _, _, _, rfl, h₁, h₂⟩ := Task.course_bind.1 h
  obtain ⟨rfl, rfl, rfl⟩ := Task.course_get.1 h₁
  rw [hs] at h₂
  obtain ⟨rfl, rfl⟩ := course_setSession.1 h₂
  exact ⟨rfl, by rw [hs]; rfl⟩

def Undisturbed (ms : List Moment) : Prop := ∀ m ∈ ms, m.found.signer = m.left.signer

lemma Undisturbed.head {m : Moment} (h : Undisturbed (m :: ms)) : m.found.signer = m.left.signer :=
  h m List.mem_cons_self

lemma Undisturbed.tail {m : Moment} (h : Undisturbed (m :: ms)) : Undisturbed ms :=
  fun m' hm => h m' (List.mem_cons_of_mem m hm)

lemma undisturbed_of_answers {w : World} {past : List Moment}
    (hw : ∀ past call c, (w past call c).2.signer = c.signer) (h : w.Answers past ms) :
    Undisturbed ms := by
  intro m hm
  obtain ⟨past', hanswer⟩ := h.of_mem hm
  exact (congrArg (·.2.signer) hanswer).trans (hw _ _ _)

section Remote

variable {p : Option Session} (hs : s.signer = .remote ⟨p⟩) (hm : Undisturbed ms)
include hs hm

lemma course_unlock_remote {a : Address} {c : Credential} {result : Except SignerError Address}
    (h : (unlock a c).Course s ms result s') :
    ∃ p', s'.signer = .remote ⟨p'⟩ ∧
      Step p (.unlock a c) (ms.filterMap exchange?) (result.map .account) p' := by
  obtain ⟨s, rfl⟩ := exists_remote hs
  rw [unlock, Action.course_get_bind] at h
  rcases Action.course_bind.1 h with ⟨e, rfl, h₁⟩ | ⟨ms₁, _, s₁, ms₂, rfl, h₁, h₂⟩
  · obtain ⟨reply, hc, hr⟩ := course_askCustody.1 h₁
    obtain rfl := Task.course_call.1 hc
    cases reply with
    | ok _ => cases hr
    | error cause =>
      cases hr
      exact ⟨p, hm.head, .refused cause⟩
  obtain ⟨reply, hc, hr⟩ := course_askCustody.1 h₁
  obtain rfl := Task.course_call.1 hc
  obtain rfl := mapError_eq_ok.1 hr.symm
  obtain ⟨s₁, rfl⟩ := exists_remote hm.head
  rw [Action.course_get_bind] at h₂
  obtain ⟨_, _, s₂, ms₃, rfl, h₃, h₄⟩ := Action.course_lift_bind.1 h₂
  obtain ⟨rfl, rfl⟩ := course_setSession.1 h₃
  obtain ⟨ms₄, _, s₃, _, rfl, h₅, h₆⟩ := Action.course_lift_bind.1 h₄
  obtain ⟨rfl, rfl, rfl⟩ := Action.course_pure.1 h₆
  rcases course_lockReplaced h₅ with ⟨hp, rfl, rfl⟩ | ⟨q, reply, hp, hq, rfl⟩
  · exact ⟨_, rfl, .unlocked hp⟩
  · obtain rfl : p = some q := hp
    exact ⟨_, hm.tail.head, .replaced hq reply⟩

lemma course_lock_remote {result : Except SignerError LockOutcome}
    (h : lock.Course s ms result s') :
    ∃ p', s'.signer = .remote ⟨p'⟩ ∧
      Step p .lock (ms.filterMap exchange?) (result.map .outcome) p' := by
  obtain ⟨s, rfl⟩ := exists_remote hs
  rw [lock, Action.course_get_bind] at h
  cases p with
  | none =>
    obtain ⟨rfl, rfl, rfl⟩ := Action.course_pure.1 h
    exact ⟨none, hs, .nothingToLock⟩
  | some q =>
    obtain ⟨_, _, s₁, ms₁, rfl, h₁, h₂⟩ := Action.course_lift_bind.1 h
    obtain ⟨rfl, rfl⟩ := course_setSession.1 h₁
    obtain ⟨reply, found, ms₂, rfl, h₃⟩ := Action.course_call_bind.1 h₂
    have hfound : found.signer = .remote ⟨none⟩ := hm.head
    split at h₃
    · obtain ⟨rfl, rfl, rfl⟩ := Action.course_pure.1 h₃
      exact ⟨none, hfound, .locked (.inl rfl)⟩
    · obtain ⟨rfl, rfl, rfl⟩ := Action.course_pure.1 h₃
      exact ⟨none, hfound, .locked (.inr rfl)⟩
    · rename_i cause hcause
      obtain ⟨_, _, s₂, ms₃, rfl, h₄, h₅⟩ := Action.course_lift_bind.1 h₃
      obtain ⟨rfl, hrestored⟩ := course_restore hfound h₄
      obtain ⟨rfl, rfl, rfl⟩ := Action.course_throw.1 h₅
      exact ⟨some q, hrestored, .kept hcause⟩

lemma quiet_signMessage {message : Bytes} {result : Except SignerError Signature}
    (h : (signMessage message).Course s ms result s') :
    s'.signer = .remote ⟨p⟩ ∧
      Quiet p (.signMessage message) (ms.filterMap exchange?) (result.map .signature) := by
  obtain ⟨s, rfl⟩ := exists_remote hs
  rcases course_signMessage_remote rfl h with ⟨e, he, rfl, rfl, rfl⟩ | ⟨a, reply, ha, rfl, rfl⟩
  · exact ⟨rfl, .locked he⟩
  · exact ⟨hm.head, .message reply ha⟩

lemma course_remote (h : u.action.Course s ms result s') :
    ∃ p', s'.signer = .remote ⟨p'⟩ ∧ Step p u (ms.filterMap exchange?) result p' := by
  cases u with
  | unlock a c =>
    obtain ⟨y, rfl, hc⟩ := Action.course_bind_pure.1 h
    exact course_unlock_remote hs hm hc
  | lock =>
    obtain ⟨y, rfl, hc⟩ := Action.course_bind_pure.1 h
    exact course_lock_remote hs hm hc
  | principal =>
    obtain ⟨y, rfl, hc⟩ := Action.course_bind_pure.1 h
    obtain ⟨rfl, rfl, rfl⟩ := course_principal.1 hc
    rw [hs]
    exact ⟨p, rfl, .quiet .principal⟩
  | isUnlocked =>
    rw [Use.action, Action.course_get_bind] at h
    obtain ⟨rfl, rfl, rfl⟩ := Action.course_pure.1 h
    rw [hs]
    exact ⟨p, rfl, .quiet .isUnlocked⟩
  | sign tx =>
    obtain ⟨s, rfl⟩ := exists_remote hs
    obtain ⟨y, rfl, hc⟩ := Action.course_bind_pure.1 h
    rcases course_sign_remote rfl hc with ⟨e, he, rfl, rfl, rfl⟩ | ⟨reply, ha, rfl, rfl⟩
    · exact ⟨p, rfl, .quiet (.refused he)⟩
    · exact ⟨p, hm.head, .quiet (.signed reply ha)⟩
  | signMessage message =>
    obtain ⟨y, rfl, hc⟩ := Action.course_bind_pure.1 h
    obtain ⟨hs', hquiet⟩ := quiet_signMessage hs hm hc
    exact ⟨p, hs', .quiet hquiet⟩
  | signText text =>
    obtain ⟨y, rfl, hc⟩ := Action.course_bind_pure.1 h
    obtain ⟨z, rfl, hz⟩ := course_signText.1 hc
    obtain ⟨hs', hquiet⟩ := quiet_signMessage hs hm hz
    refine ⟨p, hs', .quiet ?_⟩
    cases z <;> exact .text hquiet
  | verifyMessage message sig =>
    obtain ⟨y, rfl, hc⟩ := Action.course_bind_pure.1 h
    obtain ⟨rfl, rfl, rfl⟩ := course_verifyMessage.1 hc
    rw [hs]
    refine ⟨p, rfl, .quiet ?_⟩
    have hverified : Quiet p (.verifyMessage message sig) [] _ := .verified
    cases hp : (Signer.remote ⟨p⟩).principal <;> rw [hp] at hverified <;> exact hverified

end Remote

end Signing

end LedgerClient
