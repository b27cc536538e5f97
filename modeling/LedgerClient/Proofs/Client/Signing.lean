import LedgerClient.Client.Signing
import LedgerClient.Proofs.Client.Course
import LedgerClient.Proofs.Except

namespace LedgerClient

variable {s s' : Client} {ms : List Moment} {tx : Transaction} {a : Address}

lemma ensureSender_eq_ok {u : Unit} (h : ensureSender a tx = .ok u) : tx.sender = a :=
  (ite_else_error_eq_ok.1 h).1

lemma KeyPair.tx_signTransaction {k : KeyPair} {signed : SignedTransaction}
    (h : k.signTransaction tx = .ok signed) : signed.tx = tx := by
  obtain ⟨signature, -, rfl⟩ := map_eq_ok.1 h
  rfl

lemma LocalSigner.sign_eq_ok {signer : LocalSigner} {signed : SignedTransaction}
    (h : signer.sign tx = .ok signed) :
    signed.tx = tx ∧ (Signer.resident signer).principal = .ok tx.sender := by
  obtain ⟨k, hk, h⟩ := exceptBind_eq_ok.1 h
  obtain ⟨_, hs, h⟩ := exceptBind_eq_ok.1 h
  refine ⟨KeyPair.tx_signTransaction (mapError_eq_ok.1 h), ?_⟩
  rw [ensureSender_eq_ok hs]
  unfold key at hk
  split at hk
  · rename_i hu
    obtain rfl := Except.ok.inj hk
    simp [Signer.principal, Signer.principal?, hu]
  · cases hk

namespace Signer

def admits (signer : Signer) (tx : Transaction) : Except SignerError Unit := do
  ensureSender (← signer.principal) tx

lemma admits_eq_ok {signer : Signer} :
    signer.admits tx = .ok () ↔ signer.principal = .ok tx.sender := by
  rw [admits, exceptBind_eq_ok]
  constructor
  · rintro ⟨a, ha, h⟩
    rw [ha, ensureSender_eq_ok h]
  · intro h
    exact ⟨_, h, if_pos rfl⟩

end Signer

namespace Signing

lemma course_principal {result : Except SignerError Address} :
    principal.Course s ms result s' ↔ ms = [] ∧ result = s.signer.principal ∧ s' = s := by
  rw [principal, Action.course_get_bind, Action.course_ofExcept]

lemma course_askCustody {α : Type} {ask : Task (Except CustodyError α)}
    {result : Except SignerError α} :
    (askCustody a ask).Course s ms result s' ↔
      ∃ reply, ask.Course s ms reply s' ∧ result = reply.mapError (SignerError.ofCustody a) := by
  rw [askCustody, Action.course_lift_bind]
  constructor
  · rintro ⟨ms₁, reply, s₁, ms₂, rfl, h₁, h₂⟩
    cases reply with
    | error cause =>
      obtain ⟨rfl, rfl, rfl⟩ := Action.course_throw.1 h₂
      exact ⟨_, by rwa [List.append_nil], rfl⟩
    | ok a =>
      obtain ⟨rfl, rfl, rfl⟩ := Action.course_pure.1 h₂
      exact ⟨_, by rwa [List.append_nil], rfl⟩
  · rintro ⟨reply, h, rfl⟩
    refine ⟨ms, reply, s', [], by simp, h, ?_⟩
    cases reply with
    | error cause => exact Action.course_throw.2 ⟨rfl, rfl, rfl⟩
    | ok a => exact Action.course_pure.2 ⟨rfl, rfl, rfl⟩

def judged {α : Type} (a : Address) (valid : Signature → Bool) (use : Signature → α)
    (fault : CustodyFault) : Except CustodyError Signature → Except SignerError α
  | .error cause => .error (.ofCustody a cause)
  | .ok sig => if valid sig then .ok (use sig) else .error (.custody fault)

section Judged

variable {α : Type} {valid : Signature → Bool} {use : Signature → α} {fault : CustodyFault}

lemma course_judged {ask : Task (Except CustodyError Signature)} {result : Except SignerError α}
    (h : Action.Course (do
      let sig ← askCustody a ask
      if valid sig then return use sig else throw (.custody fault)) s ms result s') :
    ∃ reply, ask.Course s ms reply s' ∧ result = judged a valid use fault reply := by
  rcases Action.course_bind.1 h with ⟨e, rfl, h₁⟩ | ⟨ms₁, sig, s₁, ms₂, rfl, h₁, h₂⟩
  · obtain ⟨reply, hc, hr⟩ := course_askCustody.1 h₁
    cases reply with
    | ok sig => cases hr
    | error cause =>
      cases hr
      exact ⟨_, hc, rfl⟩
  · obtain ⟨reply, hc, hr⟩ := course_askCustody.1 h₁
    obtain rfl := mapError_eq_ok.1 hr.symm
    by_cases hv : valid sig
    · rw [if_pos hv] at h₂
      obtain ⟨rfl, rfl, rfl⟩ := Action.course_pure.1 h₂
      exact ⟨_, by rwa [List.append_nil], (if_pos hv).symm⟩
    · rw [if_neg hv] at h₂
      obtain ⟨rfl, rfl, rfl⟩ := Action.course_throw.1 h₂
      exact ⟨_, by rwa [List.append_nil], (if_neg hv).symm⟩

lemma judged_eq_ok {reply : Except CustodyError Signature} {x : α}
    (h : judged a valid use fault reply = .ok x) :
    ∃ sig, reply = .ok sig ∧ valid sig ∧ x = use sig := by
  cases reply with
  | error cause => cases h
  | ok sig =>
    obtain ⟨hv, h⟩ := ite_else_error_eq_ok.1 h
    cases h
    exact ⟨sig, rfl, hv, rfl⟩

end Judged

def judgedSigned (tx : Transaction) :
    Except CustodyError Signature → Except SignerError SignedTransaction :=
  judged tx.sender (tx.sender.verifiesDigest tx.hash.digest) (⟨tx, ·⟩) (.signature tx.sender)

def judgedMessage (a : Address) (message : Bytes) :
    Except CustodyError Signature → Except SignerError Signature :=
  judged a (a.verifies message) id (.messageSignature a)

lemma course_sign_remote {signer : RemoteSigner} (hs : s.signer = .remote signer)
    {result : Except SignerError SignedTransaction} (h : (sign tx).Course s ms result s') :
    (∃ e, s.signer.admits tx = .error e ∧ ms = [] ∧ result = .error e ∧ s' = s) ∨
      ∃ reply, s.signer.admits tx = .ok () ∧
        ms = [⟨.custody (.sign tx.sender tx), s, reply, s'⟩] ∧ result = judgedSigned tx reply := by
  rw [sign, Action.course_get_bind, hs] at h
  rcases Action.course_bind.1 h with ⟨e, rfl, h₁⟩ | ⟨ms₁, address, s₁, ms₂, rfl, h₁, h₂⟩
  · obtain ⟨rfl, he, rfl⟩ := course_principal.1 h₁
    exact .inl ⟨e, by rw [Signer.admits, ← he]; rfl, rfl, rfl, rfl⟩
  obtain ⟨rfl, hp, rfl⟩ := course_principal.1 h₁
  have hadmits : s₁.signer.admits tx = ensureSender address tx := by
    rw [Signer.admits, ← hp]
    rfl
  rcases Action.course_bind.1 h₂ with ⟨e, rfl, h₃⟩ | ⟨ms₃, _, s₂, ms₄, rfl, h₃, h₄⟩
  · obtain ⟨rfl, he, rfl⟩ := Action.course_ofExcept.1 h₃
    exact .inl ⟨e, hadmits.trans he.symm, rfl, rfl, rfl⟩
  obtain ⟨rfl, he, rfl⟩ := Action.course_ofExcept.1 h₃
  obtain rfl := ensureSender_eq_ok he.symm
  obtain ⟨reply, hc, rfl⟩ := course_judged h₄
  obtain rfl := Task.course_call.1 hc
  exact .inr ⟨reply, hadmits.trans he.symm, rfl, rfl⟩

lemma course_signMessage_remote {message : Bytes} {signer : RemoteSigner}
    (hs : s.signer = .remote signer) {result : Except SignerError Signature}
    (h : (signMessage message).Course s ms result s') :
    (∃ e, s.signer.principal = .error e ∧ ms = [] ∧ result = .error e ∧ s' = s) ∨
      ∃ a reply, s.signer.principal = .ok a ∧
        ms = [⟨.custody (.signMessage a message), s, reply, s'⟩] ∧
          result = judgedMessage a message reply := by
  rw [signMessage, Action.course_get_bind, hs] at h
  rcases Action.course_bind.1 h with ⟨e, rfl, h₁⟩ | ⟨ms₁, a, s₁, ms₂, rfl, h₁, h₂⟩
  · obtain ⟨rfl, he, rfl⟩ := course_principal.1 h₁
    exact .inl ⟨e, he.symm, rfl, rfl, rfl⟩
  obtain ⟨rfl, hp, rfl⟩ := course_principal.1 h₁
  obtain ⟨reply, hc, rfl⟩ := course_judged h₂
  obtain rfl := Task.course_call.1 hc
  exact .inr ⟨a, reply, hp.symm, rfl, rfl⟩

lemma judgedSigned_eq_ok {reply : Except CustodyError Signature} {signed : SignedTransaction}
    (h : judgedSigned tx reply = .ok signed) :
    reply = .ok signed.signature ∧ signed.tx = tx ∧ signed.verifies := by
  obtain ⟨sig, rfl, hv, rfl⟩ := judged_eq_ok h
  exact ⟨rfl, rfl, hv⟩

lemma judgedMessage_eq_ok {message : Bytes} {reply : Except CustodyError Signature}
    {sig : Signature} (h : judgedMessage a message reply = .ok sig) :
    reply = .ok sig ∧ a.verifies message sig := by
  obtain ⟨sig, rfl, hv, rfl⟩ := judged_eq_ok h
  exact ⟨rfl, hv⟩

lemma course_sign {result : Except SignerError SignedTransaction}
    (h : (sign tx).Course s ms result s') :
    (∀ m ∈ ms, ∃ call, m.call = .custody call) ∧
      ∀ signed, result = .ok signed → signed.tx = tx ∧ s.signer.principal = .ok tx.sender := by
  cases hs : s.signer with
  | resident signer =>
    rw [sign, Action.course_get_bind, hs] at h
    obtain ⟨rfl, rfl, rfl⟩ := Action.course_ofExcept.1 h
    exact ⟨by simp, fun signed hr => LocalSigner.sign_eq_ok hr⟩
  | remote signer =>
    rcases course_sign_remote hs h with ⟨e, -, rfl, rfl, -⟩ | ⟨reply, ha, rfl, rfl⟩
    · exact ⟨by simp, by simp⟩
    · exact ⟨by simp, fun signed hr => ⟨(judgedSigned_eq_ok hr).2.1, hs ▸ Signer.admits_eq_ok.1 ha⟩⟩

end Signing

end LedgerClient
