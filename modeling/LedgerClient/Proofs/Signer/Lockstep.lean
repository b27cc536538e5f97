import LedgerClient.Proofs.Signer.Use

namespace LedgerClient

namespace Signing

variable {p p' : Option Session} {u : Use} {es : List Exchange} {result : Except SignerError Answer}
  {opened : Set Address}

def held (p : Option Session) : Set Address := {a | ∃ q ∈ p, q.address = a}

lemma held_none : held none = ∅ := by
  ext a
  simp [held]

lemma held_some (q : Session) : held (some q) = {q.address} := by
  ext a
  simp [held, eq_comm (a := a)]

lemma principal_eq_ok {a : Address} : (Signer.remote ⟨p⟩).principal = .ok a ↔ a ∈ held p := by
  cases p with
  | none => simp [Signer.principal, Signer.principal?, held_none]
  | some q => simp [Signer.principal, Signer.principal?, held_some, eq_comm (a := a)]

namespace Exchange

def after (opened : Set Address) : Exchange → Set Address
  | ⟨.unlock a _, _, .ok ()⟩ => insert a opened
  | ⟨.lock a _, _, .ok ()⟩ => opened \ {a}
  | _ => opened

def Truthful (opened : Set Address) : Exchange → Prop
  | ⟨.lock a _, _, .error .locked⟩ => a ∉ opened
  | _ => True

def Covered (opened : Set Address) (e : Exchange) : Prop :=
  held e.session ⊆ opened ∧ held e.session ⊆ e.after opened

def FailedLock : Exchange → Prop
  | ⟨.lock _ _, _, .error _⟩ => True
  | _ => False

end Exchange

open Exchange

namespace Quiet

lemma foldl_after (h : Quiet p u es result) : es.foldl after opened = opened := by
  induction h with
  | text h ih => exact ih
  | _ => rfl

lemma covered (h : Quiet p u es result) (hp : held p ⊆ opened) : Along after Covered opened es := by
  induction h with
  | text h ih => exact ih
  | signed reply h => exact ⟨⟨hp, hp⟩, trivial⟩
  | message reply h => exact ⟨⟨hp, hp⟩, trivial⟩
  | _ => trivial

end Quiet

def Tidy (u : Use) (es : List Exchange) : Prop :=
  ∀ a c, u = .unlock a c → ∀ e ∈ es, ¬ e.FailedLock

namespace Step

lemma covered (h : Step p u es result p') (hp : held p ⊆ opened)
    (ht : Along after Truthful opened es) :
    Along after Covered opened es ∧ held p' ⊆ es.foldl after opened := by
  cases h with
  | refused cause => exact ⟨⟨⟨hp, hp⟩, trivial⟩, hp⟩
  | @unlocked _ a c h =>
    rw [held_some]
    exact ⟨⟨⟨hp, hp.trans (Set.subset_insert _ _)⟩, trivial⟩, by simp [after]⟩
  | @replaced q a c h reply =>
    have hopen : held (some ⟨a, c⟩) ⊆ insert a opened := by simp [held_some]
    have hstill : held (some ⟨a, c⟩) ⊆
        after (insert a opened) ⟨.lock q.address q.credential, some ⟨a, c⟩, reply⟩ := by
      cases reply with
      | ok _ => simp [held_some, after, h.symm]
      | error cause => exact hopen
    exact ⟨⟨⟨hp, hp.trans (Set.subset_insert _ _)⟩, ⟨hopen, hstill⟩, trivial⟩, hstill⟩
  | nothingToLock => exact ⟨trivial, by simp [held_none]⟩
  | locked h =>
    simp only [Along, Covered, held_none]
    simp
  | kept h =>
    simp only [Along, Covered, held_none]
    exact ⟨by simp, hp⟩
  | quiet h =>
    rw [h.foldl_after]
    exact ⟨h.covered hp, hp⟩

lemma foldl_after_held (h : Step p u es result p') (ht : Along after Truthful (held p) es)
    (hu : Tidy u es) :
    es.foldl after (held p) = held p' := by
  cases h with
  | refused cause => rfl
  | @unlocked _ a c h =>
    have hsub : held p ⊆ {a} := fun b ⟨q, hq, hb⟩ => hb ▸ h q hq
    rw [held_some]
    exact Set.union_eq_self_of_subset_right hsub
  | @replaced q a c h reply =>
    cases reply with
    | error cause =>
      exact absurd trivial
        (hu a c rfl ⟨.lock q.address q.credential, some ⟨a, c⟩, .error cause⟩ (by simp))
    | ok _ =>
      simp only [held_some]
      exact Set.pair_sdiff_right h.symm
  | nothingToLock => rfl
  | @locked q reply h =>
    rcases h with rfl | rfl
    · simp [after, held_some, held_none]
    · exact absurd ht.1 (by simp [Truthful, held_some])
  | kept h => rfl
  | quiet h => exact h.foldl_after

lemma eq_of_error {e : SignerError} (h : Step p u es (.error e) p') : p' = p := by
  cases h <;> rfl

lemma eq_none_of_lock {x : Answer} (h : Step p .lock es (.ok x) p') : p' = none := by
  cases h with
  | nothingToLock => rfl
  | locked h => rfl
  | quiet h => cases h

end Step

structure Visit where
  use : Use
  before : Client
  moments : List Moment
  result : Except SignerError Answer
  after : Client

def Visit.exchanges (v : Visit) : List Exchange := v.moments.filterMap exchange?

inductive History : Client → List Visit → Client → Prop
  | nil (s : Client) : History s [] s
  | cons {u : Use} {s s₁ s' : Client} {ms : List Moment} {result : Except SignerError Answer}
      {vs : List Visit} (h : u.action.Course s ms result s₁) (hm : Undisturbed ms)
      (hs : History s₁ vs s') : History s (⟨u, s, ms, result, s₁⟩ :: vs) s'

inductive Steps : Option Session → List Visit → Option Session → Prop
  | nil (p : Option Session) : Steps p [] p
  | cons {p p₁ p' : Option Session} {v : Visit} {vs : List Visit}
      (hb : v.before.signer = .remote ⟨p⟩) (ha : v.after.signer = .remote ⟨p₁⟩)
      (h : Step p v.use v.exchanges v.result p₁) (hs : Steps p₁ vs p') : Steps p (v :: vs) p'

lemma History.steps {s s' : Client} {vs : List Visit} (h : History s vs s')
    (hs : s.signer = .remote ⟨p⟩) : ∃ p', s'.signer = .remote ⟨p'⟩ ∧ Steps p vs p' := by
  induction h generalizing p with
  | nil s => exact ⟨p, hs, .nil p⟩
  | cons h hm _ ih =>
    obtain ⟨p₁, h₁, hstep⟩ := course_remote hs hm h
    obtain ⟨p', h', hsteps⟩ := ih h₁
    exact ⟨p', h', .cons hs h₁ hstep hsteps⟩

namespace Steps

variable {vs : List Visit}

lemma covered (h : Steps p vs p') (hp : held p ⊆ opened)
    (ht : Along after Truthful opened (vs.flatMap Visit.exchanges)) :
    Along after Covered opened (vs.flatMap Visit.exchanges) ∧
      held p' ⊆ (vs.flatMap Visit.exchanges).foldl after opened := by
  induction h generalizing opened with
  | nil p => exact ⟨trivial, hp⟩
  | cons _ _ h _ ih =>
    rw [List.flatMap_cons] at ht ⊢
    rw [along_append] at ht ⊢
    rw [List.foldl_append]
    obtain ⟨hc, hp₁⟩ := h.covered hp ht.1
    obtain ⟨hcs, hp'⟩ := ih hp₁ ht.2
    exact ⟨⟨hc, hcs⟩, hp'⟩

lemma foldl_after_held (h : Steps p vs p')
    (ht : Along after Truthful (held p) (vs.flatMap Visit.exchanges))
    (hu : ∀ v ∈ vs, Tidy v.use v.exchanges) :
    (vs.flatMap Visit.exchanges).foldl after (held p) = held p' := by
  induction h with
  | nil p => rfl
  | cons _ _ h _ ih =>
    rw [List.flatMap_cons] at ht ⊢
    rw [along_append] at ht
    have hheld := h.foldl_after_held ht.1 (hu _ List.mem_cons_self)
    rw [hheld] at ht
    rw [List.foldl_append, hheld]
    exact ih ht.2 fun v hv => hu v (List.mem_cons_of_mem _ hv)

lemma exists_step (h : Steps p vs p') {v : Visit} (hv : v ∈ vs) :
    ∃ p₁ p₂, v.before.signer = .remote ⟨p₁⟩ ∧ v.after.signer = .remote ⟨p₂⟩ ∧
      Step p₁ v.use v.exchanges v.result p₂ := by
  induction h with
  | nil p => cases hv
  | cons hb ha h _ ih =>
    rcases List.mem_cons.1 hv with rfl | hv
    · exact ⟨_, _, hb, ha, h⟩
    · exact ih hv

end Steps

/-- A signer that starts locked and a custody service that nobody else drives: what the signer
takes for unlocked is open, and unless a replaced account could not be locked nothing else is. -/
theorem session_open {s s' : Client} {vs : List Visit} (hs : s.signer = .remote ⟨none⟩)
    (h : History s vs s') {opened : Set Address}
    (ht : Along after Truthful opened (vs.flatMap Visit.exchanges)) :
    Along after Covered opened (vs.flatMap Visit.exchanges) ∧
      (∀ a, s'.signer.principal = .ok a → a ∈ (vs.flatMap Visit.exchanges).foldl after opened) ∧
      (∀ v ∈ vs, ∀ e, v.result = .error e → v.after.signer = v.before.signer) ∧
      (∀ v ∈ vs, v.use = .lock → ∀ x, v.result = .ok x → v.after.signer = .remote ⟨none⟩) ∧
      (opened = ∅ → (∀ v ∈ vs, Tidy v.use v.exchanges) →
        (vs.flatMap Visit.exchanges).foldl after opened = {a | s'.signer.principal = .ok a}) := by
  obtain ⟨p', hs', hsteps⟩ := h.steps hs
  obtain ⟨hcovered, hopen⟩ := hsteps.covered (by simp [held_none]) ht
  rw [hs']
  refine ⟨hcovered, fun a ha => hopen (principal_eq_ok.1 ha), ?_, ?_, ?_⟩
  · intro v hv e he
    obtain ⟨p₁, p₂, hb, ha, hstep⟩ := hsteps.exists_step hv
    rw [he] at hstep
    rw [ha, hb, hstep.eq_of_error]
  · intro v hv hlock x hx
    obtain ⟨p₁, p₂, hb, ha, hstep⟩ := hsteps.exists_step hv
    rw [hlock, hx] at hstep
    rw [ha, hstep.eq_none_of_lock]
  · -- Nothing open is what a locked session holds, so the run starts in step.
    rintro rfl hu
    rw [← held_none] at ht ⊢
    rw [hsteps.foldl_after_held ht hu]
    ext a
    exact principal_eq_ok.symm

theorem session_open_replaced :
    let a : Address := ⟨Curve.Point.base⟩
    let b : Address := ⟨
      { x := Fin.ofNat _ 0x2f8bde4d1a07209355b4a7250a5c5128e88b84bddc619ab7cba8d569b240efe4
        y := Fin.ofNat _ 0xd8ac222636e5e3d6d4dba9dda6c9c426f788271bab0d6840dca87d3aa6ac62d6
        onCurve := by decide +kernel }⟩
    let client (p : Option Session) : Client := .start (.remote ⟨p⟩) none
    let p : Session := ⟨a, ⟨"one"⟩⟩
    let q : Session := ⟨b, ⟨"two"⟩⟩
    let v₁ : Visit := ⟨.unlock p.address p.credential, client none,
      [⟨.custody (.unlock p.address p.credential), client none, .ok (), client none⟩],
      .ok (.account p.address), client (some p)⟩
    let v₂ : Visit := ⟨.lock, client (some p),
      [⟨.custody (.lock p.address p.credential), client none, .error .authentication,
        client none⟩], .error (.authentication p.address), client (some p)⟩
    let v₃ : Visit := ⟨.unlock q.address q.credential, client (some p),
      [⟨.custody (.unlock q.address q.credential), client (some p), .ok (), client (some p)⟩,
        ⟨.custody (.lock p.address p.credential), client (some q), .ok (), client (some q)⟩],
      .ok (.account q.address), client (some q)⟩
    v₂.after.signer = v₂.before.signer ∧
      ([v₁, v₂, v₃].flatMap Visit.exchanges).foldl after ∅ = {b} := by
  intro a b client p q v₁ v₂ v₃
  have h₁ : v₁.use.action.Course (client none) v₁.moments v₁.result (client (some p)) :=
    .await _ _ (.done _ _)
  have h₂ : v₂.use.action.Course (client (some p)) v₂.moments v₂.result (client (some p)) :=
    .await _ _ (.done _ _)
  have h₃ : v₃.use.action.Course (client (some p)) v₃.moments v₃.result (client (some q)) :=
    .await _ _ (.await _ _ (.done _ _))
  have h : History (client none) [v₁, v₂, v₃] (client (some q)) :=
    .cons h₁ (by simp [Undisturbed]) (.cons h₂ (by simp [Undisturbed])
      (.cons h₃ (by simp [Undisturbed]) (.nil _)))
  have ht : Along after Truthful ∅ ([v₁, v₂, v₃].flatMap Visit.exchanges) :=
    ⟨trivial, trivial, trivial, trivial, trivial⟩
  have hu₁ : Tidy v₁.use v₁.exchanges := fun _ _ _ => List.forall_mem_singleton.2 id
  have hu₂ : Tidy v₂.use v₂.exchanges := by rintro a c ⟨⟩
  have hu₃ : Tidy v₃.use v₃.exchanges := fun _ _ _ =>
    List.forall_mem_cons.2 ⟨id, List.forall_mem_singleton.2 id⟩
  obtain ⟨-, -, hfailed, -, hopen⟩ := session_open rfl h ht
  refine ⟨hfailed v₂ (by simp) _ rfl, (hopen rfl ?_).trans ?_⟩
  · simpa using ⟨hu₁, hu₂, hu₃⟩
  · exact (Set.ext fun _ => principal_eq_ok).trans (held_some q)

end Signing

end LedgerClient
