import LedgerClient.Proofs.Client.Allocation

namespace LedgerClient

namespace Nonces

inductive Use where
  | allocate (a : Address)
  | bind (a : Address) (n : Nonce)
  | rebind (state : AccountState)
  | rebindAndAllocate (state : AccountState)
  | forget (a : Address)
  | lastUsed (a : Address)

inductive Outcome where
  | nothing
  | nonce (n : Nonce)
  | failed (cause : NonceError)

def Outcome.ofResult : Except NonceError Nonce → Outcome
  | .ok n => nonce n
  | .error cause => failed cause

namespace Use

def address : Use → Address
  | allocate a | bind a _ | forget a | lastUsed a => a
  | rebind state | rebindAndAllocate state => state.address

def task : Use → Task Outcome
  | allocate a => Outcome.ofResult <$> (Nonces.allocate a).run
  | bind a n => (fun _ => .nothing) <$> Nonces.bind a n
  | rebind state => (fun _ => .nothing) <$> Nonces.rebind state
  | rebindAndAllocate state => Outcome.ofResult <$> (Nonces.rebindAndAllocate state).run
  | forget a => (fun _ => .nothing) <$> Nonces.forget a
  | lastUsed a => .nonce <$> Nonces.lastUsed a

end Use

structure Query where
  use : Use
  answer : Except NodeError AccountState

structure Entry where
  query : Query
  outcome : Outcome
  calls : List Call

def quiet (answer : Except NodeError AccountState) : World
  | _, .readState _, s => (answer, s)
  | _, call, s => (call.silence, s)

namespace Query

variable (q : Query)

def address : Address := q.use.address

def perform (s : Client) : Entry × Client :=
  let run := Run.play (quiet q.answer) [] (q.use.task s)
  (⟨q, run.2.1, run.1.map (·.call)⟩, run.2.2)

end Query

def log : List Query → Client → List Entry
  | [], _ => []
  | q :: qs, s => (q.perform s).1 :: log qs (q.perform s).2

def after (qs : List Query) (s : Client) : Client := qs.foldl (fun s q => (q.perform s).2) s

structure Effect where
  outcome : Outcome
  calls : List Call
  last : Option Nonce

def Effect.advance (a : Address) (base : Nonce) (calls : List Call) (last : Option Nonce) :
    Effect :=
  match base.next? with
  | none => ⟨.failed (.overflow a), calls, last⟩
  | some n => ⟨.nonce n, calls, some n⟩

def Query.effect (q : Query) (last : Option Nonce) : Effect :=
  match q.use with
  | .allocate a =>
    match last, q.answer with
    | some base, _ => .advance a base [] last
    | none, .ok state => .advance a state.nonce [.readState a] last
    | none, .error cause => ⟨.failed (.node cause), [.readState a], last⟩
  | .bind _ n => ⟨.nothing, [], some n⟩
  | .rebind state => ⟨.nothing, [], some state.nonce⟩
  | .rebindAndAllocate state => .advance state.address state.nonce [] last
  | .forget _ => ⟨.nothing, [], none⟩
  | .lastUsed _ => ⟨.nonce (last.getD 0), [], last⟩

def Shows (s : Client) (v : Address → Option Nonce) : Prop :=
  ∀ c, s.nonces.slot c = ⟨v c, false⟩

variable {s s' : Client} {v : Address → Option Nonce} {ms : List Moment} {a : Address} {k : SlotRef}
  {n : Nonce}

lemma shows_start (signer : Signer) (metrics : Option Metrics) :
    Shows (.start signer metrics) fun _ => none :=
  fun _ => rfl

namespace Shows

lemma touch (h : Shows s v) : Shows (s.mapNonces (·.touch a)) v :=
  fun c => (NonceBook.slot_touch _).trans (h c)

lemma update (h : Shows s v) (hk : s.nonces.Has k) (f : Slot → Slot) {last : Option Nonce}
    (hf : f ⟨v k.account, false⟩ = ⟨last, false⟩) :
    Shows (s.mapNonces (·.update k f)) (Function.update v k.account last) := by
  intro c
  by_cases hc : c = k.account
  · subst hc
    rw [Function.update_self, ← hf, ← h k.account]
    exact hk.slot_update
  · rw [Function.update_of_ne hc, ← h c]
    exact congrArg (·.getD {}) (NonceBook.get?_eq_of_shelf (NonceBook.shelf_update_of_ne _ hc))

lemma erase (h : Shows s v) :
    Shows (s.mapNonces (·.erase a)) (Function.update v a none) := by
  intro c
  by_cases hc : c = a
  · subst hc
    rw [Function.update_self]
    exact NonceBook.slot_erase_self _
  · rw [Function.update_of_ne hc]
    exact (NonceBook.slot_erase_of_ne _ hc).trans (h c)

lemma released (h : Shows s v) (hk : s.nonces.Has k) :
    Shows ((s.mapNonces (·.hold k)).mapNonces (·.release k)) v := by
  intro c
  by_cases hc : c = k.account
  · subst hc
    have hheld : (s.nonces.hold k).slot k.account = ⟨v k.account, true⟩ :=
      hk.slot_update.trans (by rw [h])
    have hh := hk.update (f := fun slot => { slot with held := true })
    exact hh.slot_update.trans
      (congrArg (fun slot : Slot => { slot with held := false }) hheld)
  · rw [← h c]
    have hs : ((s.nonces.hold k).release k).shelf c = s.nonces.shelf c :=
      (NonceBook.shelf_update_of_ne _ hc).trans (NonceBook.shelf_update_of_ne _ hc)
    exact congrArg (·.getD {}) (NonceBook.get?_eq_of_shelf hs)

lemma find_eq (h : Shows s v) (hk : s.nonces.Has k) : s.nonces.find k = ⟨v k.account, false⟩ :=
  hk.1.find_eq.trans (h _)

lemma course_acquire (h : Shows s v) :
    Task.Course (acquire a) s ms k s' ↔
      k = s.nonces.ref a ∧ ms = [] ∧ s' = s.mapNonces (·.touch a) := by
  rw [Nonces.course_acquire, h a]
  simp

lemma course_advance (h : Shows s v) (hk : s.nonces.Has k) {base : Nonce}
    {result : Except NonceError Nonce} (hc : (advance k base).Course s ms result s')
    (calls : List Call) :
    let effect := Effect.advance k.account base calls (v k.account)
    ms = [] ∧ .ofResult result = effect.outcome ∧
      Shows s' (Function.update v k.account effect.last) := by
  obtain ⟨rfl, ⟨hn, rfl, rfl⟩ | ⟨n, hn, rfl, rfl⟩⟩ := Nonces.course_advance.1 hc
  · simpa [Effect.advance, hn, Outcome.ofResult] using h
  · have hput : Shows (s.mapNonces (·.put k n)) (Function.update v k.account (some n)) :=
      h.update hk _ rfl
    simpa [Effect.advance, hn, Outcome.ofResult] using hput

end Shows

@[simp] lemma Effect.calls_advance (base : Nonce) (calls : List Call) (last : Option Nonce) :
    (Effect.advance a base calls last).calls = calls := by
  unfold advance
  split <;> rfl

lemma Shows.course_seed (h : Shows s v) (hk : s.nonces.Has k)
    {answer : Except NodeError AccountState} {result : Except NonceError Nonce}
    (hc : (seed k).Course s ms result s') (ha : (quiet answer).Answers [] ms) :
    result = (answer.map (·.nonce)).mapError .node ∧ ms.map (·.call) = [.readState k.account] ∧
      Shows s' v ∧ s'.nonces.Has k := by
  obtain ⟨reply, found, rfl, rfl, rfl⟩ := Nonces.course_seed.1 hc
  have hr : (reply, found) = (answer, s.mapNonces (·.hold k)) := ha.head
  obtain ⟨rfl, rfl⟩ := Prod.mk.inj hr
  exact ⟨rfl, rfl, h.released hk, hk.update.update⟩

lemma Shows.course_allocate (h : Shows s v) {answer : Except NodeError AccountState}
    {result : Except NonceError Nonce} (hc : (allocate a).Course s ms result s')
    (ha : (quiet answer).Answers [] ms) :
    let effect := (⟨.allocate a, answer⟩ : Query).effect (v a)
    .ofResult result = effect.outcome ∧ ms.map (·.call) = effect.calls ∧
      Shows s' (Function.update v a effect.last) := by
  obtain ⟨k, ms₁, s₁, ms₂, rfl, h₁, h₂⟩ := Nonces.course_allocate.1 hc
  obtain ⟨rfl, rfl, rfl⟩ := h.course_acquire.1 h₁
  have hk : (s.mapNonces (·.touch a)).nonces.Has (s.nonces.ref a) := NonceBook.has_touched
  simp only [h.touch.find_eq hk] at h₂
  rcases h₂ with ⟨base, hl, h₂⟩ | ⟨hl, h₂⟩
  · obtain ⟨rfl, ho, hs⟩ := h.touch.course_advance hk h₂ []
    simp only [Query.effect, show v a = some base from hl]
    rw [hl] at ho hs
    exact ⟨ho, by simp, hs⟩
  rw [List.nil_append] at ha ⊢
  rcases Action.course_bind.1 h₂ with ⟨e, rfl, h₃⟩ | ⟨ms₃, base, s₂, ms₄, rfl, h₃, h₄⟩
  · obtain ⟨he, hm, hs, -⟩ := h.touch.course_seed hk h₃ ha
    cases answer with
    | ok state => cases he
    | error cause =>
      cases he
      simp only [Query.effect, show v a = none from hl]
      refine ⟨rfl, hm, ?_⟩
      rwa [← show v a = none from hl, Function.update_eq_self]
  · obtain ⟨he, hm, hs, hk'⟩ := h.touch.course_seed hk h₃ ha.left
    cases answer with
    | error cause => cases he
    | ok state =>
      cases he
      obtain ⟨rfl, ho, hs'⟩ := hs.course_advance hk' h₄ [.readState a]
      simp only [Query.effect, show v a = none from hl]
      rw [hl] at ho hs'
      rw [List.append_nil]
      exact ⟨ho, hm.trans (Effect.calls_advance _ _ _).symm, hs'⟩

lemma Shows.course_bind (h : Shows s v) {u : Unit} (hc : Task.Course (bind a n) s ms u s') :
    ms = [] ∧ Shows s' (Function.update v a (some n)) := by
  obtain ⟨ms₁, _, s₁, ms₂, rfl, h₁, h₂⟩ := Task.course_bind.1 hc
  obtain ⟨rfl, rfl, rfl⟩ := h.course_acquire.1 h₁
  obtain ⟨rfl, rfl⟩ := course_modifyBook.1 h₂
  exact ⟨rfl, h.touch.update NonceBook.has_touched _ rfl⟩

lemma Shows.course_lastUsed (h : Shows s v) (hc : Task.Course (lastUsed a) s ms n s') :
    ms = [] ∧ n = (v a).getD 0 ∧ s' = s := by
  obtain ⟨ms₁, _, s₁, ms₂, rfl, h₁, h₂⟩ := Task.course_bind.1 hc
  obtain ⟨rfl, rfl, rfl⟩ := Task.course_get.1 h₁
  rw [NonceBook.ref?] at h₂
  cases hg : s₁.nonces.get? a with
  | none =>
    rw [hg] at h₂
    obtain ⟨rfl, rfl, rfl⟩ := Task.course_pure.1 h₂
    have hv := h a
    rw [NonceBook.slot, hg] at hv
    rw [show v a = none from (congrArg Slot.last hv).symm]
    exact ⟨rfl, rfl, rfl⟩
  | some slot =>
    have hk : s₁.nonces.Has (s₁.nonces.ref a) := ⟨NonceBook.current_ref, Option.isSome_of_eq_some hg⟩
    rw [hg] at h₂
    obtain ⟨ms₃, _, s₂, ms₄, rfl, h₃, h₄⟩ := Task.course_bind.1 h₂
    rcases course_awaitTurn.1 h₃ with ⟨-, rfl, rfl⟩ | ⟨hh, -⟩
    · obtain ⟨ms₅, _, s₃, ms₆, rfl, h₅, h₆⟩ := Task.course_bind.1 h₄
      obtain ⟨rfl, rfl, rfl⟩ := Task.course_get.1 h₅
      obtain ⟨rfl, rfl, rfl⟩ := Task.course_pure.1 h₆
      rw [h.find_eq hk]
      exact ⟨rfl, rfl, rfl⟩
    · rw [h.find_eq hk] at hh
      cases hh

lemma Shows.course_task (h : Shows s v) {q : Query} {outcome : Outcome}
    (hc : Task.Course q.use.task s ms outcome s') (ha : (quiet q.answer).Answers [] ms) :
    let effect := q.effect (v q.address)
    outcome = effect.outcome ∧ ms.map (·.call) = effect.calls ∧
      Shows s' (Function.update v q.address effect.last) := by
  obtain ⟨use, answer⟩ := q
  cases use with
  | allocate a =>
    obtain ⟨result, rfl, hr⟩ := Task.course_map.1 hc
    exact h.course_allocate hr ha
  | bind a n =>
    obtain ⟨_, rfl, hb⟩ := Task.course_map.1 hc
    obtain ⟨rfl, hs⟩ := h.course_bind hb
    exact ⟨rfl, rfl, hs⟩
  | rebind state =>
    obtain ⟨_, rfl, hb⟩ := Task.course_map.1 hc
    obtain ⟨rfl, hs⟩ := h.course_bind hb
    exact ⟨rfl, rfl, hs⟩
  | rebindAndAllocate state =>
    obtain ⟨result, rfl, hr⟩ := Task.course_map.1 hc
    obtain ⟨k, s₁, h₁, h₂⟩ := Nonces.course_rebindAndAllocate.1 hr
    obtain ⟨rfl, rfl, rfl⟩ := h.course_acquire.1 h₁
    obtain ⟨-, ho, hs⟩ := h.touch.course_advance NonceBook.has_touched h₂ []
    exact ⟨ho, by simp [Query.effect], hs⟩
  | forget a =>
    obtain ⟨_, rfl, hb⟩ := Task.course_map.1 hc
    obtain ⟨rfl, rfl⟩ := course_modifyBook.1 hb
    exact ⟨rfl, rfl, h.erase⟩
  | lastUsed a =>
    obtain ⟨n, rfl, hb⟩ := Task.course_map.1 hc
    obtain ⟨rfl, rfl, rfl⟩ := h.course_lastUsed hb
    refine ⟨rfl, rfl, ?_⟩
    simpa [Query.effect, Query.address, Use.address] using h

lemma Shows.perform (h : Shows s v) (q : Query) :
    (q.perform s).1 = ⟨q, (q.effect (v q.address)).outcome, (q.effect (v q.address)).calls⟩ ∧
      Shows (q.perform s).2 (Function.update v q.address (q.effect (v q.address)).last) := by
  obtain ⟨ho, hm, hs⟩ := h.course_task (Run.play_course (quiet q.answer) [] (q.use.task s))
    (Run.play_answers _ _ _)
  exact ⟨by rw [Query.perform, ho, hm], hs⟩

structure Epoch where
  base : Nonce
  given : List Nonce

namespace Epoch

def next (epoch : Option Epoch) (e : Entry) : Option Epoch :=
  match e.query.use, e.outcome with
  | .bind _ n, _ => some ⟨n, []⟩
  | .rebind state, _ => some ⟨state.nonce, []⟩
  | .rebindAndAllocate state, .nonce n => some ⟨state.nonce, [n]⟩
  | .allocate _, .nonce n =>
    match epoch, e.query.answer with
    | some epoch, _ => some ⟨epoch.base, epoch.given ++ [n]⟩
    | none, .ok state => some ⟨state.nonce, [n]⟩
    | none, .error _ => none
  | .forget _, _ => none
  | _, _ => epoch

def ofLog (a : Address) (entries : List Entry) : Option Epoch :=
  (entries.filter (·.query.address = a)).foldl next none

def Consecutive (epoch : Epoch) : Prop :=
  epoch.given.map (·.toNat) = List.range' (epoch.base.toNat + 1) epoch.given.length

def Counts (last : Option Nonce) : Option Epoch → Prop
  | none => last = none
  | some epoch => epoch.Consecutive ∧
      ∃ n, last = some n ∧ n.toNat = epoch.base.toNat + epoch.given.length

lemma counts_none : Counts none none := rfl

lemma counts_bound (n : Nonce) : Counts (some n) (some ⟨n, []⟩) := ⟨rfl, n, rfl, rfl⟩

lemma counts_first {base n : Nonce} (h : base.next? = some n) :
    Counts (some n) (some ⟨base, [n]⟩) := by
  have hn := (eq_of_next? h).2
  exact ⟨by simp [Consecutive, hn], n, rfl, hn⟩

lemma counts_further {epoch : Epoch} {last n : Nonce} (hc : Counts (some last) (some epoch))
    (h : last.next? = some n) : Counts (some n) (some ⟨epoch.base, epoch.given ++ [n]⟩) := by
  obtain ⟨hg, l, hl, he⟩ := hc
  obtain rfl := Option.some.inj hl
  have hn := (eq_of_next? h).2
  refine ⟨?_, n, rfl, by simp [hn, he]; omega⟩
  have hg' : epoch.given.map (·.toNat) = _ := hg
  simp only [Consecutive, List.map_append, hg', List.length_append, List.length_singleton,
    List.range'_concat]
  simp [hn, he]
  omega

lemma Counts.effect {last : Option Nonce} {epoch : Option Epoch} (hc : Counts last epoch)
    (q : Query) :
    Counts (q.effect last).last
      (next epoch ⟨q, (q.effect last).outcome, (q.effect last).calls⟩) := by
  obtain ⟨use, answer⟩ := q
  cases use with
  | allocate a =>
    cases last with
    | some base =>
      cases epoch with
      | none => cases hc
      | some epoch =>
        cases hn : base.next? with
        | none => simpa [Query.effect, Effect.advance, hn, next] using hc
        | some n => simpa [Query.effect, Effect.advance, hn, next] using counts_further hc hn
    | none =>
      cases epoch with
      | some epoch =>
        obtain ⟨-, n, hn, -⟩ := hc
        cases hn
      | none =>
        cases answer with
        | error cause => rfl
        | ok state =>
          cases hn : state.nonce.next? with
          | none => simp [Query.effect, Effect.advance, hn, next, Counts]
          | some n => simpa [Query.effect, Effect.advance, hn, next] using counts_first hn
  | bind a n => exact counts_bound n
  | rebind state => exact counts_bound state.nonce
  | rebindAndAllocate state =>
    cases hn : state.nonce.next? with
    | none => simpa [Query.effect, Effect.advance, hn, next] using hc
    | some n => simpa [Query.effect, Effect.advance, hn, next] using counts_first hn
  | forget a => rfl
  | lastUsed a => exact hc

end Epoch

namespace Shows

lemma filter_log (h : Shows s v) {v' : Address → Option Nonce} (h' : Shows s' v') (hv : v a = v' a)
    (qs : List Query) :
    (log qs s).filter (·.query.address = a) = log (qs.filter (·.address = a)) s' := by
  -- The clients agree about this account alone, and queries about others keep it that way.
  induction qs generalizing s s' v v' with
  | nil => rfl
  | cons q qs ih =>
    obtain ⟨he, hs⟩ := h.perform q
    by_cases hq : q.address = a
    · obtain ⟨he', hs'⟩ := h'.perform q
      subst hq
      rw [log, List.filter_cons_of_pos (by simp [he]), List.filter_cons_of_pos (by simp), log, he,
        he', hv]
      exact congrArg _ (ih hs hs' (by simp [hv]))
    · rw [log, List.filter_cons_of_neg (by simpa [he] using hq),
        List.filter_cons_of_neg (by simpa using hq)]
      exact ih hs h' (by rwa [Function.update_of_ne (Ne.symm hq)])

lemma log_eq (h : Shows s v) (h' : Shows s' v) (qs : List Query) : log qs s = log qs s' := by
  induction qs generalizing s s' v with
  | nil => rfl
  | cons q qs ih =>
    obtain ⟨he, hs⟩ := h.perform q
    obtain ⟨he', hs'⟩ := h'.perform q
    rw [log, log, he, he', ih hs hs']

lemma counts (h : Shows s v) {epoch : Option Epoch} (hc : Epoch.Counts (v a) epoch)
    (qs : List Query) :
    ∃ v', Shows (Nonces.after qs s) v' ∧ Epoch.Counts (v' a)
      (((log qs s).filter (·.query.address = a)).foldl Epoch.next epoch) := by
  induction qs generalizing s v epoch with
  | nil => exact ⟨v, h, hc⟩
  | cons q qs ih =>
    obtain ⟨he, hs⟩ := h.perform q
    by_cases hq : q.address = a
    · subst hq
      rw [log, List.filter_cons_of_pos (by simp [he]), List.foldl_cons, he]
      exact ih hs (by simpa using hc.effect q)
    · rw [log, List.filter_cons_of_neg (by simpa [he] using hq)]
      exact ih hs (by rwa [Function.update_of_ne (Ne.symm hq)])

end Shows

lemma Effect.last_of_failed {base : Nonce} {called : List Call} {last : Option Nonce}
    {cause : NonceError} (h : (advance a base called last).outcome = .failed cause) :
    (advance a base called last).last = last := by
  cases hn : base.next? with
  | none => simp [advance, hn]
  | some n => simp [advance, hn] at h

lemma Query.last_of_failed {q : Query} {last : Option Nonce} {cause : NonceError}
    (h : (q.effect last).outcome = .failed cause) : (q.effect last).last = last := by
  obtain ⟨use, answer⟩ := q
  cases use with
  | allocate a =>
    cases last with
    | some base => exact Effect.last_of_failed h
    | none =>
      cases answer with
      | error cause => rfl
      | ok state => exact Effect.last_of_failed h
  | bind a n => cases h
  | rebind state => cases h
  | rebindAndAllocate state => exact Effect.last_of_failed h
  | forget a => cases h
  | lastUsed a => rfl

def Query.reads (q : Query) (epoch : Option Epoch) : List Call :=
  match q.use, epoch with
  | .allocate a, none => [.readState a]
  | _, _ => []

lemma Query.calls_effect {q : Query} {last : Option Nonce} {epoch : Option Epoch}
    (hc : Epoch.Counts last epoch) : (q.effect last).calls = q.reads epoch := by
  obtain ⟨use, answer⟩ := q
  cases use with
  | allocate a =>
    cases epoch with
    | none =>
      obtain rfl : last = none := hc
      cases answer with
      | error cause => rfl
      | ok state => exact Effect.calls_advance _ _ _
    | some epoch =>
      obtain ⟨-, n, rfl, -⟩ := hc
      exact Effect.calls_advance _ _ _
  | rebindAndAllocate state => exact Effect.calls_advance _ _ _
  | _ => rfl

inductive Follows (a : Address) (base : ℕ) : Outcome → Prop
  | next {n : Nonce} (succ : n.toNat = base + 1) : Follows a base (.nonce n)
  | exhausted (last : base + 1 = UInt64.size) : Follows a base (.failed (.overflow a))

def Epoch.last (epoch : Epoch) : ℕ := epoch.base.toNat + epoch.given.length

inductive Query.Gives : Query → Option Epoch → Outcome → Prop
  | counted {a : Address} {answer : Except NodeError AccountState} {epoch : Epoch} {o : Outcome}
      (h : Follows a epoch.last o) : Gives ⟨.allocate a, answer⟩ (some epoch) o
  | seeded {a : Address} {state : AccountState} {o : Outcome} (h : Follows a state.nonce.toNat o) :
      Gives ⟨.allocate a, .ok state⟩ none o
  | unread {a : Address} {cause : NodeError} :
      Gives ⟨.allocate a, .error cause⟩ none (.failed (.node cause))
  | rebound {state : AccountState} {answer : Except NodeError AccountState} {epoch : Option Epoch}
      {o : Outcome} (h : Follows state.address state.nonce.toNat o) :
      Gives ⟨.rebindAndAllocate state, answer⟩ epoch o
  | used {a : Address} {answer : Except NodeError AccountState} {epoch : Option Epoch} {n : Nonce}
      (h : n.toNat = epoch.elim 0 (·.last)) : Gives ⟨.lastUsed a, answer⟩ epoch (.nonce n)
  | bind {a : Address} {n : Nonce} {answer : Except NodeError AccountState} {epoch : Option Epoch} :
      Gives ⟨.bind a n, answer⟩ epoch .nothing
  | rebind {state : AccountState} {answer : Except NodeError AccountState} {epoch : Option Epoch} :
      Gives ⟨.rebind state, answer⟩ epoch .nothing
  | forget {a : Address} {answer : Except NodeError AccountState} {epoch : Option Epoch} :
      Gives ⟨.forget a, answer⟩ epoch .nothing

lemma follows_advance (base : Nonce) (called : List Call) (last : Option Nonce) :
    Follows a base.toNat (Effect.advance a base called last).outcome := by
  cases hn : base.next? with
  | none =>
    have hlt : base.toNat < UInt64.size := base.toNat_lt_size
    have hge : ¬ base.toNat + 1 < UInt64.size := fun h => by simp [Nonce.next?, h] at hn
    simpa [Effect.advance, hn] using Follows.exhausted (by omega)
  | some n => simpa [Effect.advance, hn] using Follows.next (eq_of_next? hn).2

lemma Query.gives_effect {q : Query} {last : Option Nonce} {epoch : Option Epoch}
    (hc : Epoch.Counts last epoch) : q.Gives epoch (q.effect last).outcome := by
  obtain ⟨use, answer⟩ := q
  cases use with
  | allocate a =>
    cases epoch with
    | none =>
      obtain rfl : last = none := hc
      cases answer with
      | error cause => exact .unread
      | ok state => exact .seeded (follows_advance _ _ _)
    | some epoch =>
      obtain ⟨-, n, rfl, hn⟩ := hc
      refine .counted ?_
      rw [Epoch.last, ← hn]
      exact follows_advance n _ _
  | bind a n => exact .bind
  | rebind state => exact .rebind
  | rebindAndAllocate state => exact .rebound (follows_advance _ _ _)
  | forget a => exact .forget
  | lastUsed a =>
    refine .used ?_
    cases epoch with
    | none =>
      obtain rfl : last = none := hc
      rfl
    | some epoch =>
      obtain ⟨-, n, rfl, hn⟩ := hc
      exact hn

/-- Whatever is asked of the nonces and whatever the node answers: an account is answered as if it
were the only one, its nonces follow each other and fail only when there is none left or the node
does not tell the first of them, the node is read for that one alone, and what fails leaves no
trace. -/
theorem nonce_history (signer : Signer) (metrics : Option Metrics) (qs : List Query) (a : Address) :
    let s : Client := .start signer metrics
    (log qs s).filter (·.query.address = a) = log (qs.filter (·.address = a)) s ∧
      Epoch.Counts ((after qs s).nonces.slot a).last (Epoch.ofLog a (log qs s)) ∧
      ∀ q : Query,
        q.Gives (Epoch.ofLog q.address (log qs s)) (q.perform (after qs s)).1.outcome ∧
        (q.perform (after qs s)).1.calls = q.reads (Epoch.ofLog q.address (log qs s)) ∧
        ∀ cause, (q.perform (after qs s)).1.outcome = .failed cause →
          (∀ c, (after (qs ++ [q]) s).nonces.lastUsed c = (after qs s).nonces.lastUsed c) ∧
            ∀ qs', log qs' (after (qs ++ [q]) s) = log qs' (after qs s) := by
  intro s
  have hs : Shows s fun _ => none := shows_start signer metrics
  refine ⟨hs.filter_log hs rfl qs, ?_, ?_⟩
  · obtain ⟨v, hv, hc⟩ := hs.counts (a := a) Epoch.counts_none qs
    rwa [hv a]
  intro q
  obtain ⟨v, hv, hc⟩ := hs.counts (a := q.address) Epoch.counts_none qs
  obtain ⟨he, hq⟩ := hv.perform q
  rw [he]
  refine ⟨Query.gives_effect hc, Query.calls_effect hc, ?_⟩
  intro cause hf
  rw [Query.last_of_failed hf, Function.update_eq_self] at hq
  have ha : after (qs ++ [q]) s = (q.perform (after qs s)).2 := by simp [after]
  rw [ha]
  refine ⟨?_, fun qs' => hq.log_eq hv qs'⟩
  intro c
  simp only [NonceBook.lastUsed, hq c, hv c]

theorem nonce_history_exhausted :
    let s : Client := .start (.remote ⟨none⟩) none
    let a : Address := ⟨Curve.Point.base⟩
    let offline : Except NodeError AccountState := .error (.connection "refused")
    let qs : List Query := [⟨.allocate a, offline⟩, ⟨.bind a 18446744073709551613, offline⟩,
      ⟨.allocate a, offline⟩, ⟨.rebindAndAllocate ⟨a, 18446744073709551614, 0⟩, offline⟩]
    let q : Query := ⟨.allocate a, offline⟩
    (log qs s).map (·.outcome) = [.failed (.node (.connection "refused")), .nothing,
        .nonce 18446744073709551614, .nonce 18446744073709551615] ∧
      (q.perform (after qs s)).1.outcome = .failed (.overflow a) ∧
      ∀ qs', log qs' (after (qs ++ [q]) s) = log qs' (after qs s) :=
  ⟨rfl, rfl, (((nonce_history (.remote ⟨none⟩) none _ ⟨Curve.Point.base⟩).2.2 _).2.2 _ rfl).2⟩

end Nonces

end LedgerClient
