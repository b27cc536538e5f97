import LedgerClient.Proofs.Client.Hand

/-! Pools whose tasks all deal with the entry of one account. At any time at most one of them holds
the slot, and while it does the entry stays as it is. -/

namespace LedgerClient

open Hand

section Update

variable {ι β : Type} [DecidableEq ι] {f : ι → β} {i j : ι} {x y : β}

lemma of_update (h : Function.update f i x j = y) : j = i ∧ x = y ∨ j ≠ i ∧ f j = y := by
  by_cases hji : j = i
  · rw [hji, Function.update_self] at h
    exact .inl ⟨hji, h⟩
  · rw [Function.update_of_ne hji] at h
    exact .inr ⟨hji, h⟩

lemma single_update (hf : ∀ j k, f j = y → f k = y → j = k) (hx : ∀ j, j ≠ i → f j = y → x ≠ y)
    (j k : ι) (hj : Function.update f i x j = y) (hk : Function.update f i x k = y) : j = k := by
  rcases of_update hj with ⟨hji, hj⟩ | ⟨hji, hj⟩ <;> rcases of_update hk with ⟨hki, hk⟩ | ⟨hki, hk⟩
  · rw [hji, hki]
  · exact absurd hj (hx k hki hk)
  · exact absurd hk (hx j hji hj)
  · exact hf j k hj hk

end Update

structure Terms (ι α : Type) where
  slot : SlotRef
  job : ι → Task α
  fits : Client → Prop
  first : ι → Hand
  asks : ι → Hand → Call → Prop
  post : ι → Hand → α → Option Slot → Prop
  deals (i : ι) (s : Client) : fits s → (job i).Deals slot (asks i) (post i) (first i) s
  first_eq (i : ι) : first i = .eager ∨ first i = .apart
  settled (i : ι) (n? : Option Nonce) (call : Call) : ¬ asks i (.told n?) call

namespace Hand

variable {h h' : Hand} {e e' : Option Slot}

lemma after_ne_told {call : Call} {reply : call.Reply} (hh : h ≠ .holding)
    (ht : ∀ n?, h ≠ .told n?) (n? : Option Nonce) : h.after call reply ≠ .told n? := by
  cases h with
  | holding => exact absurd rfl hh
  | told n? => exact absurd rfl (ht n?)
  | sent =>
    cases call with
    | readState b => cases reply <;> simp [after]
    | _ => simp [after]
  | _ => cases call <;> simp [after]

lemma after_eq_holding {call : Call} {reply : call.Reply} (hh : h.after call reply = .holding) :
    h = .holding := by
  cases h with
  | holding => rfl
  | sent =>
    cases call with
    | readState b => cases reply <;> simp [after] at hh
    | _ => simp [after] at hh
  | _ => cases call <;> simp [after] at hh

lemma last_leave (h : Hand) (e : Option Slot) :
    ((h.leave e).getD {}).last = (e.getD {}).last := by
  cases h with
  | holding => cases e <;> rfl
  | _ => rfl

namespace Stretch

lemma of_held (hs : Stretch h (some ⟨none, true⟩) h' e') (ht : ∀ n?, h ≠ .told n?) :
    h' = h ∧ e' = some ⟨none, true⟩ := by
  cases hs with
  | still => exact ⟨rfl, rfl⟩
  | hold he => cases he
  | release n? => exact absurd rfl (ht n?)
  | seed hn => exact absurd rfl (ht _)
  | rebind hn he => cases he

lemma to_holding (hs : Stretch h e h' e') (hh : h' = .holding) :
    h = .holding ∨ e.getD {} = {} ∧ e' = some ⟨none, true⟩ := by
  cases hs with
  | still => exact .inl hh
  | touch => exact .inl hh
  | hold he => exact .inr ⟨he, rfl⟩
  | release n? => cases n? <;> cases hh
  | _ => cases hh

lemma to_eager (hs : Stretch h e h' e') (hh : h' = .eager) :
    h = .eager ∧ (e'.getD {}).held = (e.getD {}).held := by
  cases hs with
  | still => exact ⟨hh, rfl⟩
  | touch => exact ⟨hh, rfl⟩
  | release n? => cases n? <;> cases hh
  | _ => cases hh

lemma of_eager_held (hs : Stretch .eager e h' e') (he : (e.getD {}).held = true) :
    h' = .eager ∧ e' = e := by
  cases hs with
  | still => exact ⟨rfl, rfl⟩
  | hold hempty =>
    rw [hempty] at he
    cases he
  | _ => cases he

lemma of_apart (hs : Stretch .apart e h' e') :
    h' = .apart ∧ (e'.getD {}).last = (e.getD {}).last := by
  cases hs with
  | still => exact ⟨rfl, rfl⟩
  | touch => exact ⟨rfl, rfl⟩

lemma isSome (hs : Stretch h e h' e') (he : e.isSome) : e'.isSome := by
  cases hs with
  | still => exact he
  | _ => rfl

end Stretch

end Hand

namespace Pool

variable {ι α : Type} (T : Terms ι α)

def entry (p : Pool ι α) : Option Slot := p.nonces.get? T.slot.account

def Backs (i : ι) (h : Hand) : Standing α → Prop
  | .ready => h = T.first i
  | .started (.done x _) => ∃ e, T.post i h x e
  | .started (.await call _ abandon resume) =>
    T.asks i h call ∧
      (∀ c, c.nonces.Current T.slot → (abandon c).nonces.Current T.slot ∧
        (abandon c).nonces.get? T.slot.account = h.leave (c.nonces.get? T.slot.account)) ∧
      ∀ reply c, c.nonces.Current T.slot →
        Relies T.slot h call reply (c.nonces.get? T.slot.account) →
        (resume reply c).Deals T.slot (T.asks i) (T.post i) (h.after call reply)
          (c.nonces.get? T.slot.account)
  | .dropped => h = .apart

structure Orderly (hand : ι → Hand) (p : Pool ι α) : Prop where
  current : p.nonces.Current T.slot
  backs (i : ι) : Backs T i (hand i) (p.standing i)
  held (i : ι) : hand i = .holding → p.entry T = some ⟨none, true⟩
  single (i j : ι) : hand i = .holding → hand j = .holding → i = j
  known (i : ι) : p.waits? i = some (.turn T.slot) → (p.entry T).isSome

def Stuck (p : Pool ι α) (i : ι) : Prop :=
  p.standing i ≠ .ready ∧ ∀ call, p.waits? i = some call → p.nonces.blocks call = true

inductive Goes (hand : ι → Hand) (p : Pool ι α) (i : ι) (replies : Replies) : Hand → Prop
  | begins (ready : p.standing i = .ready) : Goes hand p i replies (hand i)
  | resumes {call : Call} (waiting : p.waits? i = some call) (free : p.nonces.blocks call = false)
      (asked : T.asks i (hand i) call) : Goes hand p i replies ((hand i).after call (replies call))

variable {T} {hand : ι → Hand} {p : Pool ι α} {i j : ι} {r : Run α} {b : NonceBook}

lemma Goes.holding {h : Hand} {replies : Replies} (hg : Goes T hand p i replies h)
    (hh : h = .holding) : hand i = .holding := by
  cases hg with
  | begins ready => exact hh
  | resumes waiting free asked => exact after_eq_holding hh

lemma waits?_put_self [DecidableEq ι] : (p.put i r).waits? i = r.call? := by
  cases r <;> simp [waits?, put, Run.call?]

lemma waits?_put_of_ne [DecidableEq ι] (h : j ≠ i) : (p.put i r).waits? j = p.waits? j := by
  simp [waits?, put, Function.update_of_ne h]

lemma standing_of_waits? {call : Call} (h : p.waits? i = some call) :
    ∃ left abandon resume, p.standing i = .started (.await call left abandon resume) := by
  unfold waits? at h
  split at h
  · rename_i hs
    cases h
    exact ⟨_, _, _, hs⟩
  · cases h

lemma orderly_start (hb : b.Current T.slot) : Orderly T T.first (start b : Pool ι α) := by
  have hf (i : ι) : T.first i ≠ .holding := by
    rcases T.first_eq i with h | h <;> simp [h]
  exact ⟨hb, fun i => rfl, fun i h => absurd h (hf i), fun i _ h => absurd h (hf i),
    fun i h => by cases h⟩

lemma backs_of_deals [DecidableEq ι] (p : Pool ι α) {h : Hand}
    (hr : r.Deals T.slot (T.asks i) (T.post i) h (p.entry T)) :
    ∃ h', (p.put i r).nonces.Current T.slot ∧
      Stretch h (p.entry T) h' ((p.put i r).entry T) ∧ Backs T i h' (.started r) ∧
      (r.call? = some (.turn T.slot) → ∃ last, (p.put i r).entry T = some ⟨last, true⟩) := by
  cases hr with
  | done keeps stretch ends => exact ⟨_, keeps, stretch, ⟨_, ends⟩, fun hc => by cases hc⟩
  | await keeps stretch asked shut leaves onward =>
    exact ⟨_, keeps, stretch, ⟨asked, leaves, onward⟩, fun hc => shut (Option.some.inj hc)⟩

namespace Orderly

lemma backs_waiting (hp : Orderly T hand p) {call : Call} (h : p.waits? i = some call) :
    T.asks i (hand i) call := by
  obtain ⟨left, abandon, resume, hs⟩ := standing_of_waits? h
  have hb := hp.backs i
  rw [hs] at hb
  exact hb.1

lemma ne_told (hp : Orderly T hand p) {h : Hand} {replies : Replies}
    (hg : Goes T hand p i replies h) (hh : hand i ≠ .holding) (n? : Option Nonce) :
    h ≠ .told n? := by
  cases hg with
  | begins ready =>
    have hb := hp.backs i
    rw [ready] at hb
    rw [show hand i = T.first i from hb]
    rcases T.first_eq i with hf | hf <;> simp [hf]
  | resumes waiting free asked =>
    refine after_ne_told hh (fun n? ht => ?_) n?
    rw [ht] at asked
    exact T.settled i n? _ asked

lemma shut_out (hp : Orderly T hand p) {h h' : Hand} {e' : Option Slot} {replies : Replies}
    (hg : Goes T hand p i replies h) (hs : Stretch h (p.entry T) h' e') (hj : hand j = .holding)
    (hji : j ≠ i) : h' ≠ .holding ∧ e' = some ⟨none, true⟩ := by
  have hi : hand i ≠ .holding := fun hi => hji (hp.single j i hj hi)
  rw [hp.held j hj] at hs
  obtain ⟨rfl, he⟩ := hs.of_held (hp.ne_told hg hi)
  exact ⟨fun hh => hi (hg.holding hh), he⟩

lemma admitted (hp : Orderly T hand p) {call : Call} (hw : p.waits? i = some call)
    (hfree : p.nonces.blocks call = false) (hc : call = .turn T.slot) :
    ∃ last, p.entry T = some ⟨last, false⟩ := by
  rw [hc] at hw hfree
  obtain ⟨slot, he⟩ := Option.isSome_iff_exists.1 (hp.known i hw)
  have hheld : slot.held = false := by
    rwa [NonceBook.blocks, hp.current.find_eq, NonceBook.slot_of_get? he] at hfree
  exact ⟨slot.last, he.trans (by rw [← hheld])⟩

variable [DecidableEq ι]

lemma backs_update (hp : Orderly T hand p) {h : Hand} {x : Standing α} (hx : Backs T i h x) (j : ι) :
    Backs T j (Function.update hand i h j) (Function.update p.standing i x j) := by
  by_cases hj : j = i
  · subst hj
    simpa using hx
  · simpa [Function.update_of_ne hj] using hp.backs j

lemma put (hp : Orderly T hand p) {h : Hand} {replies : Replies} (hg : Goes T hand p i replies h)
    (hr : r.Deals T.slot (T.asks i) (T.post i) h (p.entry T)) :
    ∃ h', Orderly T (Function.update hand i h') (p.put i r) ∧
      Stretch h (p.entry T) h' ((p.put i r).entry T) ∧
      (r.call? = some (.turn T.slot) → ∃ last, (p.put i r).entry T = some ⟨last, true⟩) := by
  obtain ⟨h', hk, hs, hb, ht⟩ := backs_of_deals p hr
  refine ⟨h', ⟨hk, hp.backs_update hb, ?_, ?_, ?_⟩, hs, ht⟩
  · -- Another task that holds the slot has shut this one out.
    intro j hj
    rcases of_update hj with ⟨-, hj⟩ | ⟨hji, hj⟩
    · rcases hs.to_holding hj with hh | ⟨-, he⟩
      · rw [hp.held _ (hg.holding hh)] at hs
        exact (hs.of_held (by simp [hh])).2
      · exact he
    · exact (hp.shut_out hg hs hj hji).2
  · exact single_update hp.single fun j hji hj => (hp.shut_out hg hs hj hji).1
  · intro j hj
    by_cases hji : j = i
    · subst hji
      rw [waits?_put_self] at hj
      obtain ⟨last, he⟩ := ht hj
      rw [he]
      rfl
    · rw [waits?_put_of_ne hji] at hj
      exact hs.isSome (hp.known j hj)

lemma go (hp : Orderly T hand p) (rest : Client) {replies : Replies}
    (hfit : p.standing i = .ready → T.fits (p.found rest))
    (hhonest : ∀ call, p.waits? i = some call → hand i = .sent → call.Honest (replies call)) :
    p.Stuck i ∧ p.step T.job (.go i rest replies) = p ∨
      ∃ h h' r, p.step T.job (.go i rest replies) = p.put i r ∧ Goes T hand p i replies h ∧
        Orderly T (Function.update hand i h') (p.put i r) ∧
        Stretch h (p.entry T) h' ((p.put i r).entry T) ∧
        (r.call? = some (.turn T.slot) → ∃ last, (p.put i r).entry T = some ⟨last, true⟩) := by
  have hb := hp.backs i
  cases hs : p.standing i with
  | ready =>
    have hg : Goes T hand p i replies (hand i) := .begins hs
    rw [hs] at hb
    have hr : (T.job i (p.found rest)).Deals T.slot (T.asks i) (T.post i) (hand i) (p.entry T) := by
      rw [show hand i = T.first i from hb]
      exact T.deals i _ (hfit hs) hp.current
    obtain ⟨h', ho, hst, ht⟩ := hp.put hg hr
    exact .inr ⟨_, h', _, by simp [step, hs], hg, ho, hst, ht⟩
  | dropped => exact .inl ⟨by simp [Stuck, waits?, hs], by simp [step, hs]⟩
  | started run =>
    cases run with
    | done x s => exact .inl ⟨by simp [Stuck, waits?, hs], by simp [step, hs]⟩
    | await call left abandon resume =>
      have hw : p.waits? i = some call := by simp [waits?, hs]
      cases hfree : p.nonces.blocks call with
      | true => exact .inl ⟨by simp [Stuck, waits?, hs, hfree], by simp [step, hs, hfree]⟩
      | false =>
        rw [hs] at hb
        obtain ⟨asked, -, onward⟩ := hb
        have hg : Goes T hand p i replies ((hand i).after call (replies call)) :=
          .resumes hw hfree asked
        have hr := onward (replies call) (p.found rest) hp.current
          ⟨hp.admitted hw hfree, hp.held i, hhonest call hw⟩
        obtain ⟨h', ho, hst, ht⟩ := hp.put hg hr
        exact .inr ⟨_, h', _, by simp [step, hs, hfree], hg, ho, hst, ht⟩

lemma quit (hp : Orderly T hand p) (hk : b.Current T.slot)
    (hb : b.get? T.slot.account = (hand i).leave (p.entry T)) :
    Orderly T (Function.update hand i .apart) (p.quit i b) := by
  have he : (p.quit i b).entry T = (hand i).leave (p.entry T) := hb
  have hkeep (hi : hand i ≠ .holding) : (p.quit i b).entry T = p.entry T := by
    rw [he]
    cases hh : hand i with
    | holding => exact absurd hh hi
    | _ => rfl
  refine ⟨hk, hp.backs_update rfl, ?_, ?_, ?_⟩
  · intro j hj
    rcases of_update hj with ⟨-, hj⟩ | ⟨hji, hj⟩
    · cases hj
    · rw [hkeep fun hi => hji (hp.single j i hj hi)]
      exact hp.held j hj
  · exact single_update hp.single fun _ _ _ h => by cases h
  · intro j hj
    have hji : j ≠ i := by
      rintro rfl
      simp [waits?, Pool.quit] at hj
    have hw : p.waits? j = some (.turn T.slot) := by
      simpa [waits?, Pool.quit, Function.update_of_ne hji] using hj
    have hs := hp.known j hw
    rw [he]
    cases hand i with
    | holding => simpa [leave] using hs
    | _ => exact hs

lemma drop (hp : Orderly T hand p) (rest : Client) :
    p.step T.job (.drop i rest) = p ∨
      ∃ b, p.step T.job (.drop i rest) = p.quit i b ∧
        (hand i = T.first i ∨ ∃ call, T.asks i (hand i) call) ∧
        Orderly T (Function.update hand i .apart) (p.quit i b) ∧
        (p.quit i b).entry T = (hand i).leave (p.entry T) := by
  have hb := hp.backs i
  cases hs : p.standing i with
  | ready =>
    have hf : hand i = T.first i := by rwa [hs] at hb
    have he : p.nonces.get? T.slot.account = (hand i).leave (p.entry T) := by
      rw [hf]
      rcases T.first_eq i with hf | hf <;> rw [hf] <;> rfl
    exact .inr ⟨_, by simp [step, hs], .inl hf, hp.quit hp.current he, he⟩
  | dropped => exact .inl (by simp [step, hs])
  | started run =>
    cases run with
    | done x s => exact .inl (by simp [step, hs])
    | await call left abandon resume =>
      rw [hs] at hb
      obtain ⟨hk, he⟩ := hb.2.1 (p.found rest) hp.current
      exact .inr ⟨_, by simp [step, hs], .inr ⟨call, hb.1⟩, hp.quit hk he, he⟩

end Orderly

end Pool

end LedgerClient
