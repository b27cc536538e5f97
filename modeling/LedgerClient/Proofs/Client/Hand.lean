import LedgerClient.Proofs.Client.Allocation
import LedgerClient.Proofs.Client.Pool

/-! What tasks do with the entry of one account while others do the same. A task deals with the
entry if each of its stretches, from a wait to the next, changes the entry in one of a few ways. -/

namespace LedgerClient

inductive Hand where
  | apart
  | eager
  | holding
  | told (n? : Option Nonce)
  | informed (n : Nonce)
  | owning (n : Nonce)
  | sent

def Call.Honest : (call : Call) → call.Reply → Prop
  | .readState a, .ok state => state.address = a
  | _, _ => True

namespace Hand

def after : Hand → (call : Call) → call.Reply → Hand
  | holding, .readState _, reply => told (reply.toOption.map (·.nonce))
  | sent, .readState _, .ok state => informed state.nonce
  | sent, .readState _, .error _ => apart
  | owning _, .submit _, _ => sent
  | h, _, _ => h

def leave : Hand → Option Slot → Option Slot
  | holding, e => e.map fun slot => { slot with held := false }
  | _, e => e

inductive Stretch : Hand → Option Slot → Hand → Option Slot → Prop
  | still (h : Hand) (e : Option Slot) : Stretch h e h e
  | touch (h : Hand) : Stretch h none h (some {})
  | next {l n : Nonce} (hn : l.next? = some n) :
      Stretch eager (some ⟨some l, false⟩) (owning n) (some ⟨some n, false⟩)
  | hold {e : Option Slot} (he : e.getD {} = {}) : Stretch eager e holding (some ⟨none, true⟩)
  | release (n? : Option Nonce) :
      Stretch (told n?) (some ⟨none, true⟩) (n?.elim apart informed) (some {})
  | seed {k n : Nonce} (hn : k.next? = some n) :
      Stretch (told (some k)) (some ⟨none, true⟩) (owning n) (some ⟨some n, false⟩)
  | rebind {k n : Nonce} {e : Option Slot} (hn : k.next? = some n) (he : (e.getD {}).held = false) :
      Stretch (informed k) e (owning n) (some ⟨some n, false⟩)

variable {h h' h'' : Hand} {e e' e'' : Option Slot}

lemma Stretch.trans (hs : Stretch h e h' e') (hs' : Stretch h' e' h'' e'') :
    Stretch h e h'' e'' := by
  cases hs with
  | still => exact hs'
  | touch =>
    cases hs' with
    | still => exact .touch _
    | hold he => exact .hold rfl
    | rebind hn he => exact .rebind hn rfl
  | next hn => cases hs'; exact .next hn
  | hold he => cases hs'; exact .hold he
  | release n? =>
    cases n? with
    | none => cases hs'; exact .release none
    | some k =>
      cases hs' with
      | still => exact .release (some k)
      | rebind hn he => exact .seed hn
  | seed hn => cases hs'; exact .seed hn
  | rebind hn he => cases hs'; exact .rebind hn he

structure Relies (k : SlotRef) (h : Hand) (call : Call) (reply : call.Reply) (e : Option Slot) :
    Prop where
  admitted : call = .turn k → ∃ last, e = some ⟨last, false⟩
  kept : h = holding → e = some ⟨none, true⟩
  honest : h = sent → call.Honest reply

end Hand

open Hand

/-- A run that deals with the entry of an account as its hand allows and ends as told by `post`.
The account keeps its slot `k` all the while. -/
inductive Run.Deals (k : SlotRef) (asks : Hand → Call → Prop) {α : Type}
    (post : Hand → α → Option Slot → Prop) : Hand → Option Slot → Run α → Prop
  | done {h h' : Hand} {e : Option Slot} {x : α} {s : Client} (keeps : s.nonces.Current k)
      (stretch : Stretch h e h' (s.nonces.get? k.account))
      (ends : post h' x (s.nonces.get? k.account)) :
      Deals k asks post h e (.done x s)
  | await {h h' : Hand} {e : Option Slot} {call : Call} {left : Client}
      {abandon : Client → Client} {resume : call.Reply → Client → Run α}
      (keeps : left.nonces.Current k) (stretch : Stretch h e h' (left.nonces.get? k.account))
      (asked : asks h' call)
      (shut : call = .turn k → ∃ last, left.nonces.get? k.account = some ⟨last, true⟩)
      (leaves : ∀ c, c.nonces.Current k → (abandon c).nonces.Current k ∧
        (abandon c).nonces.get? k.account = h'.leave (c.nonces.get? k.account))
      (onward : ∀ reply c, c.nonces.Current k →
        Relies k h' call reply (c.nonces.get? k.account) →
        Deals k asks post (h'.after call reply) (c.nonces.get? k.account) (resume reply c)) :
      Deals k asks post h e (.await call left abandon resume)

namespace Run.Deals

variable {k : SlotRef} {asks : Hand → Call → Prop} {α β : Type} {h : Hand} {e : Option Slot}

lemma prepend {post : Hand → α → Option Slot → Prop} {r : Run α} {h' : Hand} {u : Option Slot}
    (hs : Stretch h e h' u) (hr : r.Deals k asks post h' u) : r.Deals k asks post h e := by
  cases hr with
  | done keeps stretch ends => exact .done keeps (hs.trans stretch) ends
  | await keeps stretch asked shut leaves onward =>
    exact .await keeps (hs.trans stretch) asked shut leaves onward

lemma bind {m : Hand → α → Option Slot → Prop} {post : Hand → β → Option Slot → Prop} {r : Run α}
    {f : α → Task β} (hr : r.Deals k asks m h e)
    (hf : ∀ h' x s, s.nonces.Current k → m h' x (s.nonces.get? k.account) →
      (f x s).Deals k asks post h' (s.nonces.get? k.account)) :
    (r.bind f).Deals k asks post h e := by
  induction hr with
  | done keeps stretch ends => exact (hf _ _ _ keeps ends).prepend stretch
  | await keeps stretch asked shut leaves _ ih => exact .await keeps stretch asked shut leaves ih

lemma mono {m post : Hand → α → Option Slot → Prop} {r : Run α} (hr : r.Deals k asks m h e)
    (hp : ∀ h' x e', m h' x e' → post h' x e') : r.Deals k asks post h e := by
  induction hr with
  | done keeps stretch ends => exact .done keeps stretch (hp _ _ _ ends)
  | await keeps stretch asked shut leaves _ ih => exact .await keeps stretch asked shut leaves ih

lemma and_course {post : Hand → α → Option Slot → Prop} {P : α → Prop} {r : Run α}
    (hr : r.Deals k asks post h e) (hp : ∀ ms x s, r.Course ms x s → P x) :
    r.Deals k asks (fun h x e => post h x e ∧ P x) h e := by
  induction hr with
  | done keeps stretch ends => exact .done keeps stretch ⟨ends, hp _ _ _ (.done _ _)⟩
  | await keeps stretch asked shut leaves _ ih =>
    refine .await keeps stretch asked shut leaves fun reply c hk hc => ?_
    exact ih reply c hk hc fun ms x s h => hp _ x s (.await reply c h)

end Run.Deals

def Task.Deals (k : SlotRef) (asks : Hand → Call → Prop) {α : Type}
    (post : Hand → α → Option Slot → Prop) (h : Hand) (t : Task α) (s : Client) : Prop :=
  s.nonces.Current k → (t s).Deals k asks post h (s.nonces.get? k.account)

def Action.Deals (k : SlotRef) (asks : Hand → Call → Prop) {ε α : Type}
    (post : Hand → Except ε α → Option Slot → Prop) (h : Hand) (x : Action ε α) (s : Client) :
    Prop :=
  Task.Deals k asks post h x.run s

namespace Task

variable {k : SlotRef} {asks : Hand → Call → Prop} {α β : Type} {h : Hand} {s : Client}

lemma deals_pure {post : Hand → α → Option Slot → Prop} {x : α}
    (hp : post h x (s.nonces.get? k.account)) : (pure x : Task α).Deals k asks post h s :=
  fun hk => .done hk (.still _ _) hp

lemma deals_modify {post : Hand → Unit → Option Slot → Prop} {f : Client → Client} {h' : Hand}
    (hf : s.nonces.Current k → (f s).nonces.Current k)
    (hs : Stretch h (s.nonces.get? k.account) h' ((f s).nonces.get? k.account))
    (hp : post h' () ((f s).nonces.get? k.account)) :
    (modify f : Task Unit).Deals k asks post h s :=
  fun hk => .done (hf hk) hs hp

lemma deals_call {c : Call} {post : Hand → c.Reply → Option Slot → Prop} (hc : asks h c)
    (ht : s.nonces.Current k → c = .turn k → ∃ last, s.nonces.get? k.account = some ⟨last, true⟩)
    (hh : h ≠ .holding) (hp : ∀ reply e, Relies k h c reply e → post (h.after c reply) reply e) :
    (call c).Deals k asks post h s := by
  refine fun hk => .await hk (.still _ _) hc (ht hk) (fun c hk' => ⟨hk', ?_⟩) ?_
  · cases h with
    | holding => exact absurd rfl hh
    | _ => rfl
  · exact fun reply c hk' hr => .done hk' (.still _ _) (hp reply _ hr)

lemma deals_bind {m : Hand → α → Option Slot → Prop} {post : Hand → β → Option Slot → Prop}
    {t : Task α} {f : α → Task β} (ht : t.Deals k asks m h s)
    (hf : ∀ h' x s, m h' x (s.nonces.get? k.account) → (f x).Deals k asks post h' s) :
    (t >>= f).Deals k asks post h s :=
  fun hk => (ht hk).bind fun h' x s hk' hm => hf h' x s hm hk'

lemma deals_map {m : Hand → α → Option Slot → Prop} {post : Hand → β → Option Slot → Prop}
    {t : Task α} {f : α → β} (ht : t.Deals k asks m h s)
    (hf : ∀ h' x e, m h' x e → post h' (f x) e) : (f <$> t).Deals k asks post h s :=
  deals_bind (f := fun x => pure (f x)) ht fun _ _ _ hm => deals_pure (hf _ _ _ hm)

end Task

namespace Action

variable {k : SlotRef} {asks : Hand → Call → Prop} {ε δ α β : Type} {h : Hand} {s : Client}

lemma deals_pure {post : Hand → Except ε α → Option Slot → Prop} {x : α}
    (hp : post h (.ok x) (s.nonces.get? k.account)) :
    (pure x : Action ε α).Deals k asks post h s :=
  Task.deals_pure hp

lemma deals_throw {post : Hand → Except ε α → Option Slot → Prop} {cause : ε}
    (hp : post h (.error cause) (s.nonces.get? k.account)) :
    (throw cause : Action ε α).Deals k asks post h s :=
  Task.deals_pure hp

lemma deals_ofExcept {post : Hand → Except ε α → Option Slot → Prop} {x : Except ε α}
    (hp : post h x (s.nonces.get? k.account)) : (ofExcept x).Deals k asks post h s :=
  Task.deals_pure hp

lemma deals_bind {m : Hand → Except ε α → Option Slot → Prop}
    {post : Hand → Except ε β → Option Slot → Prop} {x : Action ε α} {f : α → Action ε β}
    (hx : x.Deals k asks m h s)
    (hok : ∀ h' v s, m h' (.ok v) (s.nonces.get? k.account) → (f v).Deals k asks post h' s)
    (herror : ∀ h' cause e, m h' (.error cause) e → post h' (.error cause) e) :
    (x >>= f).Deals k asks post h s := by
  refine Task.deals_bind (t := x.run) (f := ExceptT.bindCont f) hx ?_
  intro h' y s hm
  cases y with
  | ok v => exact hok h' v s hm
  | error cause => exact Task.deals_pure (herror h' cause _ hm)

lemma deals_lift_bind {m : Hand → α → Option Slot → Prop}
    {post : Hand → Except ε β → Option Slot → Prop} {t : Task α} {f : α → Action ε β}
    (ht : t.Deals k asks m h s)
    (hf : ∀ h' v s, m h' v (s.nonces.get? k.account) → (f v).Deals k asks post h' s) :
    ((liftM t : Action ε α) >>= f).Deals k asks post h s := by
  refine deals_bind (m := fun h y e => ∃ v, y = .ok v ∧ m h v e) ?_ ?_ ?_
  · exact Task.deals_map ht fun h' x e hm => ⟨x, rfl, hm⟩
  · rintro h' v s ⟨_, hv, hm⟩
    cases hv
    exact hf h' v s hm
  · rintro h' cause e ⟨_, hv, -⟩
    cases hv

lemma deals_get_bind {post : Hand → Except ε β → Option Slot → Prop} {f : Client → Action ε β}
    (hf : (f s).Deals k asks post h s) : ((get : Action ε Client) >>= f).Deals k asks post h s :=
  hf

lemma deals_modify_bind {post : Hand → Except ε β → Option Slot → Prop} {g : Client → Client}
    {f : Unit → Action ε β} (h' : Hand) (hg : s.nonces.Current k → (g s).nonces.Current k)
    (hs : Stretch h (s.nonces.get? k.account) h' ((g s).nonces.get? k.account))
    (hf : (f ()).Deals k asks post h' (g s)) :
    ((liftM (modify g : Task Unit) : Action ε Unit) >>= f).Deals k asks post h s :=
  fun hk => Run.Deals.prepend hs (hf (hg hk))

lemma deals_adapt {f : ε → δ} {m : Hand → Except ε α → Option Slot → Prop}
    {post : Hand → Except δ α → Option Slot → Prop} {x : Action ε α} (hx : x.Deals k asks m h s)
    (hf : ∀ h' y e, m h' y e → post h' (y.mapError f) e) :
    (ExceptT.adapt f x).Deals k asks post h s :=
  Task.deals_map hx hf

end Action

end LedgerClient
