import LedgerClient.Client.Nonces
import LedgerClient.Proofs.Client.Hand
import LedgerClient.Proofs.Client.NonceBook

namespace LedgerClient.Nonces

open Hand

variable {k q : SlotRef} {b : Address} {asks : Hand → Call → Prop} {h : Hand} {s : Client}

@[simp] lemma after_turn (h : Hand) (u : Unit) : h.after (.turn q) u = h := by cases h <;> rfl

lemma stretch_touch : Stretch h (s.nonces.get? b) h ((s.nonces.touch b).get? b) := by
  rw [NonceBook.get?_touch, NonceBook.slot]
  cases s.nonces.get? b with
  | none => exact .touch h
  | some slot => exact .still h _

lemma deals_awaitTurn {post : Hand → Unit → Option Slot → Prop} (hh : h ≠ .holding)
    (ht : asks h (.turn q))
    (hfree : (s.nonces.find q).held = false → post h () (s.nonces.get? k.account))
    (hlet : ∀ e, (q = k → ∃ last, e = some ⟨last, false⟩) → post h () e) :
    (awaitTurn q).Deals k asks post h s := by
  cases hs : (s.nonces.find q).held with
  | false =>
    have he : awaitTurn q s = (pure () : Task Unit) s := by simp [awaitTurn, hs]; rfl
    have hd : (pure () : Task Unit).Deals k asks post h s := Task.deals_pure (hfree hs)
    rwa [Task.Deals, ← he] at hd
  | true =>
    have he : awaitTurn q s = Task.call (.turn q) s := by simp [awaitTurn, hs]
    have hd : (Task.call (.turn q)).Deals k asks post h s := by
      refine Task.deals_call ht (fun hk hq => ?_) hh fun reply e hr => ?_
      · obtain rfl := Call.turn.inj hq
        rw [hk.find_eq, NonceBook.slot] at hs
        cases hg : s.nonces.get? q.account with
        | none => simp [hg] at hs
        | some slot =>
          rw [hg] at hs
          exact ⟨slot.last, by rw [← hs]; rfl⟩
      · rw [after_turn]
        exact hlet e fun hq => hr.admitted (by rw [hq])
    rwa [Task.Deals, ← he] at hd

lemma deals_acquire {post : Hand → SlotRef → Option Slot → Prop} (hh : h ≠ .holding)
    (ht : asks h (.turn k)) (hp : ∀ last, post h k (some ⟨last, false⟩)) :
    (acquire k.account).Deals k asks post h s := by
  intro hk
  let s₁ := s.mapNonces (·.touch k.account)
  have hk₁ : s₁.nonces.Current k := hk.touch
  have he : s₁.nonces.get? k.account = some (s.nonces.slot k.account) := NonceBook.get?_touch _
  refine Run.Deals.prepend (u := s₁.nonces.get? k.account) stretch_touch ?_
  have hd : ((fun _ => k) <$> awaitTurn k).Deals k asks post h s₁ := by
    refine Task.deals_map (m := fun h _ e => post h k e) ?_ fun _ _ _ h => h
    refine deals_awaitTurn hh ht (fun hfree => ?_) fun e he => ?_
    · rw [hk₁.find_eq, NonceBook.slot_of_get? he] at hfree
      rw [he, show s.nonces.slot k.account = ⟨(s.nonces.slot k.account).last, false⟩ by rw [← hfree]]
      exact hp _
    · obtain ⟨last, rfl⟩ := he rfl
      exact hp last
  have hrun : acquire k.account s = ((fun _ => k) <$> awaitTurn k) s₁ := by
    change ((fun _ => s₁.nonces.ref k.account) <$> awaitTurn (s₁.nonces.ref k.account)) s₁ = _
    rw [show s₁.nonces.ref k.account = k from hk₁]
  rw [hrun]
  exact hd hk₁

lemma deals_advance {post : Hand → Except NonceError Nonce → Option Slot → Prop} {last : Option Nonce}
    {base : Nonce} (he : s.nonces.get? k.account = some ⟨last, false⟩)
    (hs : ∀ n, base.next? = some n →
      Stretch h (some ⟨last, false⟩) (.owning n) (some ⟨some n, false⟩))
    (hok : ∀ n, base.next? = some n → post (.owning n) (.ok n) (some ⟨some n, false⟩))
    (herror : base.next? = none → post h (.error (.overflow k.account)) (some ⟨last, false⟩)) :
    (advance k base).Deals k asks post h s := by
  cases hn : base.next? with
  | none =>
    have ha : advance k base = throw (.overflow k.account) := by simp [advance, hn]
    rw [ha]
    exact Action.deals_throw (he ▸ herror hn)
  | some n =>
    have ha : advance k base = do
        modifyBook (·.put k n)
        return n := by simp [advance, hn]
    intro hk
    have hput : (s.nonces.put k n).get? k.account = some ⟨some n, false⟩ :=
      hk.get?_update_some he
    rw [ha]
    refine Action.deals_modify_bind (.owning n) (fun hk => hk.update) ?_
      (Action.deals_pure ?_) hk
    · rw [he]
      exact hput ▸ hs n hn
    · exact hput ▸ hok n hn

lemma deals_seed {post : Hand → Except NonceError Nonce → Option Slot → Prop}
    (he : s.nonces.get? k.account = some {}) (hc : asks .holding (.readState k.account))
    (hok : ∀ n, post (.informed n) (.ok n) (some {}))
    (herror : ∀ cause, post .apart (.error (.node cause)) (some {})) :
    (seed k).Deals k asks post .eager s := by
  intro hk
  have hhold : (s.nonces.hold k).get? k.account = some ⟨none, true⟩ := hk.get?_update_some he
  refine Action.deals_modify_bind .holding (fun hk => hk.update)
    (by rw [he]; exact hhold ▸ .hold rfl) ?_ hk
  have hkept (c : Client) (hk : c.nonces.Current k) :
      (c.nonces.release k).get? k.account = leave .holding (c.nonces.get? k.account) :=
    hk.get?_update
  refine fun hk => .await hk (.still _ _) hc (fun ht => by cases ht)
    (fun c hk => ⟨hk.update, hkept c hk⟩) ?_
  intro reply c hk hr
  have hfree : (c.nonces.release k).get? k.account = some {} := by
    rw [hkept c hk, hr.kept rfl]
    rfl
  refine Action.deals_modify_bind (s := c)
    ((reply.toOption.map (·.nonce)).elim .apart .informed) (fun hk => hk.update) ?_ ?_ hk
  · rw [hr.kept rfl]
    exact hfree ▸ .release _
  · cases reply with
    | error cause => exact Action.deals_throw (hfree ▸ herror cause)
    | ok state => exact Action.deals_pure (hfree ▸ hok state.nonce)

inductive Barren : Hand → Prop
  | eager : Barren .eager
  | apart : Barren .apart
  | informed {n : Nonce} (hn : n.next? = none) : Barren (.informed n)

lemma deals_allocate {post : Hand → Except NonceError Nonce → Option Slot → Prop}
    (ht : asks .eager (.turn k)) (hc : asks .holding (.readState k.account))
    (hok : ∀ n, post (.owning n) (.ok n) (some ⟨some n, false⟩))
    (herror : ∀ h cause e, Barren h → post h (.error cause) e) :
    (allocate k.account).Deals k asks post .eager s := by
  refine Action.deals_lift_bind
    (m := fun h q e => h = .eager ∧ q = k ∧ ∃ last, e = some ⟨last, false⟩)
    (deals_acquire (by simp) ht fun last => ⟨rfl, rfl, last, rfl⟩) ?_
  rintro _ _ s ⟨rfl, rfl, last, he⟩
  refine fun hk => Action.deals_get_bind ?_ hk
  rw [hk.find_eq, NonceBook.slot_of_get? he]
  cases last with
  | some base =>
    exact deals_advance he (fun n hn => .next hn) (fun n _ => hok n) fun _ => herror _ _ _ .eager
  | none =>
    refine Action.deals_bind
      (m := fun h y e => (∃ n, h = .informed n ∧ y = .ok n ∧ e = some {}) ∨
        h = .apart ∧ ∃ cause, y = .error cause)
      (deals_seed he hc (fun n => .inl ⟨n, rfl, rfl, rfl⟩) fun cause => .inr ⟨rfl, _, rfl⟩) ?_ ?_
    · rintro h' n s (⟨_, rfl, hk, he⟩ | ⟨-, _, hk⟩)
      · cases hk
        exact deals_advance he (fun n hn => .rebind hn rfl) (fun n _ => hok n)
          fun hn => herror _ _ _ (.informed hn)
      · cases hk
    · rintro h' cause e (⟨_, -, hk, -⟩ | ⟨rfl, -⟩)
      · cases hk
      · exact herror _ _ _ .apart

lemma deals_rebindAndAllocate {post : Hand → Except NonceError Nonce → Option Slot → Prop}
    {state : AccountState} (ha : state.address = k.account)
    (ht : asks (.informed state.nonce) (.turn k))
    (hok : ∀ n, post (.owning n) (.ok n) (some ⟨some n, false⟩))
    (herror : ∀ cause e, post (.informed state.nonce) (.error cause) e) :
    (rebindAndAllocate state).Deals k asks post (.informed state.nonce) s := by
  rw [rebindAndAllocate, ha]
  refine Action.deals_lift_bind
    (m := fun h q e => h = .informed state.nonce ∧ q = k ∧ ∃ last, e = some ⟨last, false⟩)
    (deals_acquire (by simp) ht fun last => ⟨rfl, rfl, last, rfl⟩) ?_
  rintro _ _ s ⟨rfl, rfl, last, he⟩
  exact deals_advance he (fun n hn => .rebind hn rfl) (fun n _ => hok n) fun _ => herror _ _

section Spares

def Spares (k : SlotRef) (asks : Hand → Call → Prop) (h : Hand) {α : Type} (t : Task α) : Prop :=
  ∀ s, t.Deals k asks (fun h' _ _ => h' = h) h s

variable {α β ε : Type}

lemma Spares.pure (x : α) : Spares k asks h (Pure.pure x : Task α) := fun _ => Task.deals_pure rfl

lemma Spares.bind {t : Task α} {f : α → Task β} (ht : Spares k asks h t)
    (hf : ∀ x, Spares k asks h (f x)) : Spares k asks h (t >>= f) := by
  refine fun s => Task.deals_bind (ht s) ?_
  rintro _ x s rfl
  exact hf x s

lemma Spares.map {t : Task α} (ht : Spares k asks h t) (f : α → β) : Spares k asks h (f <$> t) :=
  ht.bind fun x => Spares.pure (f x)

lemma Spares.action_bind {x : Action ε α} {f : α → Action ε β} (hx : Spares k asks h x.run)
    (hf : ∀ v, Spares k asks h (f v).run) : Spares k asks h (x >>= f).run := by
  refine Spares.bind (t := x.run) (f := ExceptT.bindCont f) hx ?_
  rintro (cause | v)
  · exact Spares.pure _
  · exact hf v

lemma Spares.lift_bind {t : Task α} {f : α → Action ε β}
    (h' : Spares k asks h (t >>= fun x => (f x).run)) :
    Spares k asks h ((liftM t : Action ε α) >>= f).run := by
  rwa [show ((liftM t : Action ε α) >>= f).run = _ from ExceptT.run_bind_lift t f]

lemma Spares.get : Spares k asks h (MonadState.get : Task Client) := fun _ => Task.deals_pure rfl

lemma Spares.modifyBook {f : NonceBook → NonceBook}
    (hf : ∀ b, (f b).shelf k.account = b.shelf k.account) : Spares k asks h (modifyBook f) := by
  intro s
  refine Task.deals_modify (fun hk => hk.of_shelf (hf _)) ?_ rfl
  have he : (Client.mapNonces f s).nonces.get? k.account = s.nonces.get? k.account :=
    NonceBook.get?_eq_of_shelf (hf _)
  rw [he]
  exact .still _ _

lemma Spares.call {c : Call} (hc : asks h c) (ht : c ≠ .turn k) (hh : h ≠ .holding)
    (hafter : ∀ reply, h.after c reply = h) : Spares k asks h (Task.call c) :=
  fun _ => Task.deals_call hc (fun _ he => absurd he ht) hh fun reply _ _ => hafter reply

variable (hasks : ∀ call, call ≠ .readState k.account → asks .apart call)
include hasks

lemma spares_awaitTurn (q : SlotRef) : Spares k asks .apart (awaitTurn q) :=
  fun _ => deals_awaitTurn (by simp) (hasks _ (by simp)) (fun _ => rfl) fun _ _ => rfl

lemma spares_lastUsed (b : Address) : Spares k asks .apart (lastUsed b) := by
  refine Spares.get.bind fun s => ?_
  cases s.nonces.ref? b with
  | none => exact Spares.pure _
  | some q => exact (spares_awaitTurn hasks q).bind fun _ => Spares.get.bind fun _ => Spares.pure _

variable (hb : k.account ≠ b)
include hb

lemma spares_acquire_bind {f : SlotRef → Task α}
    (hf : ∀ q, q.account = b → Spares k asks .apart (f q)) :
    Spares k asks .apart (acquire b >>= f) := by
  have htouch : Spares k asks .apart (modifyBook (·.touch b)) :=
    Spares.modifyBook fun _ => NonceBook.shelf_touch_of_ne _ hb
  have hassoc : acquire b >>= f = (do
      modifyBook (·.touch b)
      let q := (← get).nonces.ref b
      awaitTurn q
      f q) := by
    simp only [acquire, bind_assoc, pure_bind]
  rw [hassoc]
  refine htouch.bind fun _ => Spares.get.bind fun s => ?_
  exact (spares_awaitTurn hasks _).bind fun _ => hf _ rfl

lemma spares_bind (n : Nonce) : Spares k asks .apart (bind b n) := by
  refine spares_acquire_bind hasks hb fun q hq => .modifyBook fun _ => ?_
  exact NonceBook.shelf_update_of_ne _ (hq ▸ hb)

omit hasks in
lemma spares_forget : Spares k asks .apart (forget b) :=
  .modifyBook fun _ => NonceBook.shelf_erase_of_ne _ hb

omit hb

omit hasks in
lemma spares_advance (hq : k.account ≠ q.account) (base : Nonce) :
    Spares k asks .apart (advance q base).run := by
  cases hn : base.next? with
  | none =>
    have ha : advance q base = throw (.overflow q.account) := by simp [advance, hn]
    rw [ha]
    exact Spares.pure _
  | some n =>
    have ha : advance q base = do
        modifyBook (·.put q n)
        return n := by simp [advance, hn]
    rw [ha]
    refine Spares.action_bind (Spares.map (.modifyBook fun _ => ?_) _) fun _ => Spares.pure _
    exact NonceBook.shelf_update_of_ne _ hq

lemma spares_seed (hq : k.account ≠ q.account) : Spares k asks .apart (seed q).run := by
  have hrelease (c : NonceBook) : (c.release q).shelf k.account = c.shelf k.account :=
    NonceBook.shelf_update_of_ne _ hq
  refine Spares.action_bind (Spares.map (.modifyBook fun _ => ?_) _) fun _ => ?_
  · exact NonceBook.shelf_update_of_ne _ hq
  refine Spares.action_bind (Spares.map (fun s hk => ?_) _) fun answer => ?_
  · refine .await hk (.still _ _) (hasks _ ?_) (fun ht => by cases ht)
      (fun c hk => ⟨hk.of_shelf (hrelease _), NonceBook.get?_eq_of_shelf (hrelease _)⟩) ?_
    · exact fun hc => hq (Call.readState.inj hc).symm
    · exact fun reply c hk _ => .done hk (.still _ _) rfl
  refine Spares.action_bind (Spares.map (.modifyBook hrelease) _) fun _ => ?_
  cases answer with
  | error cause => exact Spares.pure _
  | ok state => exact Spares.pure _

lemma spares_allocate (hb : k.account ≠ b) : Spares k asks .apart (allocate b).run := by
  refine Spares.lift_bind (spares_acquire_bind hasks hb fun q hq => ?_)
  subst hq
  refine Spares.action_bind (Spares.map Spares.get _) fun s => ?_
  cases (s.nonces.find q).last with
  | some base => exact spares_advance hb base
  | none => exact Spares.action_bind (spares_seed hasks hb) fun base => spares_advance hb base

lemma spares_rebindAndAllocate {state : AccountState} (hs : k.account ≠ state.address) :
    Spares k asks .apart (rebindAndAllocate state).run :=
  Spares.lift_bind (spares_acquire_bind hasks hs fun _ hq => spares_advance (hq ▸ hs) _)

end Spares

end LedgerClient.Nonces
