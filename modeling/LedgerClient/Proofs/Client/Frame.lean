import LedgerClient.Client.Signing
import LedgerClient.Proofs.Client.Allocation

namespace LedgerClient

def Untouched (c : Address) : Client → List Moment → Client → Prop
  | s, [], s' => s'.nonces.shelf c = s.nonces.shelf c
  | s, m :: ms, s' => m.left.nonces.shelf c = s.nonces.shelf c ∧ Untouched c m.found ms s'

namespace Untouched

variable {c : Address} {s s₁ s' : Client} {ms ms' : List Moment}

lemma from_eq (h : Untouched c s₁ ms s') (hs : s₁.nonces.shelf c = s.nonces.shelf c) :
    Untouched c s ms s' := by
  cases ms with
  | nil => exact Eq.trans h hs
  | cons m ms => exact ⟨h.1.trans hs, h.2⟩

lemma append (h : Untouched c s ms s₁) (h' : Untouched c s₁ ms' s') :
    Untouched c s (ms ++ ms') s' := by
  induction ms generalizing s with
  | nil => exact h'.from_eq h
  | cons m ms ih => exact ⟨h.1, ih h.2⟩

lemma to_eq (h : Untouched c s ms s₁) (hs : s'.nonces.shelf c = s₁.nonces.shelf c) :
    Untouched c s ms s' := by
  rw [← List.append_nil ms]
  exact h.append hs

end Untouched

structure Frame where
  Holds : Client → List Moment → Client → Prop
  refl (s : Client) : Holds s [] s
  wait (call : Call) (s : Client) (reply : call.Reply) (found : Client) :
    Holds s [⟨call, s, reply, found⟩] found
  append {s s₁ s' : Client} {ms ms' : List Moment} (first : Holds s ms s₁) (rest : Holds s₁ ms' s') :
    Holds s (ms ++ ms') s'

def Untouched.frame (c : Address) : Frame :=
  ⟨Untouched c, fun _ => rfl, fun _ _ _ _ => ⟨rfl, rfl⟩, Untouched.append⟩

variable {c a : Address} {ε δ α β : Type} {s s' : Client} {ms : List Moment} {F : Frame}

def Frame.Spares (F : Frame) (a : Address) : Prop :=
  ∀ (s : Client) (f : NonceBook → NonceBook),
    (∀ c ≠ a, (f s.nonces).shelf c = s.nonces.shelf c) → F.Holds s [] (s.mapNonces f)

lemma Untouched.frame_spares (hc : c ≠ a) : (Untouched.frame c).Spares a := fun _ _ h => h c hc

def Still : Client → List Moment → Client → Prop
  | s, [], s' => s' = s
  | s, m :: ms, s' => m.left = s ∧ Still m.found ms s'

lemma Still.holds (F : Frame) (h : Still s ms s') : F.Holds s ms s' := by
  induction ms generalizing s with
  | nil =>
    obtain rfl : s' = s := h
    exact F.refl _
  | cons m ms ih =>
    obtain ⟨call, left, reply, found⟩ := m
    obtain ⟨rfl, hrest⟩ := h
    exact F.append (F.wait call left reply found) (ih hrest)

inductive Run.Idle : Run α → Client → Prop
  | done (x : α) (s : Client) : Idle (.done x s) s
  | await {call : Call} {s : Client} {resume : call.Reply → Client → Run α}
      (h : ∀ reply found, Idle (resume reply found) found) : Idle (.await call s id resume) s

namespace Run.Idle

lemma bind {r : Run α} {f : α → Task β} (hr : r.Idle s) (hf : ∀ x s, (f x s).Idle s) :
    (r.bind f).Idle s := by
  induction hr with
  | done x s => exact hf x s
  | await _ ih => exact .await ih

lemma still {r : Run α} {x : α} (hr : r.Idle s) (h : r.Course ms x s') : Still s ms s' := by
  induction h generalizing s with
  | done x s =>
    cases hr
    exact rfl
  | await reply found _ ih =>
    cases hr with
    | await h => exact ⟨rfl, ih (h reply found)⟩

end Run.Idle

def Task.Idle (t : Task α) : Prop := ∀ s, (t s).Idle s

def Action.Idle (x : Action ε α) : Prop := ∀ s, (x.run s).Idle s

lemma Task.idle_call {call : Call} : (Task.call call).Idle := fun _ => .await fun _ _ => .done _ _

namespace Action

lemma idle_ofExcept {z : Except ε α} : (ofExcept z).Idle := fun s => .done z s

lemma idle_pure {x : α} : (pure x : Action ε α).Idle := idle_ofExcept (z := .ok x)

lemma idle_throw {e : ε} : (throw e : Action ε α).Idle := idle_ofExcept (z := .error e)

lemma idle_bind {x : Action ε α} {f : α → Action ε β} (hx : x.Idle) (hf : ∀ v, (f v).Idle) :
    (x >>= f).Idle := by
  refine fun s => (hx s).bind fun y s => ?_
  cases y with
  | ok v => exact hf v s
  | error e => exact .done _ s

lemma idle_lift {t : Task α} (ht : t.Idle) : (liftM t : Action ε α).Idle := fun s =>
  (ht s).bind fun x s => (Run.Idle.done (Except.ok x : Except ε α) s :)

lemma idle_adapt {f : ε → δ} {x : Action ε α} (hx : x.Idle) : (ExceptT.adapt f x).Idle := fun s =>
  (hx s).bind fun y s => .done (y.mapError f) s

lemma idle_get : (get : Action ε Client).Idle := idle_lift (t := get) fun s => .done s s

end Action

variable (F)

def Task.Within (t : Task α) : Prop :=
  ∀ ⦃s ms x s'⦄, t.Course s ms x s' → F.Holds s ms s'

def Action.Within (x : Action ε α) : Prop :=
  ∀ ⦃s ms y s'⦄, x.Course s ms y s' → F.Holds s ms s'

variable {F}

namespace Action

lemma Idle.within {x : Action ε α} (hx : x.Idle) : x.Within F := fun s _ _ _ h =>
  ((hx s).still h).holds F

lemma within_bind {x : Action ε α} {f : α → Action ε β} (hx : x.Within F)
    (hf : ∀ v, (f v).Within F) : (x >>= f).Within F := by
  intro s ms y s' h
  rcases course_bind.1 h with ⟨e, -, h₁⟩ | ⟨ms₁, v, s₁, ms₂, rfl, h₁, h₂⟩
  · exact hx h₁
  · exact F.append (hx h₁) (hf v h₂)

end Action

namespace Nonces

lemma within_advance {k : SlotRef} (hF : F.Spares k.account) (base : Nonce) :
    (advance k base).Within F := by
  intro s ms y s' h
  obtain ⟨rfl, ⟨-, -, rfl⟩ | ⟨n, -, -, rfl⟩⟩ := course_advance.1 h
  · exact F.refl _
  · exact hF s _ fun c hc => NonceBook.shelf_update_of_ne _ hc

lemma within_seed {k : SlotRef} (hF : F.Spares k.account) : (seed k).Within F := by
  intro s ms y s' h
  obtain ⟨reply, found, rfl, -, rfl⟩ := course_seed.1 h
  have hhold : F.Holds s [] (s.mapNonces (·.hold k)) :=
    hF s _ fun c hc => NonceBook.shelf_update_of_ne _ hc
  have hrelease : F.Holds found [] (found.mapNonces (·.release k)) :=
    hF found _ fun c hc => NonceBook.shelf_update_of_ne _ hc
  exact F.append (F.append hhold (F.wait (.readState k.account) _ reply found)) hrelease

variable (hF : F.Spares a)
include hF

lemma within_acquire : (acquire a).Within F := by
  intro s ms k s' h
  have ht : F.Holds s [] (s.mapNonces (·.touch a)) :=
    hF s _ fun c hc => NonceBook.shelf_touch_of_ne _ hc
  rcases course_acquire.1 h with ⟨-, ⟨-, rfl, rfl⟩ | ⟨-, rfl⟩⟩
  · exact ht
  · exact F.append ht (F.wait _ _ _ _)

lemma within_allocate : (allocate a).Within F := by
  intro s ms y s' h
  obtain ⟨k, ms₁, s₁, ms₂, rfl, h₁, h₂⟩ := course_allocate.1 h
  have hacquire := within_acquire hF h₁
  obtain rfl := account_acquire h₁
  rcases h₂ with ⟨base, -, h₂⟩ | ⟨-, h₂⟩
  · exact F.append hacquire (within_advance hF base h₂)
  · exact F.append hacquire (Action.within_bind (within_seed hF) (within_advance hF) h₂)

omit hF in
lemma within_rebindAndAllocate {state : AccountState} (hF : F.Spares state.address) :
    (rebindAndAllocate state).Within F := by
  intro s ms y s' h
  obtain ⟨k, s₁, h₁, h₂⟩ := course_rebindAndAllocate.1 h
  have hacquire := within_acquire hF h₁
  rw [← account_acquire h₁] at hF
  rw [← List.append_nil ms]
  exact F.append hacquire (within_advance hF _ h₂)

end Nonces

namespace Signing

lemma idle_principal : principal.Idle :=
  Action.idle_bind Action.idle_get fun _ => Action.idle_ofExcept

lemma idle_askCustody {ask : Task (Except CustodyError α)} (ha : ask.Idle) :
    (askCustody a ask).Idle := by
  refine Action.idle_bind (Action.idle_lift ha) fun reply => ?_
  cases reply with
  | ok v => exact Action.idle_pure
  | error cause => exact Action.idle_throw

lemma idle_sign (tx : Transaction) : (sign tx).Idle := by
  refine Action.idle_bind Action.idle_get fun s => ?_
  cases s.signer with
  | resident signer => exact Action.idle_ofExcept
  | remote signer =>
    refine Action.idle_bind idle_principal fun address => ?_
    refine Action.idle_bind Action.idle_ofExcept fun _ => ?_
    refine Action.idle_bind (idle_askCustody Task.idle_call) fun signature => ?_
    split
    · exact Action.idle_pure
    · exact Action.idle_throw

end Signing

end LedgerClient
