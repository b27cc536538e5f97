import LedgerClient.Proofs.Client.Frame

/-! Tasks that are dropped while they wait. A composed task waits where its first part does, or goes
on from the end of that part to a wait of the rest. -/

namespace LedgerClient

structure Suspension where
  call : Call
  left : Client
  abandon : Client → Client

namespace Run

variable {α β : Type}

inductive Suspends : Run α → List Moment → Suspension → Prop
  | here {call : Call} {left : Client} {abandon : Client → Client}
      {resume : call.Reply → Client → Run α} :
      Suspends (.await call left abandon resume) [] ⟨call, left, abandon⟩
  | later {call : Call} {left : Client} {abandon : Client → Client}
      {resume : call.Reply → Client → Run α} {ms : List Moment} {v : Suspension}
      (reply : call.Reply) (found : Client) (h : Suspends (resume reply found) ms v) :
      Suspends (.await call left abandon resume) (⟨call, left, reply, found⟩ :: ms) v

variable {r : Run α} {ms pre post : List Moment} {m : Moment} {v : Suspension} {s s' : Client} {x : α}

lemma not_suspends_done : ¬ (done x s).Suspends ms v := nofun

lemma suspends_bind {f : α → Task β} (h : (r.bind f).Suspends ms v) :
    r.Suspends ms v ∨
      ∃ ms₁ x s ms₂, ms = ms₁ ++ ms₂ ∧ r.Course ms₁ x s ∧ (f x s).Suspends ms₂ v := by
  induction r generalizing ms with
  | done x s => exact .inr ⟨[], x, s, ms, rfl, .done x s, h⟩
  | await call left abandon resume ih =>
    cases h with
    | here => exact .inl .here
    | later reply found h =>
      rcases ih reply found h with h | ⟨ms₁, x, s, ms₂, rfl, h₁, h₂⟩
      · exact .inl (.later reply found h)
      · exact .inr ⟨_ :: ms₁, x, s, ms₂, rfl, .await reply found h₁, h₂⟩

lemma Course.suspends (h : r.Course ms x s) (hm : ms = pre ++ m :: post) :
    ∃ abandon, r.Suspends pre ⟨m.call, m.left, abandon⟩ := by
  induction h generalizing pre with
  | done x s => simp at hm
  | await reply found _ ih =>
    cases pre with
    | nil =>
      obtain ⟨rfl, -⟩ := List.cons.inj hm
      exact ⟨_, .here⟩
    | cons m' pre =>
      obtain ⟨rfl, hm'⟩ := List.cons.inj hm
      obtain ⟨abandon, h⟩ := ih hm'
      exact ⟨abandon, .later reply found h⟩

lemma Suspends.course (h : r.Suspends ms v) :
    ∃ post x s, r.Course (ms ++ ⟨v.call, v.left, v.call.silence, v.left⟩ :: post) x s := by
  induction h with
  | here =>
    exact ⟨_, _, _, .await _ _ (play_course (fun _ call s => (call.silence, s)) [] _)⟩
  | later reply found _ ih =>
    obtain ⟨post, x, s, h⟩ := ih
    exact ⟨post, x, s, .await reply found h⟩

lemma Idle.suspends (hr : r.Idle s) (h : r.Suspends ms v) : Still s ms v.left ∧ v.abandon = id := by
  induction h generalizing s with
  | here =>
    cases hr
    exact ⟨rfl, rfl⟩
  | later reply found _ ih =>
    cases hr with
    | await hr =>
      obtain ⟨hstill, habandon⟩ := ih (hr reply found)
      exact ⟨⟨rfl, hstill⟩, habandon⟩

end Run

def Task.Suspends {α : Type} (t : Task α) (s : Client) (ms : List Moment) (v : Suspension) : Prop :=
  Run.Suspends (t s) ms v

def Action.Suspends {ε α : Type} (x : Action ε α) (s : Client) (ms : List Moment)
    (v : Suspension) : Prop :=
  Run.Suspends (x.run s) ms v

namespace Action

variable {ε δ α β : Type} {s : Client} {ms : List Moment} {v : Suspension}

lemma not_suspends_ofExcept {z : Except ε α} : ¬ (ofExcept z).Suspends s ms v :=
  Run.not_suspends_done

lemma not_suspends_pure {x : α} : ¬ (pure x : Action ε α).Suspends s ms v :=
  Run.not_suspends_done

lemma not_suspends_throw {e : ε} : ¬ (throw e : Action ε α).Suspends s ms v :=
  Run.not_suspends_done

lemma suspends_bind {x : Action ε α} {f : α → Action ε β} (h : (x >>= f).Suspends s ms v) :
    x.Suspends s ms v ∨
      ∃ ms₁ y s₁ ms₂, ms = ms₁ ++ ms₂ ∧ x.Course s ms₁ (.ok y) s₁ ∧ (f y).Suspends s₁ ms₂ v := by
  rcases Run.suspends_bind h with h | ⟨ms₁, y, s₁, ms₂, rfl, h₁, h₂⟩
  · exact .inl h
  · cases y with
    | ok y => exact .inr ⟨ms₁, y, s₁, ms₂, rfl, h₁, h₂⟩
    | error e => exact absurd h₂ Run.not_suspends_done

lemma suspends_lift {t : Task α} (h : (liftM t : Action ε α).Suspends s ms v) :
    t.Suspends s ms v := by
  rcases Run.suspends_bind h with h | ⟨ms₁, x, s₁, ms₂, -, -, h⟩
  · exact h
  · exact absurd h Run.not_suspends_done

lemma suspends_adapt {f : ε → δ} {x : Action ε α} (h : (ExceptT.adapt f x).Suspends s ms v) :
    x.Suspends s ms v := by
  rcases Run.suspends_bind h with h | ⟨ms₁, x, s₁, ms₂, -, -, h⟩
  · exact h
  · exact absurd h Run.not_suspends_done

lemma suspends_outcome_bind {x : Action ε α} {f : Except ε α → Action δ β}
    (h : (outcome x >>= f).Suspends s ms v) :
    x.Suspends s ms v ∨
      ∃ ms₁ y s₁ ms₂, ms = ms₁ ++ ms₂ ∧ x.Course s ms₁ y s₁ ∧ (f y).Suspends s₁ ms₂ v := by
  rcases suspends_bind h with h | ⟨ms₁, y, s₁, ms₂, rfl, h₁, h₂⟩
  · exact .inl (suspends_lift h)
  · obtain ⟨y', hy, h₁⟩ := course_lift.1 h₁
    obtain rfl := Except.ok.inj hy
    exact .inr ⟨ms₁, y, s₁, ms₂, rfl, h₁, h₂⟩

lemma suspends_modify_bind {g : Client → Client} {f : Unit → Action ε β} :
    ((liftM (modify g : Task Unit) : Action ε Unit) >>= f).Suspends s ms v ↔
      (f ()).Suspends (g s) ms v :=
  Iff.rfl

lemma suspends_get_bind {f : Client → Action ε β} :
    ((get : Action ε Client) >>= f).Suspends s ms v ↔ (f s).Suspends s ms v :=
  Iff.rfl

lemma suspends_callHolding_bind {call : Call} {abandon : Client → Client}
    {f : call.Reply → Action ε β}
    (h : ((liftM (Task.callHolding call abandon) : Action ε call.Reply) >>= f).Suspends s ms v) :
    ms = [] ∧ v = ⟨call, s, abandon⟩ ∨
      ∃ reply found ms', ms = ⟨call, s, reply, found⟩ :: ms' ∧ (f reply).Suspends found ms' v := by
  cases h with
  | here => exact .inl ⟨rfl, rfl⟩
  | later reply found h => exact .inr ⟨reply, found, _, rfl, h⟩

lemma suspends_call_bind {call : Call} {f : call.Reply → Action ε β}
    (h : ((liftM (Task.call call) : Action ε call.Reply) >>= f).Suspends s ms v) :
    ms = [] ∧ v = ⟨call, s, id⟩ ∨
      ∃ reply found ms', ms = ⟨call, s, reply, found⟩ :: ms' ∧ (f reply).Suspends found ms' v :=
  suspends_callHolding_bind h

end Action

def Client.Spared (a : Address) (s s' : Client) : Prop :=
  s'.nonces.get? a = s.nonces.get? a ∧ s'.nonces.ref a = s.nonces.ref a

def Moment.Spares (a : Address) (m : Moment) : Prop := m.left.Spared a m.found

lemma Untouched.get?_eq {a : Address} {s s' : Client} {ms : List Moment} (h : Untouched a s ms s')
    (hms : ∀ m ∈ ms, m.Spares a) : s'.nonces.get? a = s.nonces.get? a := by
  induction ms generalizing s with
  | nil => exact NonceBook.get?_eq_of_shelf h
  | cons m ms ih =>
    obtain ⟨hm, hms⟩ := List.forall_mem_cons.1 hms
    exact (ih h.2 hms).trans (hm.1.trans (NonceBook.get?_eq_of_shelf h.1))

namespace Nonces

variable {s s' : Client} {ms : List Moment} {a : Address} {k : SlotRef} {n base : Nonce}
  {v : Suspension}

inductive Resumes (a : Address) (s : Client) : Option Nonce → Prop
  | counts {n next : Nonce} {s' : Client} (succ : n.next? = some next)
      (run : (allocate a).run s = .done (.ok next) s') : Resumes a s (some n)
  | exhausted {n : Nonce} {s' : Client} (full : n.next? = none)
      (run : (allocate a).run s = .done (.error (.overflow a)) s') : Resumes a s (some n)
  | asks {left : Client} {abandon : Client → Client}
      {resume : Except NodeError AccountState → Client → Run (Except NonceError Nonce)}
      (run : (allocate a).run s = .await (.readState a) left abandon resume) : Resumes a s none

lemma get?_advance {last : Option Nonce} (hk : s.nonces.Current k)
    (hs : s.nonces.get? k.account = some ⟨last, false⟩)
    (h : (advance k base).Course s ms (.ok n) s') :
    s'.nonces.get? k.account = some ⟨some n, false⟩ := by
  obtain ⟨-, ⟨-, hn, -⟩ | ⟨n', -, hn, rfl⟩⟩ := course_advance.1 h
  · cases hn
  · cases hn
    exact hk.get?_update_some hs

lemma run_advance_of_none (hn : base.next? = none) :
    (advance k base).run s = .done (.error (.overflow k.account)) s := by
  rw [advance, hn]
  rfl

lemma run_advance_of_some (hn : base.next? = some n) :
    (advance k base).run s = .done (.ok n) (s.mapNonces (·.put k n)) := by
  rw [advance, hn]
  rfl

lemma not_suspends_advance : ¬ (advance k base).Suspends s ms v := by
  unfold advance
  cases base.next? with
  | none => exact Action.not_suspends_throw
  | some n => exact Run.not_suspends_done

lemma suspends_seed (h : (seed k).Suspends s ms v) :
    ms = [] ∧ v = ⟨.readState k.account, s.mapNonces (·.hold k), Client.mapNonces (·.release k)⟩ := by
  rcases Action.suspends_callHolding_bind (Action.suspends_modify_bind.1 h) with
    h | ⟨reply, found, ms', -, h⟩
  · exact h
  · cases reply with
    | error cause => exact absurd h Run.not_suspends_done
    | ok state => exact absurd h Run.not_suspends_done

lemma held_of_get? {last : Option Nonce} (hs : s.nonces.get? a = some ⟨last, false⟩) :
    (s.nonces.slot a).held = false :=
  congrArg Slot.held (NonceBook.slot_of_get? hs)

lemma current_touched : (s.mapNonces (·.touch a)).nonces.Current (s.nonces.ref a) :=
  NonceBook.current_ref.touch

section Free

variable (hfree : (s.nonces.slot a).held = false)
include hfree

lemma get?_touch_free :
    (s.mapNonces (·.touch a)).nonces.get? a = some ⟨(s.nonces.slot a).last, false⟩ :=
  (NonceBook.get?_touch _).trans (by rw [← hfree])

lemma run_acquire : acquire a s = .done (s.nonces.ref a) (s.mapNonces (·.touch a)) := by
  change ((fun _ => (s.nonces.touch a).ref a) <$> awaitTurn ((s.nonces.touch a).ref a))
    (s.mapNonces (·.touch a)) = _
  rw [NonceBook.ref_touch]
  change Run.bind (awaitTurn (s.nonces.ref a) (s.mapNonces (·.touch a))) _ = _
  rw [awaitTurn, find_touched, hfree]
  rfl

lemma run_allocate_of_some (hlast : (s.nonces.slot a).last = some base) :
    (allocate a).run s = (advance (s.nonces.ref a) base).run (s.mapNonces (·.touch a)) := by
  refine (Action.run_lift_bind (run_acquire hfree)).trans ?_
  refine (Action.run_bind_of_ok rfl).trans ?_
  rw [find_touched, hlast]

lemma run_allocate_of_none (hlast : (s.nonces.slot a).last = none) :
    (allocate a).run s =
      (seed (s.nonces.ref a) >>= advance (s.nonces.ref a)).run (s.mapNonces (·.touch a)) := by
  refine (Action.run_lift_bind (run_acquire hfree)).trans ?_
  refine (Action.run_bind_of_ok rfl).trans ?_
  rw [find_touched, hlast]

lemma run_rebindAndAllocate {state : AccountState} (ha : state.address = a) :
    (rebindAndAllocate state).run s =
      (advance (s.nonces.ref a) state.nonce).run (s.mapNonces (·.touch a)) := by
  subst ha
  exact Action.run_lift_bind (run_acquire hfree)

lemma suspends_allocate (h : (allocate a).Suspends s ms v) :
    (s.nonces.slot a).last = none ∧ ms = [] ∧
      v = ⟨.readState a, (s.mapNonces (·.touch a)).mapNonces (·.hold (s.nonces.ref a)),
        Client.mapNonces (·.release (s.nonces.ref a))⟩ := by
  rw [Action.Suspends] at h
  cases hlast : (s.nonces.slot a).last with
  | some base =>
    rw [run_allocate_of_some hfree hlast] at h
    exact absurd h not_suspends_advance
  | none =>
    rw [run_allocate_of_none hfree hlast] at h
    rcases Action.suspends_bind h with h | ⟨ms₁, base, s₁, ms₂, -, -, h⟩
    · exact ⟨rfl, suspends_seed h⟩
    · exact absurd h not_suspends_advance

lemma not_suspends_rebindAndAllocate {state : AccountState} (ha : state.address = a) :
    ¬ (rebindAndAllocate state).Suspends s ms v := by
  rw [Action.Suspends, run_rebindAndAllocate hfree ha]
  exact not_suspends_advance

lemma get?_allocate (hms : ∀ m ∈ ms, m.Spares a) (h : (allocate a).Course s ms (.ok n) s') :
    s'.nonces.get? a = some ⟨some n, false⟩ := by
  have hk : (s.mapNonces (·.touch a)).nonces.Current (s.nonces.ref a) := current_touched
  have htouch := get?_touch_free hfree
  change Run.Course ((allocate a).run s) ms (.ok n) s' at h
  cases hlast : (s.nonces.slot a).last with
  | some base =>
    rw [run_allocate_of_some hfree hlast] at h
    exact get?_advance hk htouch h
  | none =>
    rw [run_allocate_of_none hfree hlast] at h
    rw [hlast] at htouch
    rcases Action.course_bind.1 h with ⟨e, he, -⟩ | ⟨ms₁, base, s₁, ms₂, rfl, h₁, h₂⟩
    · cases he
    obtain ⟨reply, found, rfl, -, rfl⟩ := course_seed.1 h₁
    obtain ⟨hget, href⟩ := (List.forall_mem_cons.1 hms).1
    have hk' : found.nonces.Current (s.nonces.ref a) := Eq.trans href hk.update
    have hfound : found.nonces.get? a = some ⟨none, true⟩ :=
      Eq.trans hget (hk.get?_update_some htouch)
    have hreleased : (found.mapNonces (·.release (s.nonces.ref a))).nonces.get? a =
        some ⟨none, false⟩ := hk'.get?_update_some hfound
    exact get?_advance hk'.update hreleased h₂

lemma get?_rebindAndAllocate {state : AccountState} (ha : state.address = a)
    (h : (rebindAndAllocate state).Course s ms (.ok n) s') :
    ms = [] ∧ s'.nonces.get? a = some ⟨some n, false⟩ := by
  change Run.Course ((rebindAndAllocate state).run s) ms (.ok n) s' at h
  rw [run_rebindAndAllocate hfree ha] at h
  exact ⟨(course_advance.1 h).1, get?_advance current_touched (get?_touch_free hfree) h⟩

lemma resumes_of_free : Resumes a s (s.nonces.slot a).last := by
  cases hlast : (s.nonces.slot a).last with
  | none => exact .asks (run_allocate_of_none hfree hlast)
  | some n =>
    have hrun := run_allocate_of_some hfree hlast
    cases hn : n.next? with
    | none => exact .exhausted hn (hrun.trans (run_advance_of_none hn))
    | some next => exact .counts hn (hrun.trans (run_advance_of_some hn))

end Free

end Nonces

end LedgerClient
