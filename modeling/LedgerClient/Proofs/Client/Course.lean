import LedgerClient.Client.Task
import Mathlib

/-! Courses of tasks. A course lists the waits of a task from its start to its end. At each wait
the answer is anybody's, and others may have changed the client before the task goes on. -/

namespace LedgerClient

/-- A wait: the call with the state left behind, and the reply with the state found. -/
structure Moment where
  call : Call
  left : Client
  reply : call.Reply
  found : Client

/-- All that surrounds a task: it answers a call as it likes, knowing what has gone before, and
does to the client what it likes. -/
abbrev World := List Moment → (call : Call) → Client → call.Reply × Client

def Call.silence : (c : Call) → c.Reply
  | readState _ => .error (.connection "")
  | submit _ => .error (.connection "")
  | custody (.unlock _ _) => .error (.connection "")
  | custody (.lock _ _) => .error (.connection "")
  | custody (.sign _ _) => .error (.connection "")
  | custody (.signMessage _ _) => .error (.connection "")
  | custody .list => .error (.connection "")
  | attempt _ => .error (.connection "")
  | sleep _ => ()
  | turn _ => ()

namespace Run

variable {α β : Type}

inductive Course : Run α → List Moment → α → Client → Prop
  | done (a : α) (s : Client) : Course (.done a s) [] a s
  | await {call : Call} {left : Client} {abandon : Client → Client}
      {resume : call.Reply → Client → Run α} {ms : List Moment} {a : α} {s : Client}
      (reply : call.Reply) (found : Client) (h : Course (resume reply found) ms a s) :
      Course (.await call left abandon resume) (⟨call, left, reply, found⟩ :: ms) a s

lemma course_bind {r : Run α} {f : α → Task β} {ms : List Moment} {b : β} {s' : Client} :
    Course (r.bind f) ms b s' ↔
      ∃ ms₁ a s ms₂, ms = ms₁ ++ ms₂ ∧ Course r ms₁ a s ∧ Course (f a s) ms₂ b s' := by
  constructor
  · intro h
    induction r generalizing ms with
    | done a s => exact ⟨[], a, s, ms, rfl, .done a s, h⟩
    | await call left abandon resume ih =>
      cases h with
      | await reply found h =>
        obtain ⟨ms₁, a, s, ms₂, rfl, h₁, h₂⟩ := ih reply found h
        exact ⟨_ :: ms₁, a, s, ms₂, rfl, .await reply found h₁, h₂⟩
  · rintro ⟨ms₁, a, s, ms₂, rfl, h₁, h₂⟩
    induction h₁ with
    | done a s => exact h₂
    | await reply found _ ih => exact .await reply found (ih h₂)

lemma Course.unique {r : Run α} {ms ms' post : List Moment} {a b : α} {s s' : Client}
    (h : Course r ms a s) (h' : Course r ms' b s') (hms : ms = ms' ++ post) :
    post = [] ∧ a = b ∧ s = s' := by
  induction h' generalizing ms with
  | done b s' =>
    cases h
    exact ⟨hms.symm, rfl, rfl⟩
  | await reply' found' _ ih =>
    cases h with
    | await reply found h =>
      obtain ⟨hm, hrest⟩ := List.cons.inj hms
      cases hm
      exact ih h hrest

def play (w : World) : List Moment → Run α → List Moment × α × Client
  | _, .done a s => ([], a, s)
  | past, .await call left _ resume =>
    let m : Moment := ⟨call, left, (w past call left).1, (w past call left).2⟩
    let rest := play w (past ++ [m]) (resume m.reply m.found)
    (m :: rest.1, rest.2)

lemma play_course (w : World) (past : List Moment) (r : Run α) :
    Course r (play w past r).1 (play w past r).2.1 (play w past r).2.2 := by
  induction r generalizing past with
  | done a s => exact .done a s
  | await call left abandon resume ih => exact .await _ _ (ih _ _ _)

end Run

def World.Answers (w : World) (past ms : List Moment) : Prop :=
  ∀ pre m post, ms = pre ++ m :: post → (m.reply, m.found) = w (past ++ pre) m.call m.left

lemma Run.play_answers {α : Type} (w : World) (past : List Moment) (r : Run α) :
    w.Answers past (r.play w past).1 := by
  induction r generalizing past with
  | done a s => intro pre m post h; simp [play] at h
  | await call left abandon resume ih =>
    intro pre m post h
    cases pre with
    | nil =>
      obtain ⟨rfl, -⟩ := List.cons.inj h
      simp
    | cons m' pre =>
      obtain ⟨rfl, h'⟩ := List.cons.inj h
      simpa using ih _ _ _ pre m post h'

namespace World.Answers

variable {w : World} {past ms ms' : List Moment} {m : Moment}

lemma left (h : w.Answers past (ms ++ ms')) : w.Answers past ms := by
  rintro pre m post rfl
  exact h pre m (post ++ ms') (by simp)

lemma right (h : w.Answers past (ms ++ ms')) : w.Answers (past ++ ms) ms' := by
  rintro pre m post rfl
  simpa using h (ms ++ pre) m post (by simp)

lemma head (h : w.Answers past (m :: ms)) : (m.reply, m.found) = w past m.call m.left := by
  simpa using h [] m ms rfl

lemma tail (h : w.Answers past (m :: ms)) : w.Answers (past ++ [m]) ms := by
  rw [← List.singleton_append] at h
  exact h.right

lemma of_mem (h : w.Answers past ms) (hm : m ∈ ms) :
    ∃ past', (m.reply, m.found) = w past' m.call m.left := by
  obtain ⟨pre, post, hms⟩ := List.append_of_mem hm
  exact ⟨past ++ pre, h pre m post hms⟩

end World.Answers

lemma Run.Course.play_eq {α : Type} {w : World} {past ms : List Moment} {r : Run α} {a : α}
    {s : Client} (h : Course r ms a s) (hw : w.Answers past ms) : r.play w past = (ms, a, s) := by
  induction h generalizing past with
  | done a s => rfl
  | @await call left abandon resume ms a s reply found _ ih =>
    have hh : (reply, found) = w past call left := hw.head
    simp only [play, ← hh, ih hw.tail]

def Task.Course {α : Type} (t : Task α) (s : Client) (ms : List Moment) (a : α) (s' : Client) :
    Prop :=
  Run.Course (t s) ms a s'

namespace Task

variable {α β : Type} {s s' : Client} {ms : List Moment}

lemma course_pure {a b : α} : Course (pure a : Task α) s ms b s' ↔ ms = [] ∧ b = a ∧ s' = s := by
  constructor
  · intro h
    cases h
    exact ⟨rfl, rfl, rfl⟩
  · rintro ⟨rfl, rfl, rfl⟩
    exact .done _ _

lemma course_bind {t : Task α} {f : α → Task β} {b : β} :
    Course (t >>= f) s ms b s' ↔
      ∃ ms₁ a s₁ ms₂, ms = ms₁ ++ ms₂ ∧ Course t s ms₁ a s₁ ∧ Course (f a) s₁ ms₂ b s' :=
  Run.course_bind

lemma course_map {t : Task α} {f : α → β} {b : β} :
    Course (f <$> t) s ms b s' ↔ ∃ a, b = f a ∧ Course t s ms a s' := by
  have hb : Course (f <$> t) s ms b s' ↔ _ := course_bind (t := t) (f := fun a => pure (f a))
  rw [hb]
  constructor
  · rintro ⟨ms₁, a, s₁, ms₂, rfl, h₁, h₂⟩
    obtain ⟨rfl, rfl, rfl⟩ := course_pure.1 h₂
    exact ⟨a, rfl, by rwa [List.append_nil]⟩
  · rintro ⟨a, rfl, h⟩
    exact ⟨ms, a, s', [], by simp, h, course_pure.2 ⟨rfl, rfl, rfl⟩⟩

lemma course_get {a : Client} : Course get s ms a s' ↔ ms = [] ∧ a = s ∧ s' = s :=
  course_pure (a := s)

lemma course_modify {f : Client → Client} {u : Unit} :
    Course (modify f) s ms u s' ↔ ms = [] ∧ s' = f s := by
  constructor
  · intro h
    cases h
    exact ⟨rfl, rfl⟩
  · rintro ⟨rfl, rfl⟩
    exact .done _ _

lemma course_callHolding {c : Call} {abandon : Client → Client} {a : c.Reply} :
    Course (callHolding c abandon) s ms a s' ↔ ms = [⟨c, s, a, s'⟩] := by
  constructor
  · intro h
    cases h with
    | await reply found h => cases h; rfl
  · rintro rfl
    exact .await _ _ (.done _ _)

lemma course_call {c : Call} {a : c.Reply} :
    Course (call c) s ms a s' ↔ ms = [⟨c, s, a, s'⟩] :=
  course_callHolding

end Task

def Action.Course {ε α : Type} (x : Action ε α) (s : Client) (ms : List Moment)
    (result : Except ε α) (s' : Client) : Prop :=
  Task.Course x s ms result s'

def Action.play {ε α : Type} (x : Action ε α) (w : World) (past : List Moment) (s : Client) :
    List Moment × Except ε α × Client :=
  Run.play w past (x.run s)

namespace Action

variable {ε δ α β : Type} {s s' : Client} {ms : List Moment}

lemma play_course (x : Action ε α) (w : World) (past : List Moment) (s : Client) :
    x.Course s (x.play w past s).1 (x.play w past s).2.1 (x.play w past s).2.2 :=
  Run.play_course w past (x.run s)

lemma play_answers (x : Action ε α) (w : World) (past : List Moment) (s : Client) :
    w.Answers past (x.play w past s).1 :=
  Run.play_answers w past (x.run s)

lemma Course.play_eq {x : Action ε α} {w : World} {past : List Moment} {result : Except ε α}
    (h : x.Course s ms result s') (hw : w.Answers past ms) :
    x.play w past s = (ms, result, s') :=
  Run.Course.play_eq h hw

lemma run_bind_of_ok {x : Action ε α} {f : α → Action ε β} {a : α}
    (h : x.run s = .done (.ok a) s') : (x >>= f).run s = (f a).run s' := by
  change (x.run s).bind (ExceptT.bindCont f) = _
  rw [h]
  rfl

lemma run_bind_of_error {x : Action ε α} {f : α → Action ε β} {e : ε}
    (h : x.run s = .done (.error e) s') : (x >>= f).run s = .done (.error e) s' := by
  change (x.run s).bind (ExceptT.bindCont f) = _
  rw [h]
  rfl

lemma run_ofExcept_bind {z : Except ε α} {f : α → Action ε β} {a : α} (h : z = .ok a) :
    (ofExcept z >>= f).run s = (f a).run s :=
  run_bind_of_ok (by rw [h]; rfl)

lemma run_lift_bind {t : Task α} {f : α → Action ε β} {a : α} (h : t s = .done a s') :
    ((liftM t : Action ε α) >>= f).run s = (f a).run s' := by
  refine run_bind_of_ok ?_
  change (t s).bind _ = _
  rw [h]
  rfl

lemma course_pure {a : α} {result : Except ε α} :
    Course (pure a : Action ε α) s ms result s' ↔ ms = [] ∧ result = .ok a ∧ s' = s :=
  Task.course_pure

lemma course_throw {e : ε} {result : Except ε α} :
    Course (throw e : Action ε α) s ms result s' ↔ ms = [] ∧ result = .error e ∧ s' = s :=
  Task.course_pure

lemma course_ofExcept {x result : Except ε α} :
    Course (ofExcept x) s ms result s' ↔ ms = [] ∧ result = x ∧ s' = s :=
  Task.course_pure

lemma course_bind {x : Action ε α} {f : α → Action ε β} {result : Except ε β} :
    Course (x >>= f) s ms result s' ↔
      (∃ e, result = .error e ∧ Course x s ms (.error e) s') ∨
      ∃ ms₁ a s₁ ms₂, ms = ms₁ ++ ms₂ ∧ Course x s ms₁ (.ok a) s₁ ∧
        Course (f a) s₁ ms₂ result s' := by
  have hb : Course (x >>= f) s ms result s' ↔ _ :=
    Task.course_bind (t := x) (f := ExceptT.bindCont f)
  rw [hb]
  constructor
  · rintro ⟨ms₁, y, s₁, ms₂, rfl, h₁, h₂⟩
    cases y with
    | error e =>
      obtain ⟨rfl, rfl, rfl⟩ := Task.course_pure.1 h₂
      exact .inl ⟨e, rfl, by rwa [List.append_nil]⟩
    | ok a => exact .inr ⟨ms₁, a, s₁, ms₂, rfl, h₁, h₂⟩
  · rintro (⟨e, rfl, h⟩ | ⟨ms₁, a, s₁, ms₂, rfl, h₁, h₂⟩)
    · exact ⟨ms, .error e, s', [], by simp, h, Task.course_pure.2 ⟨rfl, rfl, rfl⟩⟩
    · exact ⟨ms₁, .ok a, s₁, ms₂, rfl, h₁, h₂⟩

lemma course_bind_pure {x : Action ε α} {f : α → β} {result : Except ε β} :
    Course (x >>= fun a => pure (f a)) s ms result s' ↔
      ∃ y, result = y.map f ∧ Course x s ms y s' := by
  rw [course_bind]
  constructor
  · rintro (⟨e, rfl, h⟩ | ⟨ms₁, a, s₁, ms₂, rfl, h₁, h₂⟩)
    · exact ⟨.error e, rfl, h⟩
    · obtain ⟨rfl, rfl, rfl⟩ := course_pure.1 h₂
      exact ⟨.ok a, rfl, by rwa [List.append_nil]⟩
  · rintro ⟨y, rfl, h⟩
    cases y with
    | error e => exact .inl ⟨e, rfl, h⟩
    | ok a => exact .inr ⟨ms, a, s', [], by simp, h, course_pure.2 ⟨rfl, rfl, rfl⟩⟩

lemma course_lift {t : Task α} {result : Except ε α} :
    Course (liftM t : Action ε α) s ms result s' ↔ ∃ a, result = .ok a ∧ t.Course s ms a s' :=
  Task.course_map

lemma course_lift_bind {t : Task α} {f : α → Action ε β} {result : Except ε β} :
    Course ((liftM t : Action ε α) >>= f) s ms result s' ↔
      ∃ ms₁ a s₁ ms₂, ms = ms₁ ++ ms₂ ∧ t.Course s ms₁ a s₁ ∧ Course (f a) s₁ ms₂ result s' := by
  rw [course_bind]
  constructor
  · rintro (⟨e, rfl, h⟩ | ⟨ms₁, a, s₁, ms₂, rfl, h₁, h₂⟩)
    · obtain ⟨a, ha, -⟩ := course_lift.1 h
      cases ha
    · obtain ⟨a', ha, h₁⟩ := course_lift.1 h₁
      cases ha
      exact ⟨ms₁, a, s₁, ms₂, rfl, h₁, h₂⟩
  · rintro ⟨ms₁, a, s₁, ms₂, rfl, h₁, h₂⟩
    exact .inr ⟨ms₁, a, s₁, ms₂, rfl, course_lift.2 ⟨a, rfl, h₁⟩, h₂⟩

lemma course_modify_bind {g : Client → Client} {f : Unit → Action ε β} {result : Except ε β} :
    Course ((liftM (modify g : Task Unit) : Action ε Unit) >>= f) s ms result s' ↔
      Course (f ()) (g s) ms result s' := by
  rw [course_lift_bind]
  constructor
  · rintro ⟨ms₁, _, s₁, ms₂, rfl, h₁, h₂⟩
    obtain ⟨rfl, rfl⟩ := Task.course_modify.1 h₁
    exact h₂
  · intro h
    exact ⟨[], (), g s, ms, rfl, Task.course_modify.2 ⟨rfl, rfl⟩, h⟩

lemma course_get_bind {f : Client → Action ε β} {result : Except ε β} :
    Course ((get : Action ε Client) >>= f) s ms result s' ↔ Course (f s) s ms result s' := by
  have hb : Course ((get : Action ε Client) >>= f) s ms result s' ↔ _ :=
    course_lift_bind (t := get) (f := f)
  rw [hb]
  constructor
  · rintro ⟨ms₁, _, s₁, ms₂, rfl, h₁, h₂⟩
    obtain ⟨rfl, rfl, rfl⟩ := Task.course_get.1 h₁
    exact h₂
  · intro h
    exact ⟨[], s, s, ms, rfl, Task.course_get.2 ⟨rfl, rfl, rfl⟩, h⟩

lemma course_wait_bind {c : Call} {t : Task c.Reply}
    (ht : ∀ s ms a s', t.Course s ms a s' ↔ ms = [⟨c, s, a, s'⟩])
    {f : c.Reply → Action ε β} {result : Except ε β} :
    Course ((liftM t : Action ε c.Reply) >>= f) s ms result s' ↔
      ∃ reply found ms', ms = ⟨c, s, reply, found⟩ :: ms' ∧
        Course (f reply) found ms' result s' := by
  rw [course_lift_bind]
  constructor
  · rintro ⟨ms₁, reply, found, ms₂, rfl, h₁, h₂⟩
    obtain rfl := (ht _ _ _ _).1 h₁
    exact ⟨reply, found, ms₂, rfl, h₂⟩
  · rintro ⟨reply, found, ms', rfl, h⟩
    exact ⟨[_], reply, found, ms', rfl, (ht _ _ _ _).2 rfl, h⟩

lemma course_call_bind {c : Call} {f : c.Reply → Action ε β} {result : Except ε β} :
    Course ((liftM (Task.call c) : Action ε c.Reply) >>= f) s ms result s' ↔
      ∃ reply found ms', ms = ⟨c, s, reply, found⟩ :: ms' ∧
        Course (f reply) found ms' result s' :=
  course_wait_bind fun _ _ _ _ => Task.course_call

lemma course_callHolding_bind {c : Call} {abandon : Client → Client}
    {f : c.Reply → Action ε β} {result : Except ε β} :
    Course ((liftM (Task.callHolding c abandon) : Action ε c.Reply) >>= f) s ms result s' ↔
      ∃ reply found ms', ms = ⟨c, s, reply, found⟩ :: ms' ∧
        Course (f reply) found ms' result s' :=
  course_wait_bind fun _ _ _ _ => Task.course_callHolding

lemma course_adapt {f : ε → δ} {x : Action ε α} {result : Except δ α} :
    Course (ExceptT.adapt f x) s ms result s' ↔
      ∃ y, result = y.mapError f ∧ Course x s ms y s' :=
  Task.course_map

lemma course_outcome_bind {x : Action ε α} {f : Except ε α → Action δ β} {result : Except δ β} :
    Course (outcome x >>= f) s ms result s' ↔
      ∃ ms₁ y s₁ ms₂, ms = ms₁ ++ ms₂ ∧ Course x s ms₁ y s₁ ∧ Course (f y) s₁ ms₂ result s' :=
  course_lift_bind (t := x)

end Action

end LedgerClient
