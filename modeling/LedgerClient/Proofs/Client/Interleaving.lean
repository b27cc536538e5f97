import LedgerClient.Proofs.Client.Dealing
import LedgerClient.Proofs.Client.History
import LedgerClient.Proofs.Client.Sharing

/-! Tasks that use the nonces of one client at the same time. As long as an account is neither bound
nor forgotten, its allocations count from one base in the order in which they get hold of its slot. -/

namespace LedgerClient.Nonces

open Hand Pool

deriving instance DecidableEq for Use

section Definitions

variable {ι : Type}

def atDoor (a : Address) (p : Pool ι Outcome) (i : ι) : Bool :=
  match p.standing i with
  | .ready => true
  | .started (.await (.turn k) _ _ _) => k.account = a
  | _ => false

def nonce? (p : Pool ι Outcome) (i : ι) : Option Nonce :=
  match p.result? i with
  | some (.nonce n) => some n
  | _ => none

/-- Tasks that use the nonces, and what is seen of one account meanwhile: the allocations that got
hold of its slot, in this order, and what the node answered. -/
structure Traffic (ι : Type) where
  pool : Pool ι Outcome
  takers : List ι
  answers : List (Except NodeError AccountState)

namespace Traffic

variable [DecidableEq ι] (uses : ι → Use) (a : Address)

def taker? (p : Pool ι Outcome) : Happening ι → Option ι
  | .go i _ _ =>
    if uses i = .allocate a ∧ atDoor a p i ∧ (p.nonces.slot a).held = false then some i else none
  | .drop _ _ => none

def answer? (p : Pool ι Outcome) : Happening ι → Option (Except NodeError AccountState)
  | .go i _ replies =>
    match p.waits? i with
    | some (.readState b) => if b = a then some (replies (.readState b)) else none
    | _ => none
  | .drop _ _ => none

def step (t : Traffic ι) (h : Happening ι) : Traffic ι :=
  ⟨t.pool.step (fun i => (uses i).task) h, t.takers ++ (taker? uses a t.pool h).toList,
    t.answers ++ (answer? a t.pool h).toList⟩

def run (b : NonceBook) (hs : List (Happening ι)) : Traffic ι :=
  hs.foldl (step uses a) ⟨.start b, [], []⟩

def given (t : Traffic ι) : List Nonce := t.takers.filterMap (nonce? t.pool)

end Traffic

def Futile (answer : Except NodeError AccountState) : Prop :=
  ∀ state, answer = .ok state → state.nonce.next? = none

inductive Source : Option Nonce → List (Except NodeError AccountState) → Option Nonce → Prop
  | cached (base : Nonce) : Source (some base) [] (some base)
  | unknown {answers : List (Except NodeError AccountState)} (hf : ∀ x ∈ answers, Futile x) :
      Source none answers none
  | read {futile : List (Except NodeError AccountState)} {state : AccountState}
      (hf : ∀ x ∈ futile, Futile x) : Source none (futile ++ [.ok state]) (some state.nonce)

end Definitions

variable {ι : Type} {uses : ι → Use} {a : Address} {d : ℕ}

lemma atDoor_iff {p : Pool ι Outcome} {i : ι} :
    atDoor a p i ↔
      p.standing i = .ready ∨ ∃ k, p.waits? i = some (.turn k) ∧ k.account = a := by
  unfold atDoor waits?
  rcases p.standing i with _ | (_ | ⟨_ | _, _, _, _⟩) | _ <;> simp

lemma atDoor_put_of_ne [DecidableEq ι] {p : Pool ι Outcome} {i j : ι} {r : Run Outcome} (h : j ≠ i) :
    atDoor a (p.put i r) j = atDoor a p j := by
  simp [atDoor, Pool.put, Function.update_of_ne h]

inductive Asks (a : Address) (d : ℕ) (use : Use) : Hand → Call → Prop
  | turn (hu : use = .allocate a) : Asks a d use .eager (.turn ⟨a, d⟩)
  | read (hu : use = .allocate a) : Asks a d use .holding (.readState a)
  | other {call : Call} (hu : use ≠ .allocate a) (hc : call ≠ .readState a) :
      Asks a d use .apart call

lemma Asks.turn_cases {use : Use} {h : Hand} {k : SlotRef} (hasked : Asks a d use h (.turn k))
    (hu : use = .allocate a) : h = .eager ∧ k = ⟨a, d⟩ := by
  cases hasked with
  | turn => exact ⟨rfl, rfl⟩
  | other hne => exact absurd hu hne

inductive Ends (a : Address) (use : Use) : Hand → Outcome → Prop
  | given (hu : use = .allocate a) (n : Nonce) : Ends a use (.owning n) (.nonce n)
  | failed {h : Hand} (hu : use = .allocate a) (cause : NonceError) (hb : Barren h) :
      Ends a use h (.failed cause)
  | other {x : Outcome} (hu : use ≠ .allocate a) : Ends a use .apart x

lemma deals_allocation (s : Client) : (Use.allocate a).task.Deals ⟨a, d⟩ (Asks a d (.allocate a))
    (fun h x _ => Ends a (.allocate a) h x) .eager s := by
  refine Task.deals_map (m := fun h x _ => Ends a (.allocate a) h (.ofResult x)) ?_ fun _ _ _ h => h
  exact deals_allocate (k := ⟨a, d⟩) (.turn rfl) (.read rfl) (.given rfl) fun h cause _ =>
    .failed rfl cause

lemma spares_use {use : Use} (hu : use.address = a → use = .lastUsed a)
    {asks : Hand → Call → Prop} (hasks : ∀ call, call ≠ .readState a → asks .apart call) :
    Spares ⟨a, d⟩ asks .apart use.task := by
  by_cases hb : a = use.address
  · rw [hu hb.symm]
    exact (spares_lastUsed hasks a).map _
  cases use with
  | allocate b => exact (spares_allocate hasks hb).map _
  | bind b n => exact (spares_bind hasks hb n).map _
  | rebind state => exact (spares_bind hasks hb _).map _
  | rebindAndAllocate state => exact (spares_rebindAndAllocate hasks hb).map _
  | forget b => exact (spares_forget hb).map _
  | lastUsed b => exact (spares_lastUsed hasks b).map _

def terms (d : ℕ) (huses : ∀ i, (uses i).address = a → uses i = .allocate a ∨ uses i = .lastUsed a) :
    Terms ι Outcome where
  slot := ⟨a, d⟩
  job i := (uses i).task
  fits _ := True
  first i := if uses i = .allocate a then .eager else .apart
  asks i := Asks a d (uses i)
  post i h x _ := Ends a (uses i) h x
  deals i s _ := by
    by_cases hi : uses i = .allocate a
    · simp only [hi, if_true]
      exact deals_allocation s
    · simp only [hi, if_false]
      refine fun hk => (spares_use ?_ (fun _ => .other hi) s hk).mono ?_
      · exact fun h => (huses i h).resolve_left hi
      · rintro _ x _ rfl
        exact .other hi
  first_eq i := by
    split
    · exact .inl rfl
    · exact .inr rfl
  settled i n? call h := by cases h

def owned? : Hand → Option Nonce
  | .owning n => some n
  | _ => none

section Stretches

variable {h : Hand} {e : Option Slot} {epoch : Option Epoch}

lemma Epoch.Counts.take (hc : Counts (Option.getD e {}).last epoch) {e' : Option Slot}
    (hs : Stretch .eager e h e') :
    ∃ epoch', Counts (e'.getD {}).last epoch' ∧ epoch'.map (·.base) = epoch.map (·.base) ∧
      epoch'.elim [] (·.given) = epoch.elim [] (·.given) ++ (owned? h).toList := by
  cases hs with
  | still => exact ⟨epoch, hc, rfl, by simp [owned?]⟩
  | touch => exact ⟨epoch, hc, rfl, by simp [owned?]⟩
  | hold he =>
    rw [he] at hc
    exact ⟨epoch, hc, rfl, by simp [owned?]⟩
  | next hn =>
    cases epoch with
    | none => cases hc
    | some epoch => exact ⟨_, counts_further hc hn, rfl, rfl⟩

lemma Epoch.Counts.read {answer : Except NodeError AccountState} {e' : Option Slot}
    (hs : Stretch (.told (answer.toOption.map (·.nonce))) (some ⟨none, true⟩) h e')
    (hend : ∀ n?, h ≠ .told n?) (hbarren : ∀ n, h = .informed n → n.next? = none) :
    owned? h = none ∧ Counts (e'.getD {}).last none ∧ Futile answer ∨
      ∃ state n, answer = .ok state ∧ h = .owning n ∧
        Counts (e'.getD {}).last (some ⟨state.nonce, [n]⟩) := by
  generalize ha : answer.toOption.map (·.nonce) = n? at hs
  cases hs with
  | still => exact absurd rfl (hend n?)
  | release n? =>
    refine .inl ⟨by cases n? <;> rfl, rfl, ?_⟩
    rintro state rfl
    obtain rfl : some state.nonce = n? := ha
    exact hbarren _ rfl
  | seed hn =>
    cases answer with
    | error cause => cases ha
    | ok state =>
      obtain rfl := Option.some.inj ha
      exact .inr ⟨state, _, rfl, rfl, counts_first hn⟩

end Stretches

variable {huses : ∀ i, (uses i).address = a → uses i = .allocate a ∨ uses i = .lastUsed a}

structure Counting (d : ℕ)
    (huses : ∀ i, (uses i).address = a → uses i = .allocate a ∨ uses i = .lastUsed a)
    (known : Option Nonce) (hand : ι → Hand) (t : Traffic ι) : Prop where
  orderly : Orderly (terms d huses) hand t.pool
  nodup : t.takers.Nodup
  allocates (i : ι) : i ∈ t.takers → uses i = .allocate a
  through (i : ι) : i ∈ t.takers → ¬ atDoor a t.pool i
  taken (i : ι) : hand i = .holding ∨ (owned? (hand i)).isSome → i ∈ t.takers
  counts : ∃ epoch, Source known t.answers (epoch.map (·.base)) ∧
    Epoch.Counts (t.pool.nonces.slot a).last epoch ∧
      t.takers.filterMap (fun i => owned? (hand i)) = epoch.elim [] (·.given)

lemma Source.of_none {known : Option Nonce} {answers : List (Except NodeError AccountState)}
    (hs : Source known answers none) : known = none ∧ ∀ x ∈ answers, Futile x := by
  cases hs with
  | unknown hf => exact ⟨rfl, hf⟩

lemma filterMap_of_single {α β : Type} {f : α → Option β} {l : List α} {x : α} (hl : l.Nodup)
    (hx : x ∈ l) (hf : ∀ y ∈ l, y ≠ x → f y = none) : l.filterMap f = (f x).toList := by
  obtain ⟨l₁, l₂, rfl⟩ := List.append_of_mem hx
  have hnot : x ∉ l₁ ∧ x ∉ l₂ := by simpa using (List.nodup_middle.1 hl).notMem
  have h₁ : l₁.filterMap f = [] := List.filterMap_eq_nil_iff.2 fun y hy =>
    hf y (by simp [hy]) fun h => hnot.1 (h ▸ hy)
  have h₂ : l₂.filterMap f = [] := List.filterMap_eq_nil_iff.2 fun y hy =>
    hf y (by simp [hy]) fun h => hnot.2 (h ▸ hy)
  rw [List.filterMap_append, List.filterMap_cons, h₁]
  cases f x <;> simp [h₂]

lemma eq_of_nodup_filterMap {α β : Type} {f : α → Option β} {l : List α} {x y : α} {z : β}
    (hl : (l.filterMap f).Nodup) (hx : x ∈ l) (hy : y ∈ l) (hfx : f x = some z)
    (hfy : f y = some z) : x = y := by
  have hs : Std.Symm fun x y => ∀ u, f x = some u → ∀ v, f y = some v → u ≠ v :=
    ⟨fun x y h u hu v hv => (h v hv u hu).symm⟩
  by_contra hne
  exact (List.pairwise_filterMap.1 hl).forall hx hy hne z hfx z hfy rfl

lemma hand_cases {hand : ι → Hand} {p : Pool ι Outcome} (ho : Orderly (terms d huses) hand p) {i : ι}
    (hi : uses i = .allocate a) :
    nonce? p i = owned? (hand i) ∧
      (hand i = .holding ∨ (∃ n, hand i = .owning n) ∨ Barren (hand i)) := by
  have hb := ho.backs i
  cases hs : p.standing i with
  | ready =>
    have hh : hand i = if uses i = .allocate a then .eager else .apart := by rwa [hs] at hb
    rw [hh, if_pos hi]
    exact ⟨by simp [nonce?, result?, hs, owned?], .inr (.inr .eager)⟩
  | dropped =>
    have hh : hand i = .apart := by rwa [hs] at hb
    rw [hh]
    exact ⟨by simp [nonce?, result?, hs, owned?], .inr (.inr .apart)⟩
  | started run =>
    rw [hs] at hb
    cases run with
    | done x s =>
      obtain ⟨_, hends⟩ : ∃ _ : Option Slot, Ends a (uses i) (hand i) x := hb
      generalize hand i = h at hends ⊢
      cases hends with
      | given hu n => exact ⟨by simp [nonce?, result?, hs, owned?], .inr (.inl ⟨n, rfl⟩)⟩
      | failed hu cause hb =>
        exact ⟨by cases hb <;> simp [nonce?, result?, hs, owned?], .inr (.inr hb)⟩
      | other hu => exact absurd hi hu
    | await call left abandon resume =>
      have hasked : Asks a d (uses i) (hand i) call := hb.1
      generalize hand i = h at hasked ⊢
      cases hasked with
      | turn hu => exact ⟨by simp [nonce?, result?, hs, owned?], .inr (.inr .eager)⟩
      | read hu => exact ⟨by simp [nonce?, result?, hs, owned?], .inl rfl⟩
      | other hu hc => exact absurd hi hu

lemma hand_settled {hand : ι → Hand} {p : Pool ι Outcome} (ho : Orderly (terms d huses) hand p) {i : ι}
    (hi : uses i = .allocate a) :
    (∀ n?, hand i ≠ .told n?) ∧ ∀ n, hand i = .informed n → n.next? = none := by
  have hcases := (hand_cases ho hi).2
  refine ⟨fun n? hh => ?_, fun n hh => ?_⟩ <;> rw [hh] at hcases
  · rcases hcases with hc | ⟨n, hc⟩ | hc <;> cases hc
  · rcases hcases with hc | ⟨n, hc⟩ | ⟨_ | _ | hn⟩
    · cases hc
    · cases hc
    · exact hn

inductive Enters (uses : ι → Use) (a : Address) (p : Pool ι Outcome) (i : ι) (replies : Replies) :
    Hand → Hand → Option (Except NodeError AccountState) → Prop
  | apart (hi : uses i ≠ .allocate a) : Enters uses a p i replies .apart .apart none
  | eager (hi : uses i = .allocate a) (hd : atDoor a p i) :
      Enters uses a p i replies .eager .eager none
  | answered (hi : uses i = .allocate a) (hd : ¬ atDoor a p i) :
      Enters uses a p i replies .holding
        (.told ((replies (.readState a)).toOption.map (·.nonce))) (some (replies (.readState a)))

lemma enters {hand : ι → Hand} {p : Pool ι Outcome} (ho : Orderly (terms d huses) hand p) {i : ι}
    (rest : Client) {replies : Replies} {h : Hand} (hg : Goes (terms d huses) hand p i replies h) :
    Enters uses a p i replies (hand i) h (Traffic.answer? a p (.go i rest replies)) := by
  cases hg with
  | begins ready =>
    have hb := ho.backs i
    rw [ready] at hb
    have hh : hand i = if uses i = .allocate a then .eager else .apart := hb
    have hanswer : Traffic.answer? a p (.go i rest replies) = none := by
      simp [Traffic.answer?, waits?, ready]
    rw [hanswer, hh]
    split
    · exact .eager ‹_› (atDoor_iff.2 (.inl ready))
    · exact .apart ‹_›
  | resumes waiting free asked =>
    rename_i call
    have hasked : Asks a d (uses i) (hand i) call := asked
    have hready : p.standing i ≠ .ready := fun hr => by simp [waits?, hr] at waiting
    generalize hand i = h at hasked ⊢
    cases hasked with
    | turn hu =>
      simp only [Traffic.answer?, waiting]
      exact .eager hu (atDoor_iff.2 (.inr ⟨_, waiting, rfl⟩))
    | read hu =>
      simp only [Traffic.answer?, waiting, if_true]
      refine .answered hu fun hd => ?_
      have hw := (atDoor_iff.1 hd).resolve_left hready
      simp [waiting] at hw
    | other hu hc =>
      have hanswer : Traffic.answer? a p (.go i rest replies) = none := by
        cases call with
        | readState b =>
          have hb : b ≠ a := fun hb => hc (by rw [hb])
          simp [Traffic.answer?, waiting, hb]
        | _ => simp [Traffic.answer?, waiting]
      rw [hanswer]
      cases call <;> exact .apart hu

namespace Counting

variable {known : Option Nonce} {hand : ι → Hand} {t : Traffic ι} {i : ι} {h' : Hand}
  {r : Run Outcome} {rest : Client} {replies : Replies}

lemma keep (hc : Counting d huses known hand t) {hand' : ι → Hand} {q : Pool ι Outcome}
    (ho : Orderly (terms d huses) hand' q) (hdoor : ∀ j ∈ t.takers, atDoor a q j → atDoor a t.pool j)
    (howned : ∀ j, owned? (hand' j) = owned? (hand j))
    (hholding : ∀ j, hand' j = .holding → hand j = .holding)
    (hl : (q.nonces.slot a).last = (t.pool.nonces.slot a).last) :
    Counting d huses known hand' ⟨q, t.takers, t.answers⟩ where
  orderly := ho
  nodup := hc.nodup
  allocates := hc.allocates
  through j hj hd := hc.through j hj (hdoor j hj hd)
  taken j hj := hc.taken j (hj.imp (hholding j) fun h => by rwa [howned j] at h)
  counts := by
    simp only [howned, hl]
    exact hc.counts

lemma taker?_of_stuck (ho : Orderly (terms d huses) hand t.pool) (hstuck : t.pool.Stuck i) :
    Traffic.taker? uses a t.pool (.go i rest replies) = none := by
  refine if_neg fun ⟨hi, hdoor, hfree⟩ => ?_
  obtain ⟨k, hw, -⟩ := (atDoor_iff.1 hdoor).resolve_left hstuck.1
  have hasked : Asks a d (uses i) (hand i) (.turn k) := ho.backs_waiting hw
  obtain ⟨-, rfl⟩ := hasked.turn_cases hi
  have hheld : (t.pool.nonces.find ⟨a, d⟩).held = true := hstuck.2 _ hw
  rw [show t.pool.nonces.find ⟨a, d⟩ = t.pool.nonces.slot a from ho.current.find_eq, hfree] at hheld
  cases hheld

lemma answer?_of_stuck (hstuck : t.pool.Stuck i) :
    Traffic.answer? a t.pool (.go i rest replies) = none := by
  cases hw : t.pool.waits? i with
  | none => simp [Traffic.answer?, hw]
  | some call =>
    cases call with
    | turn b => simp [Traffic.answer?, hw]
    | _ => cases hstuck.2 _ hw

variable [DecidableEq ι]

lemma pass (hc : Counting d huses known hand t) (hi : i ∉ t.takers) (hh : hand i = h')
    (ho : Orderly (terms d huses) (Function.update hand i h') (t.pool.put i r))
    (hl : ((t.pool.put i r).nonces.slot a).last = (t.pool.nonces.slot a).last) :
    Counting d huses known (Function.update hand i h') ⟨t.pool.put i r, t.takers, t.answers⟩ := by
  have hsame : Function.update hand i h' = hand := by rw [← hh, Function.update_eq_self]
  rw [hsame] at ho ⊢
  refine hc.keep ho (fun j hj => ?_) (fun _ => rfl) (fun _ => id) hl
  rw [atDoor_put_of_ne fun h : j = i => hi (h ▸ hj)]
  exact id

lemma take (hc : Counting d huses known hand t) (hi : uses i = .allocate a) (hnew : i ∉ t.takers)
    (ho : Orderly (terms d huses) (Function.update hand i h') (t.pool.put i r))
    (hs : Stretch .eager (t.pool.nonces.get? a) h' ((t.pool.put i r).nonces.get? a))
    (hdoor : ¬ atDoor a (t.pool.put i r) i) :
    Counting d huses known (Function.update hand i h')
      ⟨t.pool.put i r, t.takers ++ [i], t.answers⟩ := by
  have hne (j : ι) (hj : j ∈ t.takers) : j ≠ i := fun h => hnew (h ▸ hj)
  refine ⟨ho, ?_, ?_, ?_, ?_, ?_⟩
  · exact List.nodup_append.2 ⟨hc.nodup, List.nodup_singleton i, by simpa using hne⟩
  · intro j hj
    rcases List.mem_append.1 hj with hj | hj
    · exact hc.allocates j hj
    · rwa [List.mem_singleton.1 hj]
  · intro j hj
    rcases List.mem_append.1 hj with hj | hj
    · rw [atDoor_put_of_ne (hne j hj)]
      exact hc.through j hj
    · rwa [List.mem_singleton.1 hj]
  · intro j hj
    by_cases hji : j = i
    · simp [hji]
    · rw [Function.update_of_ne hji] at hj
      exact List.mem_append_left _ (hc.taken j hj)
  · obtain ⟨epoch, hsource, hcounts, hgiven⟩ := hc.counts
    obtain ⟨epoch', hcounts', hbase, hgiven'⟩ := Epoch.Counts.take hcounts hs
    refine ⟨epoch', hbase ▸ hsource, hcounts', ?_⟩
    have hold : t.takers.filterMap (fun j => owned? (Function.update hand i h' j)) =
        t.takers.filterMap fun j => owned? (hand j) :=
      List.filterMap_congr fun j hj => by rw [Function.update_of_ne (hne j hj)]
    rw [List.filterMap_append, hold, hgiven, hgiven']
    cases hn : owned? h' <;> simp [hn]

lemma read (hc : Counting d huses known hand t) (hh : hand i = .holding)
    (ho : Orderly (terms d huses) (Function.update hand i h') (t.pool.put i r))
    {answer : Except NodeError AccountState}
    (hs : Stretch (.told (answer.toOption.map (·.nonce))) (t.pool.nonces.get? a) h'
      ((t.pool.put i r).nonces.get? a))
    (hend : ∀ n?, h' ≠ .told n?) (hbarren : ∀ n, h' = .informed n → n.next? = none)
    (hdoor : ¬ atDoor a (t.pool.put i r) i) :
    Counting d huses known (Function.update hand i h')
      ⟨t.pool.put i r, t.takers, t.answers ++ [answer]⟩ := by
  have hi : i ∈ t.takers := hc.taken i (.inl hh)
  have hheld : t.pool.nonces.get? a = some ⟨none, true⟩ := hc.orderly.held i hh
  obtain ⟨epoch, hsource, hcounts, hgiven⟩ := hc.counts
  -- While the slot is held nothing has been handed out.
  obtain rfl : epoch = none := by
    cases epoch with
    | none => rfl
    | some epoch =>
      obtain ⟨-, n, hn, -⟩ := hcounts
      simp [NonceBook.slot, hheld] at hn
  have hnone (j : ι) (hj : j ∈ t.takers) (hji : j ≠ i) :
      owned? (Function.update hand i h' j) = none := by
    rw [Function.update_of_ne hji]
    exact List.filterMap_eq_nil_iff.1 hgiven j hj
  have hgiven' := filterMap_of_single hc.nodup hi hnone
  rw [Function.update_self] at hgiven'
  refine ⟨ho, hc.nodup, hc.allocates, ?_, ?_, ?_⟩
  · intro j hj
    by_cases hji : j = i
    · rwa [hji]
    · rw [atDoor_put_of_ne hji]
      exact hc.through j hj
  · intro j hj
    by_cases hji : j = i
    · rwa [hji]
    · rw [Function.update_of_ne hji] at hj
      exact hc.taken j hj
  · rw [hheld] at hs
    obtain ⟨rfl, hf⟩ := hsource.of_none
    rcases Epoch.Counts.read hs hend hbarren with ⟨ho, hl, hfut⟩ | ⟨state, n, rfl, rfl, hl⟩
    · refine ⟨none, .unknown ?_, hl, by simp [hgiven', ho]⟩
      simpa [or_imp, forall_and] using ⟨hf, hfut⟩
    · exact ⟨_, .read hf, hl, hgiven'⟩

lemma not_atDoor_put {h : Hand} (hi : uses i = .allocate a)
    (ho : Orderly (terms d huses) (Function.update hand i h') (t.pool.put i r))
    (hs : Stretch h (t.pool.nonces.get? a) h' ((t.pool.put i r).nonces.get? a))
    (hturn : r.call? = some (.turn ⟨a, d⟩) →
      ∃ last, (t.pool.put i r).nonces.get? a = some ⟨last, true⟩)
    (hfree : h = .eager → (t.pool.nonces.slot a).held = false) : ¬ atDoor a (t.pool.put i r) i := by
  intro hd
  obtain ⟨k, hw, -⟩ := (atDoor_iff.1 hd).resolve_left (by simp [Pool.put])
  have hasked : Asks a d (uses i) (Function.update hand i h' i) (.turn k) := ho.backs_waiting hw
  rw [Function.update_self] at hasked
  obtain ⟨heager, rfl⟩ := hasked.turn_cases hi
  obtain ⟨hh, hkept⟩ := hs.to_eager heager
  obtain ⟨last, hlast⟩ := hturn (waits?_put_self.symm.trans hw)
  have hheld : (t.pool.nonces.slot a).held = true := by
    rw [NonceBook.slot, ← hkept, hlast]
    rfl
  rw [hfree hh] at hheld
  cases hheld

lemma arrive (hc : Counting d huses known hand t) (hi : uses i = .allocate a) (hd : atDoor a t.pool i)
    (hh : hand i = .eager)
    (ho : Orderly (terms d huses) (Function.update hand i h') (t.pool.put i r))
    (hs : Stretch .eager (t.pool.nonces.get? a) h' ((t.pool.put i r).nonces.get? a))
    (hdoor : (t.pool.nonces.slot a).held = false → ¬ atDoor a (t.pool.put i r) i) :
    Counting d huses known (Function.update hand i h')
      ⟨t.pool.put i r, t.takers ++ (Traffic.taker? uses a t.pool (.go i rest replies)).toList,
        t.answers⟩ := by
  have hnew : i ∉ t.takers := fun hmem => hc.through i hmem hd
  cases hheld : (t.pool.nonces.slot a).held with
  | true =>
    -- The task waits on, and the entry is as it was.
    have htaker : Traffic.taker? uses a t.pool (.go i rest replies) = none :=
      if_neg (by simp [hheld])
    obtain ⟨rfl, he⟩ := hs.of_eager_held hheld
    have hl : ((t.pool.put i r).nonces.slot a).last = (t.pool.nonces.slot a).last := by
      rw [NonceBook.slot, he, NonceBook.slot]
    rw [htaker]
    simpa using hc.pass hnew hh ho hl
  | false =>
    have htaker : Traffic.taker? uses a t.pool (.go i rest replies) = some i :=
      if_pos ⟨hi, hd, hheld⟩
    rw [htaker]
    exact hc.take hi hnew ho hs (hdoor hheld)

lemma go (hc : Counting d huses known hand t) (i : ι) (rest : Client) (replies : Replies) :
    ∃ hand', Counting d huses known hand' (t.step uses a (.go i rest replies)) := by
  have hhonest (call : Call) (hw : t.pool.waits? i = some call) (hh : hand i = .sent) :
      call.Honest (replies call) := by
    have hasked : Asks a d (uses i) (hand i) call := hc.orderly.backs_waiting hw
    rw [hh] at hasked
    cases hasked
  rcases hc.orderly.go rest (fun _ => trivial) hhonest with
    ⟨hstuck, he⟩ | ⟨h, h', r, he, hg, ho, hs, hturn⟩
  · refine ⟨hand, ?_⟩
    rw [Traffic.step, taker?_of_stuck hc.orderly hstuck, answer?_of_stuck hstuck]
    have he' : t.pool.step (fun i => (uses i).task) (.go i rest replies) = t.pool := he
    simpa [he'] using hc
  have hent := enters hc.orderly rest hg
  have hs' : Stretch h (t.pool.nonces.get? a) h' ((t.pool.put i r).nonces.get? a) := hs
  have hdoor (hi : uses i = .allocate a) (hfree : h = .eager → (t.pool.nonces.slot a).held = false) :
      ¬ atDoor a (t.pool.put i r) i := not_atDoor_put hi ho hs' hturn hfree
  rw [Traffic.step, show t.pool.step (fun i => (uses i).task) (.go i rest replies) = _ from he]
  refine ⟨Function.update hand i h', ?_⟩
  generalize hx : Traffic.answer? a t.pool (.go i rest replies) = x at hent ⊢
  generalize hh : hand i = g at hent
  cases hent with
  | apart hi =>
    have htaker : Traffic.taker? uses a t.pool (.go i rest replies) = none := if_neg (by simp [hi])
    obtain ⟨rfl, hl⟩ := hs'.of_apart
    rw [htaker]
    simpa using hc.pass (fun hmem => hi (hc.allocates i hmem)) hh ho hl
  | eager hi hd => simpa using hc.arrive hi hd hh ho hs' fun hheld => hdoor hi fun _ => hheld
  | answered hi hd =>
    have htaker : Traffic.taker? uses a t.pool (.go i rest replies) = none := if_neg (by simp [hd])
    rw [htaker]
    have hsettled := hand_settled ho hi
    rw [Function.update_self] at hsettled
    simpa using hc.read hh ho hs' hsettled.1 hsettled.2 (hdoor hi fun h => by cases h)

lemma drop (hc : Counting d huses known hand t) (i : ι) (rest : Client) :
    ∃ hand', Counting d huses known hand' (t.step uses a (.drop i rest)) := by
  have hstep : t.step uses a (.drop i rest) =
      ⟨t.pool.step (fun i => (uses i).task) (.drop i rest), t.takers, t.answers⟩ := by
    simp [Traffic.step, Traffic.taker?, Traffic.answer?]
  rw [hstep]
  rcases hc.orderly.drop (i := i) rest with he | ⟨b, he, hfirst, ho, hentry⟩
  · rw [show t.pool.step (fun i => (uses i).task) (.drop i rest) = t.pool from he]
    exact ⟨hand, hc⟩
  rw [show t.pool.step (fun i => (uses i).task) (.drop i rest) = t.pool.quit i b from he]
  -- Whoever has been given a nonce has come to an end, and cannot be dropped any more.
  have hnone : owned? (hand i) = none := by
    rcases hfirst with hf | ⟨call, hf⟩
    · have hh : hand i = if uses i = .allocate a then .eager else .apart := hf
      rw [hh]
      split <;> rfl
    · have hasked : Asks a d (uses i) (hand i) call := hf
      generalize hand i = h at hasked ⊢
      cases hasked <;> rfl
  refine ⟨Function.update hand i .apart, hc.keep ho ?_ ?_ ?_ ?_⟩
  · intro j hj hd
    by_cases hji : j = i
    · simp [atDoor, Pool.quit, hji] at hd
    · simpa [atDoor, Pool.quit, Function.update_of_ne hji] using hd
  · intro j
    by_cases hji : j = i
    · rw [hji, Function.update_self, hnone]
      rfl
    · rw [Function.update_of_ne hji]
  · intro j hj
    rcases of_update hj with ⟨-, hj⟩ | ⟨-, hj⟩
    · cases hj
    · exact hj
  · have hl := congrArg (fun e => (Option.getD e {}).last) hentry
    exact hl.trans (last_leave _ _)

lemma step (hc : Counting d huses known hand t) (happening : Happening ι) :
    ∃ hand', Counting d huses known hand' (t.step uses a happening) :=
  match happening with
  | .go i rest replies => hc.go i rest replies
  | .drop i rest => hc.drop i rest

lemma run (hc : Counting d huses known hand t) (hs : List (Happening ι)) :
    ∃ hand', Counting d huses known hand' (hs.foldl (Traffic.step uses a) t) := by
  induction hs generalizing hand t with
  | nil => exact ⟨hand, hc⟩
  | cons happening hs ih =>
    obtain ⟨hand', hc'⟩ := hc.step happening
    exact ih hc'

end Counting

variable (huses) in
lemma counting_start (b : NonceBook) :
    Counting (b.ref a).index huses (b.slot a).last (terms (b.ref a).index huses).first
      ⟨.start b, [], []⟩ where
  orderly := orderly_start NonceBook.current_ref
  nodup := List.nodup_nil
  allocates _ h := by cases h
  through _ h := by cases h
  taken i h := by
    have hh : (terms (b.ref a).index huses).first i =
        if uses i = .allocate a then .eager else .apart := rfl
    rw [hh] at h
    split at h <;> rcases h with h | h <;> cases h
  counts := by
    cases hb : (b.slot a).last with
    | none => exact ⟨none, .unknown (by simp), hb, rfl⟩
    | some n => exact ⟨some ⟨n, []⟩, .cached n, by simpa [start, hb] using Epoch.counts_bound n, rfl⟩

/-- However the uses of the nonces take turns, fail and are dropped: no nonce of an account is handed
out twice, and in the order in which its slot was taken they are the ones after a single base. -/
theorem allocations_interleaved {ι : Type} [DecidableEq ι] (uses : ι → Use) (a : Address)
    (huses : ∀ i, (uses i).address = a → uses i = .allocate a ∨ uses i = .lastUsed a)
    (b : NonceBook) (hs : List (Happening ι)) :
    let t := Traffic.run uses a b hs
    t.takers.Nodup ∧
      (∀ i n, uses i = .allocate a → nonce? t.pool i = some n → i ∈ t.takers) ∧
      (∀ i j n, uses i = .allocate a → uses j = .allocate a →
        nonce? t.pool i = some n → nonce? t.pool j = some n → i = j) ∧
      ∃ base, Source (b.slot a).last t.answers base ∧
        t.given.map (·.toNat) =
          base.elim [] fun base => List.range' (base.toNat + 1) t.given.length := by
  intro t
  obtain ⟨hand, hc⟩ := (counting_start huses b).run hs
  have hnonce (i : ι) (hi : uses i = .allocate a) : nonce? t.pool i = owned? (hand i) :=
    (hand_cases hc.orderly hi).1
  have htaken (i : ι) (n : Nonce) (hi : uses i = .allocate a) (hn : nonce? t.pool i = some n) :
      i ∈ t.takers := hc.taken i (.inr (by rw [← hnonce i hi, hn]; rfl))
  obtain ⟨epoch, hsource, hcounts, hgiven⟩ := hc.counts
  have hgiven' : t.given = epoch.elim [] (·.given) :=
    (List.filterMap_congr fun i hi => hnonce i (hc.allocates i hi)).trans hgiven
  have hrange : t.given.map (·.toNat) = (epoch.map (·.base)).elim [] fun base =>
      List.range' (base.toNat + 1) t.given.length := by
    cases epoch with
    | none => simp [hgiven']
    | some epoch =>
      have hconsecutive : epoch.given.map (·.toNat) = _ := hcounts.1
      simpa [hgiven'] using hconsecutive
  refine ⟨hc.nodup, htaken, ?_, _, hsource, hrange⟩
  intro i j n hi hj hin hjn
  have hdistinct : t.given.Nodup := by
    refine List.Nodup.of_map (·.toNat) ?_
    rw [hrange]
    cases epoch with
    | none => exact List.nodup_nil
    | some epoch => exact List.nodup_range'
  exact eq_of_nodup_filterMap hdistinct (htaken i n hi hin) (htaken j n hj hjn) hin hjn

theorem allocations_interleaved_dropped :
    let a : Address := ⟨Curve.Point.base⟩
    let rest : Client := .start (.remote ⟨none⟩) none
    let replies : Replies := fun
      | .readState _ => .ok ⟨a, 41, 0⟩
      | call => call.silence
    let t := Traffic.run (fun _ : Bool => Use.allocate a) a .empty
      [.go false rest replies, .go true rest replies, .drop false rest, .go true rest replies,
        .go true rest replies]
    t.given = [42] ∧
      ∃ base, Source none t.answers base ∧
        t.given.map (·.toNat) =
          base.elim [] fun base => List.range' (base.toNat + 1) t.given.length :=
  ⟨by decide +kernel,
    (allocations_interleaved (fun _ => .allocate ⟨Curve.Point.base⟩) _ (fun _ _ => .inl rfl) .empty
      _).2.2.2⟩

end LedgerClient.Nonces
