import LedgerClient.Proofs.Node.Ledger
import LedgerClient.Proofs.Submission.Sender

/-! Sends that nothing comes in between. Between two of them anybody may spend nonces of the account,
so that what the client remembers may be anywhere with respect to what is spent. -/

namespace LedgerClient

inductive Deed where
  | submitted (tx : SignedTransaction)
  | slept (span : Duration)

def Moment.deed? (m : Moment) : Option Deed :=
  match m.call with
  | .submit tx => some (.submitted tx)
  | .sleep span => some (.slept span)
  | _ => none

def deeds (ms : List Moment) : List Deed := ms.filterMap Moment.deed?

@[simp] lemma deeds_append (ms ms' : List Moment) : deeds (ms ++ ms') = deeds ms ++ deeds ms' :=
  List.filterMap_append ..

namespace Node

def heed (l : Ledger) : Deed → Ledger
  | .submitted tx => commit l tx
  | .slept _ => l

def after (l : Ledger) (ms : List Moment) : Ledger := (deeds ms).foldl heed l

def world (node : Node) (custody : Custody) (l : Ledger) : World := fun past call s =>
  (node.replies (after l past) custody call,
    match call with
    | .sleep span => { s with clock := s.clock + span.ticks }
    | _ => s)

variable {l : Ledger} {ms ms' : List Moment}

lemma after_append : after l (ms ++ ms') = after (after l ms) ms' := by
  simp [after, List.foldl_append]

lemma after_of_none (h : deeds ms = []) : after l ms = l := by
  rw [after, h]
  rfl

end Node

structure View where
  signer : Signer
  slot : Slot
  rebinds : Option ℕ

namespace Client

variable (a : Address) (s : Client)

def view : View := ⟨s.signer, s.nonces.slot a, s.metrics.map (·.rebinds)⟩

@[simp] lemma view_attempted : s.attempted.view a = s.view a := by
  simp [view, attempted, mapMetrics, Function.comp_def]

@[simp] lemma view_conflicted (cause : ClientError) : (s.conflicted cause).view a = s.view a := by
  unfold conflicted
  split
  · simp [view, mapMetrics, Function.comp_def]
  · rfl

@[simp] lemma view_rebound :
    s.rebound.view a = { s.view a with rebinds := (s.view a).rebinds.map (· + 1) } := by
  simp [view, rebound, mapMetrics, Function.comp_def]

@[simp] lemma view_finished (began : ℕ) (result : Except ClientError TxHash) :
    (s.finished began result).view a = s.view a := by
  have hr (m : Metrics) (ok : Bool) (x : Float) : (m.finish ok x).rebinds = m.rebinds := by
    unfold Metrics.finish
    split <;> rfl
  simp [view, finished, mapMetrics, Function.comp_def, hr]

end Client

variable {node : Node} {custody : Custody} {l : Ledger} {past ms : List Moment} {s s' : Client}
  {a : Address} {k : SlotRef} {base n : Nonce}

lemma view_world (call : Call) : (node.world custody l past call s).2.view a = s.view a := by
  have hclock (t : ℕ) : Client.view a { s with clock := t } = s.view a := rfl
  cases call with
  | sleep span => exact hclock (s.clock + span.ticks)
  | _ => rfl

lemma view_found {m : Moment} (h : (node.world custody l).Answers past (m :: ms)) :
    m.found.view a = m.left.view a := by
  have hf : m.found = _ := congrArg Prod.snd h.head
  rw [hf, view_world]

namespace Nonces

lemma advance_alone {result : Except NonceError Nonce} (hk : s.nonces.Has k)
    (hfree : (s.view k.account).slot.held = false) (hn : base.next? = some n)
    (h : (advance k base).Course s ms result s') :
    ms = [] ∧ result = .ok n ∧
      s'.view k.account = { s.view k.account with slot := ⟨some n, false⟩ } := by
  obtain ⟨rfl, ⟨hnone, -, -⟩ | ⟨n', hn', rfl, rfl⟩⟩ := course_advance.1 h
  · rw [hn] at hnone
    cases hnone
  obtain rfl := Option.some.inj (hn'.symm.trans hn)
  refine ⟨rfl, rfl, ?_⟩
  have hput := hk.slot_update (f := fun slot => { slot with last := some n' })
  have hfree' : (s.nonces.slot k.account).held = false := hfree
  rw [hfree'] at hput
  exact congrArg (fun slot => View.mk s.signer slot (s.metrics.map (·.rebinds))) hput

lemma acquire_alone (hfree : (s.view a).slot.held = false)
    (h : Task.Course (acquire a) s ms k s') :
    k.account = a ∧ ms = [] ∧ s'.nonces.Has k ∧ s'.view a = s.view a := by
  rcases course_acquire.1 h with ⟨rfl, ⟨-, rfl, rfl⟩ | ⟨hheld, -⟩⟩
  · refine ⟨rfl, rfl, NonceBook.has_touched, ?_⟩
    exact congrArg (fun slot => View.mk s.signer slot (s.metrics.map (·.rebinds)))
      (NonceBook.slot_touch _)
  · rw [show (s.nonces.slot a).held = false from hfree] at hheld
    cases hheld

lemma seed_alone {result : Except NonceError Nonce} (hk : s.nonces.Has k)
    (hfree : (s.view k.account).slot.held = false) (h : (seed k).Course s ms result s')
    (ha : (node.world custody l).Answers past ms) :
    result = .ok ((Node.after l past).told k.account) ∧ deeds ms = [] ∧
      s'.nonces.Has k ∧ s'.view k.account = s.view k.account := by
  obtain ⟨reply, found, rfl, rfl, rfl⟩ := course_seed.1 h
  have hr : (reply, found) =
      (.ok (node.state (Node.after l past) k.account), s.mapNonces (·.hold k)) := ha.head
  obtain ⟨rfl, rfl⟩ := Prod.mk.inj hr
  have hheld : (s.nonces.hold k).Has k := hk.update
  refine ⟨rfl, rfl, hheld.update, ?_⟩
  have hslot : ((s.nonces.hold k).release k).slot k.account = s.nonces.slot k.account := by
    have hfree' : (s.nonces.slot k.account).held = false := hfree
    refine hheld.slot_update.trans ?_
    rw [NonceBook.hold, hk.slot_update, ← hfree']
  exact congrArg (fun slot => View.mk s.signer slot (s.metrics.map (·.rebinds))) hslot

lemma allocate_alone {result : Except NonceError Nonce} (hfree : (s.view a).slot.held = false)
    (hn : ((s.view a).slot.last.getD ((Node.after l past).told a)).next? = some n)
    (h : (allocate a).Course s ms result s') (ha : (node.world custody l).Answers past ms) :
    result = .ok n ∧ deeds ms = [] ∧ s'.view a = { s.view a with slot := ⟨some n, false⟩ } := by
  obtain ⟨k, ms₁, s₁, ms₂, rfl, h₁, h₂⟩ := course_allocate.1 h
  obtain ⟨rfl, rfl, hk, hv⟩ := acquire_alone hfree h₁
  rw [← hv] at hfree hn ⊢
  rw [List.nil_append] at ha ⊢
  rw [show s₁.nonces.find k = (s₁.view k.account).slot from hk.1.find_eq] at h₂
  rcases h₂ with ⟨base, hl, h₂⟩ | ⟨hl, h₂⟩
  · rw [hl] at hn
    obtain ⟨rfl, rfl, hv'⟩ := advance_alone hk hfree hn h₂
    exact ⟨rfl, rfl, hv'⟩
  rw [hl] at hn
  rcases Action.course_bind.1 h₂ with ⟨e, rfl, h₃⟩ | ⟨ms₃, base, s₂, ms₄, rfl, h₃, h₄⟩
  · obtain ⟨he, -⟩ := seed_alone hk hfree h₃ ha
    cases he
  · obtain ⟨he, hsub, hk', hv'⟩ := seed_alone hk hfree h₃ ha.left
    obtain rfl := Except.ok.inj he
    obtain ⟨rfl, rfl, hv''⟩ := advance_alone hk' (by rw [hv']; exact hfree) hn h₄
    exact ⟨rfl, by simpa using hsub, by rw [hv'', hv']⟩

lemma rebindAndAllocate_alone {state : AccountState} {result : Except NonceError Nonce}
    (hfree : (s.view state.address).slot.held = false) (hn : state.nonce.next? = some n)
    (h : (rebindAndAllocate state).Course s ms result s') :
    ms = [] ∧ result = .ok n ∧
      s'.view state.address = { s.view state.address with slot := ⟨some n, false⟩ } := by
  obtain ⟨k, s₁, h₁, h₂⟩ := course_rebindAndAllocate.1 h
  obtain ⟨hka, rfl, hk, hv⟩ := acquire_alone hfree h₁
  rw [← hv] at hfree ⊢
  rw [← hka] at hfree ⊢
  obtain ⟨-, rfl, hv'⟩ := advance_alone hk hfree hn h₂
  exact ⟨rfl, rfl, hv'⟩

end Nonces

def Signs (custody : Custody) (tx : Transaction) : Signer → Prop
  | .resident signer => ∃ signed, signer.sign tx = .ok signed
  | .remote _ =>
    ∃ sig, custody (.sign tx.sender tx) = .ok sig ∧ tx.sender.verifiesDigest tx.hash.digest sig

lemma Signing.sign_alone {tx : Transaction} {result : Except SignerError SignedTransaction}
    (hp : s.signer.principal = .ok tx.sender) (hs : Signs custody tx s.signer)
    (h : (sign tx).Course s ms result s') (ha : (node.world custody l).Answers past ms) :
    ∃ signed, result = .ok signed ∧ signed.tx = tx ∧ deeds ms = [] ∧ s'.view a = s.view a := by
  cases hk : s.signer with
  | resident signer =>
    rw [hk] at hs
    obtain ⟨signed, hs⟩ := hs
    rw [sign, Action.course_get_bind, hk] at h
    obtain ⟨rfl, rfl, rfl⟩ := Action.course_ofExcept.1 h
    exact ⟨signed, hs, (LocalSigner.sign_eq_ok hs).1, rfl, rfl⟩
  | remote signer =>
    rw [hk] at hs
    obtain ⟨sig, hsig, hv⟩ := hs
    rcases course_sign_remote hk h with ⟨e, hadmits, -⟩ | ⟨reply, -, rfl, rfl⟩
    · rw [Signer.admits_eq_ok.2 hp] at hadmits
      cases hadmits
    have hr : (reply, s') = (custody (.sign tx.sender tx), s) := ha.head
    obtain ⟨rfl, rfl⟩ := Prod.mk.inj hr
    exact ⟨⟨tx, sig⟩, by rw [hsig]; exact if_pos hv, rfl, rfl, rfl⟩

namespace Requester

variable {r : Requester} {t : Template} {chain : ChainId} {p q : Attempt} {entry : Address}
  {result : Except ClientError TxHash}

lemma sent_alone (hp : s.signer.principal = .ok a) (hs : Signs custody (t.fill chain a n) s.signer)
    (h : Sent t chain n s ms result s') (ha : (node.world custody l).Answers past ms) :
    ∃ signed, signed.tx = t.fill chain a n ∧ deeds ms = [.submitted signed] ∧
      result = (node.verdict (Node.after l past) signed).mapError .ofNode ∧ s'.view a = s.view a := by
  cases h with
  | locked unlocked =>
    rw [hp] at unlocked
    cases unlocked
  | unsigned unlocked signs =>
    obtain rfl := Except.ok.inj (hp.symm.trans unlocked)
    obtain ⟨signed, he, -⟩ := Signing.sign_alone (a := a) hp hs signs ha
    cases he
  | submitted unlocked signs =>
    obtain rfl := Except.ok.inj (hp.symm.trans unlocked)
    obtain ⟨signed, he, htx, hsub, hv⟩ := Signing.sign_alone (a := a) hp hs signs ha.left
    obtain rfl := Except.ok.inj he
    rename_i ms' signed found reply
    have hr : (reply, s') = (node.verdict (Node.after l (past ++ ms')) signed, found) := ha.right.head
    obtain ⟨rfl, rfl⟩ := Prod.mk.inj hr
    refine ⟨signed, htx, ?_, ?_, hv⟩
    · rw [deeds_append, hsub]
      rfl
    · rw [Node.after_append, Node.after_of_none hsub]

abbrev sending (t : Template) (chain : ChainId) : Builder := fun _ n => sendTemplate t chain n

section Attempts

variable (hp : p.start.signer.principal = .ok a)
  (hs : Signs custody (t.fill chain a p.nonce) p.start.signer)
  (h : Makes (sending t chain) p ms result s') (ha : (node.world custody l).Answers past ms)
include hp hs h ha

lemma makes_open (hopen : (Node.after l past).Open a p.nonce.toNat) :
    ∃ signed, signed.tx = t.fill chain a p.nonce ∧ deeds ms = [.submitted signed] ∧
      result = .ok (node.hash signed) ∧ s'.view a = p.start.view a := by
  obtain ⟨signed, htx, hsub, rfl, hv⟩ := sent_alone (s := p.start.attempted) hp hs (sent h) ha
  have hopen' : (Node.after l past).Open signed.tx.sender signed.tx.nonce.toNat := by
    rw [htx]
    exact hopen
  exact ⟨signed, htx, hsub, by rw [(node.accepts hopen').1]; rfl, by simpa using hv⟩

lemma makes_closed (hclosed : ¬ (Node.after l past).Open a p.nonce.toNat) :
    ∃ signed, deeds ms = [.submitted signed] ∧ r.policy.Retries result ∧
      Node.after l (past ++ ms) = Node.after l past ∧ s'.view a = p.start.view a := by
  obtain ⟨signed, htx, hsub, rfl, hv⟩ := sent_alone (s := p.start.attempted) hp hs (sent h) ha
  have hclosed' : ¬ (Node.after l past).Open signed.tx.sender signed.tx.nonce.toNat := by
    rw [htx]
    exact hclosed
  obtain ⟨⟨cause, hretry, he⟩, hsame⟩ := node.refuses hclosed'
  refine ⟨signed, hsub, ?_, ?_, by simpa using hv⟩
  · rw [he]
    simp [Except.mapError, ClientError.ofNode, hretry, RetryPolicy.Retries]
  · rw [Node.after_append, Node.after, hsub]
    exact hsame

end Attempts

section Loops

variable {n' : Nonce} {ms₁ ms₂ : List Moment} {limit : ℕ}

lemma woken_alone {state : AccountState} {found woken : Client} {d : Duration}
    (ha : (node.world custody l).Answers past
      (⟨.readState a, s, .ok state, found⟩ :: ⟨.sleep d, found, (), woken⟩ :: ms)) :
    state = node.state (Node.after l past) a ∧ woken.view a = s.view a := by
  have hr : (Except.ok state, found) = (.ok (node.state (Node.after l past) a), s) := ha.head
  obtain ⟨hstate, rfl⟩ := Prod.mk.inj hr
  exact ⟨Except.ok.inj hstate, view_found ha.tail⟩

lemma recovery_alone (hfree : (s.view a).slot.held = false)
    (hn : ((Node.after l past).told a).next? = some n')
    (h : r.Recovery a s entry n ms s') (ha : (node.world custody l).Answers past ms) :
    n = n' ∧ deeds ms = [.slept r.policy.interval] ∧
      s'.view a = ⟨(s.view a).signer, ⟨some n', false⟩, (s.view a).rebinds.map (· + 1)⟩ := by
  obtain ⟨hrebind⟩ := h
  rename_i state found woken s₁ ms'
  obtain ⟨rfl, hwoken⟩ := woken_alone ha
  rw [← hwoken] at hfree ⊢
  obtain ⟨rfl, hok, hv⟩ := Nonces.rebindAndAllocate_alone hfree hn hrebind
  obtain rfl := Except.ok.inj hok
  have hv' : s₁.view a = ⟨(woken.view a).signer, ⟨some n, false⟩, (woken.view a).rebinds⟩ := hv
  exact ⟨rfl, rfl, by rw [Client.view_rebound, hv']⟩

lemma not_defeat_alone (hfree : (s.view a).slot.held = false)
    (hn : ((Node.after l past).told a).next? = some n') {e : ClientError}
    (h : r.Defeat a s e ms s') (ha : (node.world custody l).Answers past ms) : False := by
  cases h with
  | unread =>
    have hr := congrArg Prod.fst ha.head
    cases hr
  | exhausted hrebind =>
    obtain ⟨rfl, hwoken⟩ := woken_alone ha
    rw [← hwoken] at hfree
    obtain ⟨-, hok, -⟩ := Nonces.rebindAndAllocate_alone hfree hn hrebind
    cases hok

lemma loop_open (hp : p.start.signer.principal = .ok a)
    (hs : Signs custody (t.fill chain a p.nonce) p.start.signer)
    (hopen : (Node.after l past).Open a p.nonce.toNat) (hd : r.Rounds a (sending t chain) p ms₁ q)
    (hl : r.Last a (sending t chain) limit q ms₂ result s')
    (ha : (node.world custody l).Answers past (ms₁ ++ ms₂)) :
    ∃ signed, signed.tx = t.fill chain a p.nonce ∧ deeds (ms₁ ++ ms₂) = [.submitted signed] ∧
      result = .ok (node.hash signed) ∧ s'.view a = p.start.view a := by
  cases hd with
  | none p =>
    rw [List.nil_append] at ha ⊢
    cases hl with
    | settled hmade hf => exact makes_open hp hs hmade ha hopen
    | spent hmade =>
      obtain ⟨signed, -, -, hr, -⟩ := makes_open hp hs hmade ha hopen
      cases hr
    | defeated hmade =>
      obtain ⟨signed, -, -, hr, -⟩ := makes_open hp hs hmade ha.left hopen
      cases hr
  | next hd rest =>
    obtain ⟨hmade, -, -⟩ := hd
    obtain ⟨signed, -, -, hr, -⟩ := makes_open hp hs hmade ha.left.left.left hopen
    cases hr

lemma loop_closed (hp : p.start.signer.principal = .ok a)
    (hs : Signs custody (t.fill chain a p.nonce) p.start.signer)
    (hs' : Signs custody (t.fill chain a n') p.start.signer)
    (hfree : (p.start.view a).slot.held = false) (hlimit : p.index < limit)
    (hclosed : ¬ (Node.after l past).Open a p.nonce.toNat)
    (hn : ((Node.after l past).told a).next? = some n')
    (hopen : (Node.after l past).Open a n'.toNat) (hd : r.Rounds a (sending t chain) p ms₁ q)
    (hl : r.Last a (sending t chain) limit q ms₂ result s')
    (ha : (node.world custody l).Answers past (ms₁ ++ ms₂)) :
    ∃ first signed, signed.tx = t.fill chain a n' ∧
      deeds (ms₁ ++ ms₂) =
        [.submitted first, .slept r.policy.interval, .submitted signed] ∧
      Node.after l (past ++ (ms₁ ++ ms₂)) = Node.commit (Node.after l past) signed ∧
      result = .ok (node.hash signed) ∧ s'.view a =
        ⟨p.start.signer, ⟨some n', false⟩, (p.start.view a).rebinds.map (· + 1)⟩ := by
  cases hd with
  | none p =>
    rw [List.nil_append] at ha ⊢
    cases hl with
    | settled hmade hf =>
      obtain ⟨first, -, hr, -⟩ := makes_closed (r := r) hp hs hmade ha hclosed
      exact absurd hr hf
    | spent hmade hr hi => omega
    | defeated hmade hr hi hdefeat =>
      obtain ⟨first, -, -, hsame, hv⟩ := makes_closed (r := r) hp hs hmade ha.left hclosed
      rw [← hsame] at hn
      exact (not_defeat_alone (by simpa [hv] using hfree) hn hdefeat ha.right).elim
  | next hd rest =>
    -- The refusal leaves the ledger as it is, so that the nonce after the one told is still open.
    obtain ⟨hmade, -, hrecovery⟩ := hd
    rename_i ms' m₁ m₂ cause entry n s₁ s₂
    have ha' := ha.left.left
    obtain ⟨first, hsub, -, hsame, hv⟩ := makes_closed (r := r) hp hs hmade ha'.left hclosed
    rw [← hsame] at hn
    obtain ⟨rfl, hsub', hv'⟩ := recovery_alone (by simpa [hv] using hfree) hn hrecovery ha'.right
    rw [Client.view_conflicted, hv] at hv'
    have hsame' : Node.after l (past ++ (m₁ ++ m₂)) = Node.after l past := by
      rw [← List.append_assoc, Node.after_append, hsame, Node.after, hsub']
      rfl
    have hk : s₂.signer = p.start.signer := congrArg View.signer hv'
    rw [List.append_assoc (m₁ ++ m₂)] at ha ⊢
    obtain ⟨signed, htx, hsubs, hok, hv''⟩ := loop_open (p := ⟨p.index + 1, entry, n, s₂⟩)
      (by rw [hk]; exact hp) (by rw [hk]; exact hs') (by rw [hsame']; exact hopen) rest hl ha.right
    refine ⟨first, signed, htx, ?_, ?_, hok, hv''.trans hv'⟩
    · rw [deeds_append, deeds_append, hsub, hsub', hsubs]
      rfl
    · rw [← List.append_assoc, Node.after_append, hsame', Node.after, hsubs]
      rfl

end Loops

end Requester

structure Scene where
  ledger : Ledger
  client : Client

inductive Deal where
  | send (r : Requester) (t : Template) (custody : Custody)
  | outside (a : Address) (n : ℕ)

namespace Scene

def send (node : Node) (c : Scene) (r : Requester) (t : Template) (custody : Custody) :
    List Moment × Except ClientError TxHash × Client :=
  (r.send t).play (node.world custody c.ledger) [] c.client

def step (node : Node) (c : Scene) : Deal → Scene
  | .send r t custody =>
    let run := c.send node r t custody
    ⟨Node.after c.ledger run.1, run.2.2⟩
  | .outside a n => { c with ledger := c.ledger.spend a n }

def guess (c : Scene) (a : Address) : Nonce := (c.client.nonces.slot a).last.getD (c.ledger.told a)

variable {node : Node} {c : Scene} {a : Address} {r : Requester} {t : Template} {custody : Custody}
  {deals : List Deal}

structure Suits (a : Address) (r : Requester) (t : Template) (custody : Custody) (c : Scene) :
    Prop where
  room : c.ledger.confirmed a + 1 < UInt64.size
  below : (c.guess a).toNat + 1 < UInt64.size
  signs : ∃ chain, r.resolveChain t.chain = .ok chain ∧
    ∀ n, n = c.guess a + 1 ∨ n = c.ledger.told a + 1 →
      Signs custody (t.fill chain a n) c.client.signer

structure Spends (node : Node) (a : Address) (r : Requester) (c : Scene)
    (run : List Moment × Except ClientError TxHash × Client) (signed : SignedTransaction) : Prop where
  succeeds : run.2.1 = .ok (node.hash signed)
  sender : signed.tx.sender = a
  unspent : signed.tx.nonce.toNat ∉ c.ledger a
  spent : Node.after c.ledger run.1 = c.ledger.spend a signed.tx.nonce.toNat
  course :
    deeds run.1 = [.submitted signed] ∧
        run.2.2.metrics.map (·.rebinds) = c.client.metrics.map (·.rebinds) ∨
      ∃ first,
        deeds run.1 = [.submitted first, .slept r.policy.interval, .submitted signed] ∧
          signed.tx.nonce.toNat = c.ledger.confirmed a + 1 ∧
            run.2.2.metrics.map (·.rebinds) = c.client.metrics.map (·.rebinds + 1)
  lastUsed : run.2.2.nonces.lastUsed a = signed.tx.nonce

lemma next?_eq_some {n : Nonce} (h : n.toNat + 1 < UInt64.size) : n.next? = some (n + 1) := if_pos h

lemma spends_of_view {chain : ChainId} {n : Nonce} {signed : SignedTransaction} {ms : List Moment}
    {s' : Client} {rebinds : Option ℕ} (htx : signed.tx = t.fill chain a n)
    (hopen : c.ledger.Open a n.toNat) (hcommit : Node.after c.ledger ms = Node.commit c.ledger signed)
    (hv : s'.view a = ⟨c.client.signer, ⟨some n, false⟩, rebinds⟩)
    (hcourse : deeds ms = [.submitted signed] ∧ rebinds = c.client.metrics.map (·.rebinds) ∨
      ∃ first, deeds ms = [.submitted first, .slept r.policy.interval, .submitted signed] ∧
        n.toNat = c.ledger.confirmed a + 1 ∧ rebinds = c.client.metrics.map (·.rebinds + 1)) :
    Spends node a r c (ms, .ok (node.hash signed), s') signed ∧ s'.signer = c.client.signer ∧
      (s'.nonces.slot a).held = false := by
  have hn : signed.tx.nonce = n := by rw [htx]; rfl
  have ha : signed.tx.sender = a := by rw [htx]; rfl
  have hrebinds : s'.metrics.map (·.rebinds) = rebinds := congrArg View.rebinds hv
  have hslot : s'.nonces.slot a = ⟨some n, false⟩ := congrArg View.slot hv
  refine ⟨⟨rfl, ha, ?_, ?_, ?_, ?_⟩, congrArg View.signer hv, by rw [hslot]⟩
  · rw [hn]
    exact hopen.2
  · have hopen' : c.ledger.Open signed.tx.sender signed.tx.nonce.toNat := by rwa [ha, hn]
    rw [hcommit, (node.accepts hopen').2, ha]
  · rw [hn, hrebinds]
    exact hcourse
  · rw [hn, NonceBook.lastUsed, hslot]
    rfl

lemma send_starts {chain : ChainId} {ms : List Moment} {result : Except ClientError TxHash}
    {s' : Client} (hp : c.client.signer.principal = .ok a)
    (hfree : (c.client.nonces.slot a).held = false) (hchain : r.resolveChain t.chain = .ok chain)
    (hguess : (c.guess a).toNat + 1 < UInt64.size) (h : (r.send t).Course c.client ms result s')
    (ha : (node.world custody c.ledger).Answers [] ms) :
    ∃ seeding loop s₁ s₂, ms = seeding ++ loop ∧ s'.view a = s₂.view a ∧ deeds seeding = [] ∧
      s₁.view a = { c.client.view a with slot := ⟨some (c.guess a + 1), false⟩ } ∧
      (r.submitLoop a (Requester.sending t chain) r.policy.tries.toNat 0 (c.guess a + 1)).Course s₁
        loop result s₂ ∧
      (node.world custody c.ledger).Answers seeding loop := by
  have hsend : r.send t = r.request (Requester.sending t chain) := by
    unfold Requester.send
    rw [hchain]
  have hnext : ((c.client.view a).slot.last.getD ((Node.after c.ledger []).told a)).next? =
      some (c.guess a + 1) := by
    have hstart : Node.after c.ledger [] = c.ledger := Node.after_of_none rfl
    rw [hstart]
    exact next?_eq_some hguess
  rw [hsend] at h
  obtain ⟨s₂, rfl, ⟨cause, rfl, h'⟩ | ⟨seeding, n, s₁, loop, rfl, h₁, h₂⟩⟩ :=
    Requester.course_request hp h
  · obtain ⟨he, -⟩ := Nonces.allocate_alone hfree hnext h' ha
    cases he
  obtain ⟨he, hdeeds, hv⟩ := Nonces.allocate_alone hfree hnext h₁ ha.left
  obtain rfl := Except.ok.inj he
  exact ⟨seeding, loop, s₁, s₂, rfl, Client.view_finished a s₂ _ _, hdeeds, hv, h₂, ha.right⟩

lemma send_spends {ms : List Moment} {result : Except ClientError TxHash} {s' : Client}
    (hp : c.client.signer.principal = .ok a) (hfree : (c.client.nonces.slot a).held = false)
    (hs : Suits a r t custody c) (h : (r.send t).Course c.client ms result s')
    (ha : (node.world custody c.ledger).Answers [] ms) :
    ∃ signed, Spends node a r c (ms, result, s') signed ∧
      s'.signer = c.client.signer ∧ (s'.nonces.slot a).held = false := by
  obtain ⟨hroom, hbelow, chain, hchain, hsigns⟩ := hs
  obtain ⟨hnext, hnat⟩ := c.ledger.next?_told a hroom
  obtain ⟨seeding, loop, s₁, s₂, rfl, hended, hdeeds, hv, hloop, hrest⟩ :=
    send_starts hp hfree hchain hbelow h ha
  obtain ⟨q, rounds, last, rfl, -, hd, hl⟩ := Requester.course_submitLoop a hloop
  have hk : s₁.signer = c.client.signer := congrArg View.signer hv
  have hp' : s₁.signer.principal = .ok a := by rwa [hk]
  have hsigns' (n : Nonce) (hn : n = c.guess a + 1 ∨ n = c.ledger.told a + 1) :
      Signs custody (t.fill chain a n) s₁.signer := by
    rw [hk]
    exact hsigns n hn
  have hsame : Node.after c.ledger seeding = c.ledger := Node.after_of_none hdeeds
  have hafter (ms : List Moment) : Node.after c.ledger (seeding ++ ms) = Node.after c.ledger ms := by
    rw [Node.after_append, hsame]
  -- The guess is open, or else the nonce after the confirmed one is.
  by_cases hopen : c.ledger.Open a (c.guess a + 1).toNat
  · obtain ⟨signed, htx, hdeeds', rfl, hv'⟩ := Requester.loop_open (p := ⟨0, a, c.guess a + 1, s₁⟩) hp'
      (hsigns' _ (.inl rfl)) (by rwa [hsame]) hd hl hrest
    refine ⟨signed, spends_of_view htx hopen ?_ (hended.trans (hv'.trans hv)) (.inl ⟨?_, rfl⟩)⟩
    · rw [hafter, Node.after, hdeeds']
      rfl
    · rw [deeds_append, hdeeds, hdeeds', List.nil_append]
  · have hlimit : 0 < 0 + r.policy.tries.toNat := by simpa using r.policy.tries_pos
    have hopen' : c.ledger.Open a (c.ledger.told a + 1).toNat := by
      rw [hnat]
      exact c.ledger.open_confirmed_add_one a
    obtain ⟨first, signed, htx, hdeeds', hcommit, rfl, hv'⟩ :=
      Requester.loop_closed (p := ⟨0, a, c.guess a + 1, s₁⟩) hp' (hsigns' _ (.inl rfl))
        (hsigns' _ (.inr rfl)) (congrArg (·.slot.held) hv) hlimit (by rwa [hsame]) (by rwa [hsame])
        (by rwa [hsame]) hd hl hrest
    have hv'' : s₂.view a = ⟨c.client.signer, ⟨some (c.ledger.told a + 1), false⟩,
        (c.client.view a).rebinds.map (· + 1)⟩ := by
      have hrebinds : (s₁.view a).rebinds = (c.client.view a).rebinds := by rw [hv]
      rw [hv', ← hk, ← hrebinds]
    refine ⟨signed, spends_of_view htx hopen' ?_ (hended.trans hv'') (.inr ⟨first, ?_, hnat, ?_⟩)⟩
    · rw [hcommit, hsame]
    · rw [deeds_append, hdeeds, hdeeds', List.nil_append]
    · simp [Client.view, Function.comp_def]

end Scene

end LedgerClient
