import LedgerClient.Proofs.Client.Sharing
import LedgerClient.Proofs.Node.Ledger
import LedgerClient.Proofs.Submission.Dealing

/-! Sends that share the nonces of an account, and their node. The node comes to what a send asks some
time after it is asked, and the send goes on with the answer some time after that. -/

namespace LedgerClient

open Hand Pool

inductive Act (ι : Type) where
  | go (i : ι) (rest : Client) (custody : Custody)
  | serve (i : ι)

inductive Note (ι : Type) where
  | submitted (i : ι) (tx : SignedTransaction)
  | accepted (i : ι) (tx : SignedTransaction)
deriving DecidableEq

def Note.nonce {ι : Type} : Note ι → Nonce
  | submitted _ tx => tx.tx.nonce
  | accepted _ tx => tx.tx.nonce

def Call.isQuestion : Call → Bool
  | .readState _ => true
  | .submit _ => true
  | _ => false

structure Crowd (ι : Type) where
  pool : Pool ι (Except ClientError TxHash)
  ledger : Ledger
  seen : ι → Option Ledger
  notes : List (Note ι)

namespace Hand.Stretch

variable {h h' : Hand} {e e' : Option Slot}

lemma last_eq (hs : Stretch h e h' e') :
    (e'.getD {}).last = (e.getD {}).last ∧ (h' = h ∨ ∀ m, h' ≠ .owning m) ∨
      ∃ m, h' = .owning m ∧ (e'.getD {}).last = some m ∧ ∀ l, (e.getD {}).last = some l →
        l.next? = some m ∨ ∃ k, h = .informed k ∧ k.next? = some m := by
  cases hs with
  | still => exact .inl ⟨rfl, .inl rfl⟩
  | touch => exact .inl ⟨rfl, .inl rfl⟩
  | next hn =>
    refine .inr ⟨_, rfl, rfl, fun l hl => .inl ?_⟩
    rwa [← Option.some.inj hl]
  | hold he => exact .inl ⟨by rw [he]; rfl, .inr (by simp)⟩
  | release n? => exact .inl ⟨rfl, .inr (by cases n? <;> simp)⟩
  | seed hn => exact .inr ⟨_, rfl, rfl, fun l hl => by cases hl⟩
  | rebind hn he => exact .inr ⟨_, rfl, rfl, fun l hl => .inr ⟨_, rfl, hn⟩⟩

lemma to_informed {k : Nonce} (hs : Stretch h e h' e') (hh : h' = .informed k) :
    h = .informed k ∨ h = .told (some k) := by
  cases hs with
  | still => exact .inl hh
  | touch => exact .inl hh
  | release n? =>
    cases n? with
    | none => cases hh
    | some m => exact .inr (by rw [Hand.informed.inj hh])
  | _ => cases hh

end Hand.Stretch

lemma Node.replies_honest {node : Node} {l : Ledger} {custody : Custody} (call : Call) :
    call.Honest (node.replies l custody call) := by
  cases call with
  | readState a => rfl
  | _ => trivial

namespace Crowd

variable {ι : Type}

def start (b : NonceBook) (l : Ledger) : Crowd ι := ⟨.start b, l, fun _ => none, []⟩

def counter (c : Crowd ι) (a : Address) : Option Nonce := (c.pool.nonces.slot a).last

def submission (p : Pool ι (Except ClientError TxHash)) (i : ι) : List (Note ι) :=
  match p.waits? i with
  | some (.submit tx) => [.submitted i tx]
  | _ => []

def job (sends : ι → Requester × Template) (i : ι) : Task (Except ClientError TxHash) :=
  ((sends i).1.send (sends i).2).run

def pending (c : Crowd ι) (i : ι) : Bool := (c.pool.waits? i).any Call.isQuestion

lemma mem_submission {p : Pool ι (Except ClientError TxHash)} {i : ι} {note : Note ι} :
    note ∈ submission p i ↔ ∃ tx, p.waits? i = some (.submit tx) ∧ note = .submitted i tx := by
  unfold submission
  split
  · rename_i tx hw
    simp [hw]
  · rename_i hne
    simpa using fun tx hw => absurd hw (hne tx)

lemma pairwise_submission {p : Pool ι (Except ClientError TxHash)} {i : ι}
    {R : Note ι → Note ι → Prop} : (submission p i).Pairwise R := by
  unfold submission
  split
  · exact List.pairwise_singleton _ _
  · exact .nil

section Definitions

variable [DecidableEq ι] (sends : ι → Requester × Template) (node : Node)

def moved (c : Crowd ι) (i : ι) (p : Pool ι (Except ClientError TxHash)) : Crowd ι :=
  ⟨p, c.ledger, Function.update c.seen i none, c.notes ++ submission p i⟩

def go (c : Crowd ι) (i : ι) (rest : Client) (custody : Custody) : Crowd ι :=
  if c.pending i ∧ (c.seen i).isNone then c
  else c.moved i <| c.pool.step (job sends) <|
    .go i rest (node.replies ((c.seen i).getD c.ledger) custody)

def serve (c : Crowd ι) (i : ι) : Crowd ι :=
  match c.seen i, c.pool.waits? i with
  | none, some (.readState _) => { c with seen := Function.update c.seen i (some c.ledger) }
  | none, some (.submit tx) =>
    { c with
      ledger := Node.commit c.ledger tx
      seen := Function.update c.seen i (some c.ledger)
      notes := c.notes ++ if (Node.refusal? c.ledger tx).isNone then [.accepted i tx] else [] }
  | _, _ => c

def step (c : Crowd ι) : Act ι → Crowd ι
  | .go i rest custody => c.go sends node i rest custody
  | .serve i => c.serve i

def run (c : Crowd ι) (acts : List (Act ι)) : Crowd ι := acts.foldl (step sends node) c

def TakenBack (c : Crowd ι) (acts : List (Act ι)) (a : Address) (n : Nonce) : Prop :=
  ∃ asked pre k rest custody post l m, acts = pre ++ .go k rest custody :: post ∧
    asked ++ [.serve k] <+: pre ∧
    (c.run sends node pre).counter a = some l ∧
    (c.run sends node (pre ++ [.go k rest custody])).counter a = some m ∧
    ((c.run sends node asked).ledger.told a).next? = some m ∧ m ≤ n ∧ n ≤ l

end Definitions

variable {sends : ι → Requester × Template} {node : Node} {a : Address} {d : ℕ} {n : Nonce}
  {hand : ι → Hand} {c : Crowd ι} {i j : ι} {told told' : ι → Ledger → Prop}

def terms (sends : ι → Requester × Template) (a : Address) (d : ℕ) :
    Terms ι (Except ClientError TxHash) where
  slot := ⟨a, d⟩
  job := job sends
  fits s := ∀ b, s.signer.principal = .ok b → b = a
  first _ := .eager
  asks _ := SendAsks ⟨a, d⟩
  post _ _ _ _ := True
  deals _ _ hp := Requester.deals_send hp
  first_eq _ := .inl rfl
  settled _ _ _ h := by cases h

section Goes

variable {p : Pool ι (Except ClientError TxHash)} {replies : Replies} {l : Ledger} {custody : Custody}
  {h : Hand} {k m : Nonce}

lemma goes_owning (hp : Orderly (terms sends a d) hand p)
    (hg : Goes (terms sends a d) hand p i replies h)
    (hh : h = .owning m) : hand i = .owning m ∧ ∀ tx, p.waits? i ≠ some (.submit tx) := by
  cases hg with
  | begins ready =>
    have hb := hp.backs i
    rw [ready] at hb
    cases hh.symm.trans hb
  | resumes waiting free asked =>
    have ha : SendAsks ⟨a, d⟩ (hand i) _ := asked
    generalize hand i = g at ha hh
    cases ha with
    | custody m' call => exact ⟨hh, fun tx ht => by cases waiting.symm.trans ht⟩
    | read => cases hr : replies (.readState a) <;> simp [Hand.after, hr] at hh
    | _ => cases hh

lemma goes_informed (hp : Orderly (terms sends a d) hand p)
    (hg : Goes (terms sends a d) hand p i (node.replies l custody) h)
    (hh : h = .informed k ∨ h = .told (some k)) :
    hand i = .informed k ∨ p.waits? i = some (.readState a) ∧ l.told a = k := by
  cases hg with
  | begins ready =>
    have hb := hp.backs i
    rw [ready] at hb
    rw [show hand i = .eager from hb] at hh
    rcases hh with hh | hh <;> cases hh
  | resumes waiting free asked =>
    have ha : SendAsks ⟨a, d⟩ (hand i) _ := asked
    generalize hand i = g at ha hh
    cases ha with
    | seed =>
      rcases hh with hh | hh
      · cases hh
      · exact .inr ⟨waiting, by cases hh; rfl⟩
    | read =>
      rcases hh with hh | hh
      · exact .inr ⟨waiting, by cases hh; rfl⟩
      · cases hh
    | sleep k' ms => exact .inl (hh.resolve_right (by simp [Hand.after]))
    | rebind k' => exact .inl (hh.resolve_right (by simp [Hand.after]))
    | _ => rcases hh with hh | hh <;> cases hh

end Goes

def Claimed (hand : ι → Hand) (c : Crowd ι) (n : Nonce) : Prop :=
  (∃ i, hand i = .owning n) ∨ ∃ note ∈ c.notes, note.nonce = n

structure Sound (sends : ι → Requester × Template) (a : Address) (d : ℕ) (n : Nonce)
    (told : ι → Ledger → Prop) (hand : ι → Hand) (c : Crowd ι) : Prop where
  orderly : Orderly (terms sends a d) hand c.pool
  counted : Claimed hand c n → ∃ l, c.counter a = some l ∧ n ≤ l
  single (i j : ι) : hand i = .owning n → hand j = .owning n → i = j
  waiting (i : ι) : hand i = .owning n → (∃ note ∈ c.notes, note.nonce = n) →
    ∃ tx, c.pool.waits? i = some (.submit tx)
  noted (i : ι) (tx : SignedTransaction) : c.pool.waits? i = some (.submit tx) →
    .submitted i tx ∈ c.notes
  fresh : c.notes.Pairwise fun x y => ∀ i tx, y = .submitted i tx → tx.tx.nonce = n → x.nonce ≠ n
  informed (i : ι) (k : Nonce) : hand i = .informed k → ∃ l, told i l ∧ l.told a = k
  seen (i : ι) (l : Ledger) : c.seen i = some l → told i l

namespace Sound

lemma mono (hs : Sound sends a d n told hand c) (hm : ∀ i l, told i l → told' i l) :
    Sound sends a d n told' hand c where
  orderly := hs.orderly
  counted := hs.counted
  single := hs.single
  waiting := hs.waiting
  noted := hs.noted
  fresh := hs.fresh
  informed i k hk := (hs.informed i k hk).imp fun l hl => ⟨hm i l hl.1, hl.2⟩
  seen i l hl := hm i l (hs.seen i l hl)

lemma tells (hs : Sound sends a d n told hand c) {custody : Custody} {h : Hand} {k : Nonce}
    (hg : Goes (terms sends a d) hand c.pool i (node.replies ((c.seen i).getD c.ledger) custody) h)
    (hseen : ¬ (c.pending i ∧ (c.seen i).isNone)) (hh : h = .informed k ∨ h = .told (some k)) :
    ∃ l, told i l ∧ l.told a = k := by
  rcases goes_informed hs.orderly hg hh with hi | ⟨hw, hk⟩
  · exact hs.informed i k hi
  cases hl : c.seen i with
  | none => exact absurd ⟨by simp [pending, hw, Call.isQuestion], by simp [hl]⟩ hseen
  | some l =>
    rw [hl] at hk
    exact ⟨l, hs.seen i l hl, hk⟩

lemma noted_before (hs : Sound sends a d n told hand c) {i : ι} {tx : SignedTransaction}
    (hw : c.pool.waits? i = some (.submit tx)) {p : Prop} [Decidable p]
    (h : ∃ note ∈ c.notes ++ (if p then [.accepted i tx] else []), note.nonce = n) :
    ∃ note ∈ c.notes, note.nonce = n := by
  obtain ⟨note, hnote, hn⟩ := h
  rcases List.mem_append.1 hnote with hnote | hnote
  · exact ⟨note, hnote, hn⟩
  · obtain rfl := List.mem_singleton.1 (List.mem_ite_nil_right.1 hnote).2
    exact ⟨_, hs.noted i tx hw, hn⟩

variable [DecidableEq ι]

lemma serve (hs : Sound sends a d n told hand c) (i : ι) (hi : told i c.ledger) :
    Sound sends a d n told hand (c.serve i) := by
  have hseen (j : ι) (l : Ledger) (hj : Function.update c.seen i (some c.ledger) j = some l) :
      told j l := by
    rcases of_update hj with ⟨rfl, hl⟩ | ⟨-, hj⟩
    · rwa [← Option.some.inj hl]
    · exact hs.seen j l hj
  unfold Crowd.serve
  split
  · exact { hs with seen := hseen }
  · rename_i tx hnone hw
    refine ⟨hs.orderly, ?_, hs.single, ?_, ?_, ?_, hs.informed, hseen⟩
    · exact fun hc => hs.counted (hc.imp_right (hs.noted_before hw))
    · exact fun j hj hnotes => hs.waiting j hj (hs.noted_before hw hnotes)
    · exact fun j tx' hj => List.mem_append_left _ (hs.noted j tx' hj)
    · refine List.pairwise_append.2 ⟨hs.fresh, ?_, ?_⟩
      · split
        · exact List.pairwise_singleton _ _
        · exact .nil
      · rintro x - y hy j tx' rfl
        cases List.mem_singleton.1 (List.mem_ite_nil_right.1 hy).2
  · exact hs

lemma seen_moved (hs : Sound sends a d n told hand c) (p : Pool ι (Except ClientError TxHash)) (j : ι)
    (l : Ledger) (hj : (c.moved i p).seen j = some l) : told j l := by
  rcases of_update hj with ⟨-, hj⟩ | ⟨-, hj⟩
  · cases hj
  · exact hs.seen j l hj

end Sound

structure Keeps [DecidableEq ι] (sends : ι → Requester × Template) (a : Address) (d : ℕ) (n : Nonce)
    (told : ι → Ledger → Prop) (hand : ι → Hand) (c : Crowd ι) (i : ι) (h' : Hand)
    (r : Run (Except ClientError TxHash)) : Prop where
  orderly : Orderly (terms sends a d) (Function.update hand i h') (c.pool.put i r)
  counted : Claimed hand c n → ∃ l, ((c.pool.put i r).nonces.slot a).last = some l ∧ n ≤ l
  owning : h' = .owning n →
    hand i = .owning n ∧ (∀ tx, c.pool.waits? i ≠ some (.submit tx)) ∨
      ¬ Claimed hand c n ∧ ((c.pool.put i r).nonces.slot a).last = some n
  informed (k : Nonce) : h' = .informed k → ∃ l, told i l ∧ l.told a = k

section Keeps

variable [DecidableEq ι] {h' : Hand} {r : Run (Except ClientError TxHash)} {note : Note ι}
  (hs : Sound sends a d n told hand c) (hk : Keeps sends a d n told hand c i h' r)
include hk

lemma Keeps.owns (hm : note ∈ submission (c.pool.put i r) i) (hn : note.nonce = n) :
    h' = .owning n := by
  obtain ⟨tx, hw, rfl⟩ := mem_submission.1 hm
  have ha : SendAsks ⟨a, d⟩ (Function.update hand i h' i) (.submit tx) := hk.orderly.backs_waiting hw
  rw [Function.update_self] at ha
  rw [← hn]
  cases ha
  rfl

lemma Keeps.counted_moved (hc : Claimed (Function.update hand i h') (c.moved i (c.pool.put i r)) n) :
    ∃ l, ((c.pool.put i r).nonces.slot a).last = some l ∧ n ≤ l := by
  have hown (hh : h' = .owning n) :
      ∃ l, ((c.pool.put i r).nonces.slot a).last = some l ∧ n ≤ l := by
    rcases hk.owning hh with ⟨hi, -⟩ | ⟨-, hl⟩
    · exact hk.counted (.inl ⟨i, hi⟩)
    · exact ⟨n, hl, UInt64.le_refl n⟩
  rcases hc with ⟨j, hj⟩ | ⟨note, hm, hn⟩
  · rcases of_update hj with ⟨-, hj⟩ | ⟨-, hj⟩
    · exact hown hj
    · exact hk.counted (.inl ⟨j, hj⟩)
  · rcases List.mem_append.1 hm with hm | hm
    · exact hk.counted (.inr ⟨note, hm, hn⟩)
    · exact hown (hk.owns hm hn)

include hs

lemma Keeps.sole (hj : hand j = .owning n) (hji : j ≠ i) : h' ≠ .owning n := by
  intro hh
  rcases hk.owning hh with ⟨hi, -⟩ | ⟨hunclaimed, -⟩
  · exact hji (hs.single j i hj hi)
  · exact hunclaimed (.inl ⟨j, hj⟩)

lemma Keeps.first (hh : h' = .owning n) (hm : note ∈ c.notes) : note.nonce ≠ n := by
  intro hn
  rcases hk.owning hh with ⟨hi, hw⟩ | ⟨hunclaimed, -⟩
  · obtain ⟨tx, ht⟩ := hs.waiting i hi ⟨note, hm, hn⟩
    exact hw tx ht
  · exact hunclaimed (.inr ⟨note, hm, hn⟩)

lemma Keeps.sound :
    Sound sends a d n told (Function.update hand i h') (c.moved i (c.pool.put i r)) := by
  refine ⟨hk.orderly, hk.counted_moved, ?_, ?_, ?_, ?_, ?_, hs.seen_moved _⟩
  · exact single_update hs.single fun j hji hj => hk.sole hs hj hji
  · rintro j hj ⟨note, hm, hn⟩
    rcases of_update hj with ⟨rfl, hh⟩ | ⟨hji, hj⟩
    · rcases List.mem_append.1 hm with hm | hm
      · exact absurd hn (hk.first hs hh hm)
      · obtain ⟨tx, hw, -⟩ := mem_submission.1 hm
        exact ⟨tx, hw⟩
    · rcases List.mem_append.1 hm with hm | hm
      · obtain ⟨tx, hw⟩ := hs.waiting j hj ⟨note, hm, hn⟩
        exact ⟨tx, (waits?_put_of_ne hji).trans hw⟩
      · exact absurd (hk.owns hm hn) (hk.sole hs hj hji)
  · intro j tx hw
    by_cases hji : j = i
    · subst hji
      exact List.mem_append_right _ (mem_submission.2 ⟨tx, hw, rfl⟩)
    · exact List.mem_append_left _ (hs.noted j tx ((waits?_put_of_ne hji).symm.trans hw))
  · refine List.pairwise_append.2 ⟨hs.fresh, pairwise_submission, ?_⟩
    intro x hx y hy j tx he hn
    subst he
    exact hk.first hs (hk.owns hy hn) hx
  · intro j k hj
    rcases of_update hj with ⟨rfl, hh⟩ | ⟨-, hj⟩
    · exact hk.informed k hh
    · exact hs.informed j k hj

end Keeps

namespace Sound

variable [DecidableEq ι]

lemma stay (hs : Sound sends a d n told hand c) (hn : submission c.pool i = []) :
    Sound sends a d n told hand (c.moved i c.pool) := by
  have hnotes : (c.moved i c.pool).notes = c.notes := by rw [Crowd.moved, hn, List.append_nil]
  refine ⟨hs.orderly, ?_, hs.single, ?_, ?_, ?_, hs.informed, hs.seen_moved _⟩
  · rw [Claimed, hnotes]
    exact hs.counted
  · rw [hnotes]
    exact hs.waiting
  · rw [hnotes]
    exact hs.noted
  · rw [hnotes]
    exact hs.fresh

lemma put (hs : Sound sends a d n told hand c) {replies : Replies} {h h' : Hand}
    {r : Run (Except ClientError TxHash)} (hg : Goes (terms sends a d) hand c.pool i replies h)
    (htold : ∀ k, h = .informed k ∨ h = .told (some k) → ∃ l, told i l ∧ l.told a = k)
    (ho : Orderly (terms sends a d) (Function.update hand i h') (c.pool.put i r))
    (hst : Stretch h (c.pool.nonces.get? a) h' ((c.pool.put i r).nonces.get? a)) :
    (∃ hand', Sound sends a d n told hand' (c.moved i (c.pool.put i r))) ∨
      ∃ seen l m, told i seen ∧ c.counter a = some l ∧
        (c.moved i (c.pool.put i r)).counter a = some m ∧
        (seen.told a).next? = some m ∧ m ≤ n ∧ n ≤ l := by
  have hinformed (k : Nonce) (hk : h' = .informed k) : ∃ l, told i l ∧ l.told a = k :=
    htold k (hst.to_informed hk)
  rcases hst.last_eq with ⟨hl, hkept⟩ | ⟨m, rfl, hl, hnext⟩
  · have hsame : ((c.pool.put i r).nonces.slot a).last = c.counter a := hl
    refine .inl ⟨_, Keeps.sound hs ⟨ho, hsame ▸ hs.counted, fun hh => ?_, hinformed⟩⟩
    rcases hkept with hkept | hkept
    · exact .inl (goes_owning hs.orderly hg (hkept ▸ hh))
    · exact absurd hh (hkept n)
  by_cases hback : ∃ l, c.counter a = some l ∧ m ≤ n ∧ n ≤ l
  · -- Counting on never does this, so it is a rebinding.
    obtain ⟨l, hl', hmn, hnl⟩ := hback
    rcases hnext l hl' with hm | ⟨k, hk, hm⟩
    · have hlt := (Nonces.eq_of_next? hm).2
      have hle := UInt64.le_iff_toNat_le.1 (UInt64.le_trans hmn hnl)
      omega
    · obtain ⟨seen, hseen, rfl⟩ := htold k (.inl hk)
      exact .inr ⟨seen, l, m, hseen, hl', hl, hm, hmn, hnl⟩
  · -- Whatever has been claimed stays behind the counter.
    have hpast (hc : Claimed hand c n) : n < m := by
      obtain ⟨l, hl', hnl⟩ := hs.counted hc
      exact UInt64.not_le.1 fun hmn => hback ⟨l, hl', hmn, hnl⟩
    refine .inl ⟨_, Keeps.sound hs
      ⟨ho, fun hc => ⟨m, hl, UInt64.le_of_lt (hpast hc)⟩, fun hh => ?_, hinformed⟩⟩
    obtain rfl := Hand.owning.inj hh
    exact .inr ⟨fun hc => absurd (hpast hc) (UInt64.lt_irrefl m), hl⟩

lemma go (hs : Sound sends a d n told hand c) (node : Node) (i : ι) {rest : Client}
    (hp : ∀ b, rest.signer.principal = .ok b → b = a) (custody : Custody) :
    (∃ hand', Sound sends a d n told hand' (c.go sends node i rest custody)) ∨
      ∃ seen l m, told i seen ∧ c.counter a = some l ∧
        (c.go sends node i rest custody).counter a = some m ∧
        (seen.told a).next? = some m ∧ m ≤ n ∧ n ≤ l := by
  by_cases hseen : c.pending i ∧ (c.seen i).isNone
  · rw [Crowd.go, if_pos hseen]
    exact .inl ⟨hand, hs⟩
  rw [Crowd.go, if_neg hseen]
  set replies : Replies := fun call => node.replies ((c.seen i).getD c.ledger) custody call
  have hhonest (call : Call) (_ : c.pool.waits? i = some call) (_ : hand i = .sent) :
      call.Honest (replies call) := Node.replies_honest call
  rcases hs.orderly.go rest (fun _ => hp) hhonest with ⟨hstuck, he⟩ | ⟨h, h', r, he, hg, ho, hst, -⟩
  · rw [show c.pool.step (job sends) (.go i rest replies) = c.pool from he]
    refine .inl ⟨hand, hs.stay (List.eq_nil_iff_forall_not_mem.2 fun note hm => ?_)⟩
    obtain ⟨tx, hw, -⟩ := mem_submission.1 hm
    cases hstuck.2 _ hw
  · rw [show c.pool.step (job sends) (.go i rest replies) = c.pool.put i r from he]
    exact hs.put hg (fun k hk => hs.tells hg hseen hk) ho hst

end Sound

lemma sound_start (b : NonceBook) (l : Ledger) :
    Sound sends a (b.ref a).index n told (fun _ => .eager) (start b l) where
  orderly := orderly_start NonceBook.current_ref
  counted := by
    rintro (⟨i, hi⟩ | ⟨note, hm, -⟩)
    · cases hi
    · cases hm
  single _ _ h := by cases h
  waiting _ h := by cases h
  noted _ _ h := by cases h
  fresh := .nil
  informed _ _ h := by cases h
  seen _ _ h := by cases h

variable [DecidableEq ι]

section Runs

def Told (sends : ι → Requester × Template) (node : Node) (c : Crowd ι) (acts : List (Act ι)) (i : ι)
    (l : Ledger) : Prop :=
  ∃ asked, asked ++ [.serve i] <+: acts ∧ (c.run sends node asked).ledger = l

variable {acts : List (Act ι)} {act : Act ι} {l : Ledger}

lemma run_concat : c.run sends node (acts ++ [act]) = (c.run sends node acts).step sends node act := by
  simp [run]

lemma Told.concat (act : Act ι) (h : Told sends node c acts i l) :
    Told sends node c (acts ++ [act]) i l := by
  obtain ⟨asked, hpre, hl⟩ := h
  exact ⟨asked, hpre.trans (List.prefix_append _ _), hl⟩

lemma TakenBack.concat (h : TakenBack sends node c acts a n) :
    TakenBack sends node c (acts ++ [act]) a n := by
  obtain ⟨asked, pre, k, rest, custody, post, l, m, rfl, h⟩ := h
  exact ⟨asked, pre, k, rest, custody, post ++ [act], l, m, by simp, h⟩

lemma sound_run (b : NonceBook) (l : Ledger) (acts : List (Act ι))
    (hp : ∀ i rest custody, .go i rest custody ∈ acts → ∀ b, rest.signer.principal = .ok b → b = a) :
    TakenBack sends node (start b l) acts a n ∨
      ∃ hand, Sound sends a (b.ref a).index n (Told sends node (start b l) acts) hand
        ((start b l).run sends node acts) := by
  induction acts using List.reverseRecOn with
  | nil => exact .inr ⟨_, sound_start b l⟩
  | append_singleton acts act ih =>
    rcases ih fun i rest custody hm => hp i rest custody (List.mem_append_left _ hm) with
      hback | ⟨hand, hs⟩
    · exact .inl hback.concat
    have hs' := hs.mono fun i l h => Told.concat act h
    rw [run_concat]
    cases act with
    | serve i => exact .inr ⟨hand, hs'.serve i ⟨acts, List.prefix_rfl, rfl⟩⟩
    | go i rest custody =>
      rcases hs.go node i (hp i rest custody (by simp)) custody with
        ⟨hand', hs''⟩ | ⟨seen, l', m, ⟨asked, hpre, rfl⟩, hl, hm, h⟩
      · exact .inr ⟨hand', hs''.mono fun i l h => Told.concat _ h⟩
      · exact .inl ⟨asked, acts, i, rest, custody, [], l', m, rfl, hpre, hl, by rwa [run_concat], h⟩

end Runs

/-- A nonce is submitted again only after the counter of the account has been taken back over it, by a
send that rebinds to what the node told it while others went on counting. -/
theorem submitted_again_taken_back {ι : Type} [DecidableEq ι] (sends : ι → Requester × Template)
    (node : Node) (a : Address) (b : NonceBook) (l : Ledger) (acts : List (Act ι))
    (hp : ∀ i rest custody, .go i rest custody ∈ acts → ∀ b, rest.signer.principal = .ok b → b = a)
    (pre post : List (Note ι)) (i : ι) (tx : SignedTransaction) (note : Note ι)
    (h : ((start b l).run sends node acts).notes = pre ++ .submitted i tx :: post)
    (hm : note ∈ pre) (hn : note.nonce = tx.tx.nonce) :
    TakenBack sends node (start b l) acts a tx.tx.nonce := by
  refine (sound_run b l acts hp).resolve_right ?_
  rintro ⟨hand, hs⟩
  have hfresh := hs.fresh
  rw [h] at hfresh
  exact (List.pairwise_append.1 hfresh).2.2 note hm _ (List.mem_cons_self ..) i tx rfl rfl hn

theorem submitted_again_taken_back_asleep :
    let a : Address := ⟨Curve.Point.base⟩
    let sig₂ : Signature :=
      { r := ⟨0xcb0fe8f292da592cb337ad9a218e62ccf4fae5c55772b7f2c352d658f328f8e,
          by decide, by decide⟩
        s := ⟨0x4bb9378fdd61fa6a627ac84357543045ad0b693aaac4662e0fcae1ff4a052edf,
          by decide, by decide⟩
        low := by decide }
    let sig₃ : Signature :=
      { r := ⟨0x99563ce508feb945d3f15f42c10cecb454888fe209ccc0f229ee7997d96c0f87,
          by decide, by decide⟩
        s := ⟨0x411291d1e3546329c97b05a6e740f0baf81c2cb8a2e9143680757694a568b560,
          by decide, by decide⟩
        low := by decide }
    let custody : Custody := fun
      | .sign _ tx => .ok (if tx.nonce = 2 then sig₂ else sig₃)
      | call => (Call.custody call).silence
    let chain : ChainId := .ofName []
    let t : Template := { recipient := some a, amount := 5 }
    let node : Node := ⟨fun _ => 0, fun _ => "", SignedTransaction.hash⟩
    let rest : Client := .start (.remote ⟨some ⟨a, ⟨"one"⟩⟩⟩) none
    let go (i : Bool) : Act Bool := .go i rest custody
    let acts := [go false, go false, .serve false, go false, .serve false, go false,
      go true, go true, .serve true, go false, go false]
    let sends : Bool → Requester × Template := fun _ => (⟨.standard, some chain⟩, t)
    let c : Crowd Bool :=
      .start ((NonceBook.touch .empty a).put (NonceBook.empty.ref a) 1) fun _ => {1, 2}
    (c.run sends node acts).notes =
        [.submitted false ⟨t.fill chain a 2, sig₂⟩, .submitted true ⟨t.fill chain a 3, sig₃⟩,
          .accepted true ⟨t.fill chain a 3, sig₃⟩] ++ .submitted false ⟨t.fill chain a 3, sig₃⟩ :: [] ∧
      TakenBack sends node c acts a 3 := by
  intro a sig₂ sig₃ custody chain t node rest go acts sends c
  have hnotes : (c.run sends node acts).notes =
      [.submitted false ⟨t.fill chain a 2, sig₂⟩, .submitted true ⟨t.fill chain a 3, sig₃⟩,
        .accepted true ⟨t.fill chain a 3, sig₃⟩] ++ .submitted false ⟨t.fill chain a 3, sig₃⟩ :: [] := by
    decide +kernel
  refine ⟨hnotes, ?_⟩
  refine submitted_again_taken_back sends node a _ _ acts ?_ _ [] false _ (.accepted true _) hnotes
    (by simp) rfl
  have hrest : ∀ act ∈ acts, ∀ i r k, act = .go i r k → r = rest := by
    simp +contextual only [acts, go, List.forall_mem_cons, List.not_mem_nil, false_implies, implies_true,
      Act.go.injEq, reduceCtorEq, and_true, eq_comm]
  intro i rest' custody' h b hb
  rw [hrest _ h i rest' custody' rfl] at hb
  exact (Except.ok.inj hb).symm

end Crowd

end LedgerClient
