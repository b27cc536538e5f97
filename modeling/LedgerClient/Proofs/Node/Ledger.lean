import LedgerClient.Node.Basic
import LedgerClient.Proofs.Client.Course

/-! A node that keeps the spent nonces of every account. Its clients are told up to where they are
spent without a gap. -/

namespace LedgerClient

def confirmed (spent : Finset ℕ) : ℕ :=
  Nat.findGreatest (fun f => Finset.Icc 1 f ⊆ spent) spent.card

lemma isGreatest_confirmed (spent : Finset ℕ) :
    IsGreatest {f | Finset.Icc 1 f ⊆ spent} (confirmed spent) := by
  constructor
  · exact Nat.findGreatest_spec (P := fun f => Finset.Icc 1 f ⊆ spent) (Nat.zero_le _) (by simp)
  · intro f hf
    refine Nat.le_findGreatest ?_ hf
    simpa using Finset.card_le_card hf

lemma confirmed_add_one_notMem (spent : Finset ℕ) : confirmed spent + 1 ∉ spent := by
  intro h
  have hsub : Finset.Icc 1 (confirmed spent + 1) ⊆ spent := by
    intro n hn
    obtain ⟨hpos, hle⟩ := Finset.mem_Icc.1 hn
    rcases Nat.lt_or_eq_of_le hle with hlt | rfl
    · exact (isGreatest_confirmed spent).1 (Finset.mem_Icc.2 ⟨hpos, Nat.lt_succ_iff.1 hlt⟩)
    · exact h
  exact absurd ((isGreatest_confirmed spent).2 hsub) (Nat.not_succ_le_self _)

abbrev Ledger := Address → Finset ℕ

namespace Ledger

def confirmed (l : Ledger) (a : Address) : ℕ := LedgerClient.confirmed (l a)

def told (l : Ledger) (a : Address) : Nonce := UInt64.ofNat (l.confirmed a)

def spend (l : Ledger) (a : Address) (n : ℕ) : Ledger := Function.update l a (insert n (l a))

def Open (l : Ledger) (a : Address) (n : ℕ) : Prop := l.confirmed a < n ∧ n ∉ l a

instance (l : Ledger) (a : Address) (n : ℕ) : Decidable (l.Open a n) :=
  inferInstanceAs (Decidable (_ ∧ _))

variable (l : Ledger) (a : Address)

lemma open_confirmed_add_one : l.Open a (l.confirmed a + 1) :=
  ⟨Nat.lt_succ_self _, confirmed_add_one_notMem _⟩

lemma next?_told (h : l.confirmed a + 1 < UInt64.size) :
    (l.told a).next? = some (l.told a + 1) ∧ (l.told a + 1).toNat = l.confirmed a + 1 := by
  have hf : (l.told a).toNat = l.confirmed a := UInt64.toNat_ofNat_of_lt (by omega)
  refine ⟨if_pos (by rwa [hf]), ?_⟩
  rw [UInt64.toNat_add, hf]
  exact Nat.mod_eq_of_lt h

end Ledger

abbrev Custody := (call : CustodyCall) → call.Reply

structure Node where
  balance : Address → Amount
  detail : SignedTransaction → String
  hash : SignedTransaction → TxHash

namespace Node

variable (node : Node) (l : Ledger)

def state (a : Address) : AccountState := ⟨a, l.told a, node.balance a⟩

def refusal? (tx : SignedTransaction) : Option CommitStatus :=
  if tx.tx.nonce.toNat ≤ l.confirmed tx.tx.sender then some .nonceTooLow
  else if tx.tx.nonce.toNat ∈ l tx.tx.sender then some .duplicateNonce
  else none

def verdict (tx : SignedTransaction) : Except NodeError TxHash :=
  match refusal? l tx with
  | some status => .error (.rejected ⟨status, node.detail tx⟩)
  | none => .ok (node.hash tx)

def commit (tx : SignedTransaction) : Ledger :=
  match refusal? l tx with
  | some _ => l
  | none => l.spend tx.tx.sender tx.tx.nonce.toNat

def replies (custody : Custody) : (call : Call) → call.Reply
  | .readState a => .ok (node.state l a)
  | .submit tx => node.verdict l tx
  | .custody call => custody call
  | call => call.silence

variable {node l} {tx : SignedTransaction}

lemma refusal?_eq_none : refusal? l tx = none ↔ l.Open tx.tx.sender tx.tx.nonce.toNat := by
  unfold refusal? Ledger.Open
  split
  · simp_all
  · split <;> simp_all

lemma isRetryable_of_refusal? {status : CommitStatus} (h : refusal? l tx = some status) :
    status.isRetryable := by
  unfold refusal? at h
  split at h
  · cases h
    rfl
  · split at h
    · cases h
      rfl
    · cases h

lemma accepts (node : Node) (h : l.Open tx.tx.sender tx.tx.nonce.toNat) :
    node.verdict l tx = .ok (node.hash tx) ∧
      commit l tx = l.spend tx.tx.sender tx.tx.nonce.toNat := by
  have hr := refusal?_eq_none.2 h
  exact ⟨by rw [verdict, hr], by rw [commit, hr]⟩

lemma refuses (node : Node) (h : ¬ l.Open tx.tx.sender tx.tx.nonce.toNat) :
    (∃ cause : Rejection, cause.isRetryable ∧ node.verdict l tx = .error (.rejected cause)) ∧
      commit l tx = l := by
  cases hr : refusal? l tx with
  | none => exact absurd (refusal?_eq_none.1 hr) h
  | some status =>
    refine ⟨⟨⟨status, node.detail tx⟩, isRetryable_of_refusal? hr, by rw [verdict, hr]⟩, ?_⟩
    rw [commit, hr]

end Node

end LedgerClient
