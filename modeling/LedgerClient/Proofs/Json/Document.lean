import LedgerClient.Config.Document
import LedgerClient.Node.Document
import LedgerClient.Proofs.Identity.Compression
import LedgerClient.Proofs.Json.Record

namespace LedgerClient

open Json

lemma Address.reads (a : Address) : Takes Address.read a.write.Spells a :=
  takes_ofText (Address.faithful.read_write a)

lemma ChainId.reads (c : ChainId) : Takes ChainId.read c.write.Spells c :=
  takes_ofText (ChainId.faithful.read_write c)

lemma Amount.reads (a : Amount) : Takes Amount.read (Amount.write a).Spells a :=
  takes_wide a

lemma TxKind.reads (k : TxKind) : Takes TxKind.read k.write.Spells k := by
  apply takes_choice
  cases k <;> rfl

lemma CommitStatus.reads (s : CommitStatus) : Takes CommitStatus.read s.write.Spells s := by
  apply takes_choice
  cases s <;> rfl

lemma LogFormat.reads (f : LogFormat) : Takes LogFormat.read f.write.Spells f := by
  apply takes_choice
  cases f <;> rfl

lemma Fee.reads (f : Fee) : Takes Fee.read f.write.Spells f := by
  refine Record.takes_object (s := ⟨some f.limit, some f.price⟩) ?_ rfl
  refine Record.Fills.member rfl rfl ((takes_word64 f.limit).bind_pure _) ?_
  refine Record.Fills.member rfl rfl ((Amount.reads f.price).bind_pure _) ?_
  exact Record.Fills.done _

lemma RetryConfig.reads (r : RetryConfig) : Takes RetryConfig.read r.write.Spells r := by
  refine Record.takes_object
    (s := ⟨some r.tries, some r.intervalMs, some r.retriesConnections⟩) ?_ rfl
  refine Record.Fills.member rfl rfl ((takes_word32 r.tries).bind_pure _) ?_
  refine Record.Fills.member rfl rfl ((takes_word64 r.intervalMs).bind_pure _) ?_
  refine Record.Fills.member rfl rfl ((takes_boolean r.retriesConnections).bind_pure _) ?_
  exact Record.Fills.done _

lemma Transaction.reads (tx : Transaction) : Takes Transaction.read tx.write.Spells tx := by
  refine Record.takes_object (s := ⟨some tx.chain, some tx.sender, some tx.recipient,
    some tx.amount, some tx.nonce, some tx.fee, some tx.payload, some tx.kind⟩) ?_ rfl
  refine Record.Fills.member rfl rfl (tx.chain.reads.bind_pure _) ?_
  refine Record.Fills.member rfl rfl (tx.sender.reads.bind_pure _) ?_
  refine Record.Fills.member rfl rfl ((takes_optional Address.reads tx.recipient).bind_pure _) ?_
  refine Record.Fills.member rfl rfl ((Amount.reads tx.amount).bind_pure _) ?_
  refine Record.Fills.member rfl rfl ((takes_word64 tx.nonce).bind_pure _) ?_
  refine Record.Fills.member rfl rfl (tx.fee.reads.bind_pure _) ?_
  refine Record.Fills.member rfl rfl ((takes_list takes_byte tx.payload).bind_pure _) ?_
  refine Record.Fills.member rfl rfl (tx.kind.reads.bind_pure _) ?_
  exact Record.Fills.done _

lemma Rejection.reads (r : Rejection) : Takes Rejection.read r.write.Spells r := by
  refine Record.takes_object (s := ⟨some r.status, some r.detail⟩) ?_ rfl
  refine Record.Fills.member rfl rfl (r.status.reads.bind_pure _) ?_
  refine Record.Fills.member rfl rfl ((takes_string r.detail).bind_pure _) ?_
  exact Record.Fills.done _

lemma AccountState.reads (s : AccountState) : Takes AccountState.read s.write.Spells s := by
  refine Record.takes_object
    (s := ⟨some s.address, some s.nonce, some s.balance⟩) ?_ rfl
  refine Record.Fills.member rfl rfl (s.address.reads.bind_pure _) ?_
  refine Record.Fills.member rfl rfl ((takes_word64 s.nonce).bind_pure _) ?_
  refine Record.Fills.member rfl rfl ((Amount.reads s.balance).bind_pure _) ?_
  exact Record.Fills.done _

lemma ClientConfig.reads (c : ClientConfig) : Takes ClientConfig.read c.write.Spells c := by
  refine Record.takes_object (s := ⟨some c.chain, some c.retry, some c.logLevel,
    some c.logFormat, some c.metricsFamily⟩) ?_ rfl
  refine Record.Fills.member rfl rfl ((takes_optional ChainId.reads c.chain).bind_pure _) ?_
  refine Record.Fills.member rfl rfl (c.retry.reads.bind_pure _) ?_
  refine Record.Fills.member rfl rfl ((takes_string c.logLevel).bind_pure _) ?_
  refine Record.Fills.member rfl rfl (c.logFormat.reads.bind_pure _) ?_
  refine Record.Fills.member rfl rfl ((takes_string c.metricsFamily).bind_pure _) ?_
  exact Record.Fills.done _

namespace Json

variable {α : Type} {read : Reader α} {write : α → Value}

def ReadsBack (read : Reader α) (write : α → Value) : Prop :=
  ∀ a, document read (write a).render = .ok a

lemma readsBack (h : ∀ a, Takes read (write a).Spells a) : ReadsBack read write := by
  intro a
  refine document_takes (h a) (spaced_self ?_)
  rw [Value.render, String.toList_ofList]
  exact (write a).spells_chars

end Json

lemma ClientConfig.parse_write (c : ClientConfig) : parse c.write.render = .ok c := by
  rw [parse, readsBack ClientConfig.reads c]

lemma ClientConfig.load_write (c : ClientConfig) :
    load c.write.render = c.validate.map fun _ => c := by
  rw [load, parse_write]
  rfl

lemma ClientConfig.load_write_eq_ok (c : ClientConfig) :
    (∃ c', load c.write.render = .ok c') ↔ c.validate = .ok () := by
  rw [load_write]
  cases c.validate with
  | error cause => exact iff_of_false nofun nofun
  | ok => exact iff_of_true ⟨c, rfl⟩ rfl

/-- Transactions, account states, refusals and settings are read back from what they are written
as. A transaction keeps its hash, and the text of settings is refused for what the settings are,
or not at all. -/
theorem documents_read_back :
    ReadsBack Transaction.read Transaction.write ∧ ReadsBack AccountState.read AccountState.write ∧
      ReadsBack Rejection.read Rejection.write ∧ ReadsBack ClientConfig.read ClientConfig.write ∧
      (∀ tx : Transaction,
        (document Transaction.read tx.write.render).map Transaction.hash = .ok tx.hash) ∧
      ∀ c : ClientConfig,
        (ClientConfig.load c.write.render = c.validate.map fun _ => c) ∧
          ((∃ c', ClientConfig.load c.write.render = .ok c') ↔ c.validate = .ok ()) := by
  refine ⟨readsBack Transaction.reads, readsBack AccountState.reads, readsBack Rejection.reads,
    readsBack ClientConfig.reads, ?_, fun c => ⟨c.load_write, c.load_write_eq_ok⟩⟩
  intro tx
  rw [readsBack Transaction.reads tx]
  rfl

end LedgerClient
