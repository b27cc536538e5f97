import LedgerClient.Proofs.Json.Document
import LedgerClient.Proofs.Json.Glossary
import LedgerClient.Submission.Wallet

namespace LedgerClient

open Json

namespace RetryConfig

inductive Item where
  | tries (n : UInt32)
  | intervalMs (n : UInt64)
  | retriesConnections (b : Bool)
  | other (name : String) (value : Wording) (unknown : name ∉ record.names)

namespace Item

def entry : Item → Entry
  | tries n => ("try_count", (Value.natural n.toNat).Spells)
  | intervalMs n => ("interval_ms", (Value.natural n.toNat).Spells)
  | retriesConnections b => ("retry_on_connection_error", (Value.boolean b).Spells)
  | other name value _ => (name, value)

def Sound : Item → Prop
  | other .. => False
  | _ => True

def set (r : RetryConfig) : Item → RetryConfig
  | tries n => { r with tries := n }
  | intervalMs n => { r with intervalMs := n }
  | retriesConnections b => { r with retriesConnections := b }
  | other .. => r

def put (m : Members) : Item → Members
  | tries n => { m with tries := some n }
  | intervalMs n => { m with intervalMs := some n }
  | retriesConnections b => { m with retriesConnections := some b }
  | other .. => m

end Item

def ofItems (items : List Item) : RetryConfig := items.foldl Item.set {}

lemma knows (i : Item) : record.Knows i.entry i.Sound (i.put ·) := by
  cases i with
  | tries n => exact .known rfl (fun _ _ => (takes_word32 n).bind_pure _) (absurd trivial)
  | intervalMs n => exact .known rfl (fun _ _ => (takes_word64 n).bind_pure _) (absurd trivial)
  | retriesConnections b =>
    exact .known rfl (fun _ _ => (takes_boolean b).bind_pure _) (absurd trivial)
  | other name value unknown => exact .of_unknown unknown _

def glossary : record.Glossary Item where
  entry := Item.entry
  Sound := Item.Sound
  put := Item.put
  set := Item.set
  standard := {}
  knows := knows
  met_start := by simp [record]
  met_put s i hsound := by
    cases i with
    | other => exact hsound.elim
    | _ => simp [record, Item.put, Item.entry]
  finish_start := rfl
  finish_put i s a h := by
    cases h
    cases i <;> rfl
  set_comm a i j h := by
    cases i <;> cases j <;> first | rfl | exact absurd rfl h

end RetryConfig

namespace ClientConfig

inductive Item where
  | chain (c : Option ChainId)
  | retry (items : List RetryConfig.Item)
  | logLevel (s : String)
  | logFormat (f : LogFormat)
  | metricsFamily (s : String)
  | other (name : String) (value : Wording) (unknown : name ∉ record.names)

def ChainText : Option ChainId → Wording
  | none => Value.null.Spells
  | some c => fun cs => ∃ s, ChainId.decode s = .ok c ∧ Quotes s cs

def FormatText (f : LogFormat) : Wording := fun cs =>
  Quotes f.name cs ∨ ObjectText [(f.name, Value.null.Spells)] cs

namespace Item

def entry : Item → Entry
  | chain c => ("chain_id", ChainText c)
  | retry items => ("retry", ObjectText (items.map RetryConfig.Item.entry))
  | logLevel s => ("log_level", Quotes s)
  | logFormat f => ("log_format", FormatText f)
  | metricsFamily s => ("metrics_prefix", Quotes s)
  | other name value _ => (name, value)

def Sound : Item → Prop
  | retry items => Proper RetryConfig.Item.entry RetryConfig.Item.Sound items
  | other .. => False
  | _ => True

def set (c : ClientConfig) : Item → ClientConfig
  | chain new => { c with chain := new }
  | retry items => { c with retry := .ofItems items }
  | logLevel s => { c with logLevel := s }
  | logFormat f => { c with logFormat := f }
  | metricsFamily s => { c with metricsFamily := s }
  | other .. => c

def put (m : Members) : Item → Members
  | chain new => { m with chain := some new }
  | retry items => { m with retry := some (.ofItems items) }
  | logLevel s => { m with logLevel := some s }
  | logFormat f => { m with logFormat := some f }
  | metricsFamily s => { m with metricsFamily := some s }
  | other .. => m

end Item

def ofItems (items : List Item) : ClientConfig := items.foldl Item.set {}

lemma takes_chain : ∀ c, Takes (optional ChainId.read) (ChainText c) c
  | none => takes_null
  | some _ => fun _ _ hw ⟨_, hs, hcs⟩ => takes_some (takes_ofText hs) hw hcs

lemma takes_logFormat (f : LogFormat) : Takes LogFormat.read (FormatText f) f := by
  have hlookup : ([LogFormat.pretty, .json].map fun f => (f.name, f)).lookup f.name = some f := by
    cases f <;> rfl
  rintro w cs hw (hcs | hcs)
  · exact takes_choice hlookup hw hcs
  · exact takes_choice_object hlookup hw hcs

lemma knows (i : Item) : record.Knows i.entry i.Sound (i.put ·) := by
  cases i with
  | chain c => exact .known rfl (fun _ _ => (takes_chain c).bind_pure _) (absurd trivial)
  | retry items =>
    refine .known rfl (fun hproper _ => ?_) (fun hproper _ => ?_)
    · exact (RetryConfig.glossary.takes hproper).bind_pure _
    · exact (RetryConfig.glossary.refuses rfl hproper).bind _
  | logLevel s => exact .known rfl (fun _ _ => (takes_string s).bind_pure _) (absurd trivial)
  | logFormat f => exact .known rfl (fun _ _ => (takes_logFormat f).bind_pure _) (absurd trivial)
  | metricsFamily s => exact .known rfl (fun _ _ => (takes_string s).bind_pure _) (absurd trivial)
  | other name value unknown => exact .of_unknown unknown _

def glossary : record.Glossary Item where
  entry := Item.entry
  Sound := Item.Sound
  put := Item.put
  set := Item.set
  standard := {}
  knows := knows
  met_start := by simp [record]
  met_put s i hsound := by
    cases i with
    | other => exact hsound.elim
    | _ => simp [record, Item.put, Item.entry]
  finish_start := rfl
  finish_put i s a h := by
    cases h
    cases i <;> rfl
  set_comm a i j h := by
    cases i <;> cases j <;> first | rfl | exact absurd rfl h

def Usable (c : ClientConfig) : Prop := 1 ≤ c.retry.tries.toNat ∧ c.metricsFamily ≠ ""

def Lays (items : List Item) (text : String) : Prop :=
  Spaced (ObjectText (items.map Item.entry)) text.toList

variable {c : ClientConfig} {items : List Item} {text : String}

lemma validate_eq_ok : c.validate = .ok () ↔ c.Usable := by
  simp only [validate, ite_error_eq_ok, and_true, Usable, Nat.one_le_iff_ne_zero, ne_eq,
    ← UInt32.toNat_inj, UInt32.toNat_zero]

lemma validate_eq_error (h : ¬ c.Usable) : ∃ cause, c.validate = .error (.unusable cause) := by
  by_cases htries : c.retry.tries = 0
  · exact ⟨_, if_pos htries⟩
  · by_cases hfamily : c.metricsFamily = ""
    · exact ⟨_, (if_neg htries).trans (if_pos hfamily)⟩
    · exact absurd (validate_eq_ok.1 ((if_neg htries).trans (if_neg hfamily))) h

lemma load_eq_ok : load text = .ok c ↔ parse text = .ok c ∧ c.Usable := by
  simp only [load, exceptBind_eq_ok, ← validate_eq_ok]
  constructor
  · rintro ⟨_, hparse, _, hvalid, ⟨⟩⟩
    exact ⟨hparse, hvalid⟩
  · rintro ⟨hparse, hvalid⟩
    exact ⟨c, hparse, (), hvalid, rfl⟩

lemma load_of_unusable (hparse : parse text = .ok c) (h : ¬ c.Usable) :
    ∃ cause, load text = .error (.unusable cause) := by
  obtain ⟨cause, hcause⟩ := validate_eq_error h
  refine ⟨cause, ?_⟩
  rw [load, hparse, exceptBind_ok, hcause]
  rfl

lemma parse_of_proper (h : Lays items text) (hproper : Proper Item.entry Item.Sound items) :
    parse text = .ok (ofItems items) := by
  rw [parse, read, document_takes (glossary.takes hproper) h]
  rfl

lemma load_of_improper (h : Lays items text) (hproper : ¬ Proper Item.entry Item.Sound items) :
    ∃ fault, load text = .error (.parse fault) := by
  obtain ⟨fault, hfault⟩ := document_refuses (glossary.refuses rfl hproper) h
  refine ⟨fault, ?_⟩
  rw [load, parse, read, hfault]
  rfl

lemma ofConfig_of_usable (h : c.Usable) (signer : Signer) : ∃ w, Wallet.ofConfig signer c = .ok w ∧
    w.requester.policy.tries = c.retry.tries ∧
    w.requester.policy.interval = .ofMillis c.retry.intervalMs ∧
    w.requester.policy.retriesConnections = c.retry.retriesConnections ∧
    w.requester.chain = c.chain := by
  have hmetrics : Wallet.metrics c = .ok (.start c.metricsFamily) := by
    rw [Wallet.metrics, Metrics.create, if_neg h.2]
    rfl
  have hpolicy : c.policy =
      .ok ⟨c.retry.tries, .ofMillis c.retry.intervalMs, c.retry.retriesConnections, h.1⟩ := dif_pos h.1
  refine ⟨⟨⟨⟨_, _, _, h.1⟩, c.chain⟩, .start signer (some (.start c.metricsFamily))⟩, ?_, rfl, rfl,
    rfl, rfl⟩
  rw [Wallet.ofConfig, validate_eq_ok.2 h, hmetrics, hpolicy]
  rfl

/-- The text of an object of settings is loaded as the settings that are given and the defaults for
the others, in whatever order and layout they stand, unless that cannot be worked with. A name that
is not a setting or that stands twice, here or among the retry settings, makes the text unreadable.
A wallet can be wired from all that is loaded, and makes its requests as it says. -/
theorem settings_loaded :
    (∀ items text, Lays items text →
      (Proper Item.entry Item.Sound items →
        ((ofItems items).Usable → load text = .ok (ofItems items)) ∧
        (¬ (ofItems items).Usable → ∃ cause, load text = .error (.unusable cause))) ∧
      (¬ Proper Item.entry Item.Sound items → ∃ fault, load text = .error (.parse fault))) ∧
    (∀ items items', items.Perm items' → Proper Item.entry Item.Sound items →
      Proper Item.entry Item.Sound items' ∧ ofItems items' = ofItems items) ∧
    (∀ items items', items.Perm items' →
      Proper RetryConfig.Item.entry RetryConfig.Item.Sound items →
        Proper RetryConfig.Item.entry RetryConfig.Item.Sound items' ∧
          RetryConfig.ofItems items' = RetryConfig.ofItems items) ∧
    ∀ text c signer, load text = .ok c → ∃ w, Wallet.ofConfig signer c = .ok w ∧
      w.requester.policy.tries = c.retry.tries ∧
      w.requester.policy.interval = .ofMillis c.retry.intervalMs ∧
      w.requester.policy.retriesConnections = c.retry.retriesConnections ∧
      w.requester.chain = c.chain := by
  refine ⟨fun items text h => ⟨fun hproper => ⟨fun husable => ?_, fun husable => ?_⟩, ?_⟩,
    fun items items' hperm hproper => ⟨?_, ?_⟩, fun items items' hperm hproper => ⟨?_, ?_⟩,
    fun text c signer h => ?_⟩
  · exact load_eq_ok.2 ⟨parse_of_proper h hproper, husable⟩
  · exact load_of_unusable (parse_of_proper h hproper) husable
  · exact load_of_improper h
  · exact hproper.perm hperm
  · exact (glossary.foldl_perm hproper hperm _).symm
  · exact hproper.perm hperm
  · exact (RetryConfig.glossary.foldl_perm hproper hperm _).symm
  · exact ofConfig_of_usable (load_eq_ok.1 h).2 signer

theorem settings_loaded_partial :
    load "\x7b\"log_format\": \"json\",\"retry\":\x7b \"try_count\":5\x7d \x7d" =
      .ok { retry := { tries := 5 }, logFormat := .json } := by
  have hblank : Blank [' '] := by simp [Blank, isSpace]
  have hformat : EntryText (Item.logFormat .json).entry _ :=
    ⟨_, _, spaced_self (quotes_write _),
      ⟨[' '], _, [], hblank, .inl (quotes_write _), blank_nil, rfl⟩, rfl⟩
  have htries : EntryText (RetryConfig.Item.tries 5).entry _ :=
    ⟨_, _, ⟨[' '], _, [], hblank, quotes_write _, blank_nil, rfl⟩, spaced_self rfl, rfl⟩
  have hretry : EntryText (Item.retry [.tries 5]).entry _ :=
    ⟨_, _, spaced_self (quotes_write _),
      spaced_self ⟨_, [], .cons htries .nil, blank_nil, rfl⟩, rfl⟩
  refine ((settings_loaded.1 [.logFormat .json, .retry [.tries 5]] _ ?_).1 ?_).1 ?_
  · exact ⟨[], _, [], blank_nil, ⟨_, [' '], .cons hformat (.cons hretry .nil), hblank, rfl⟩,
      blank_nil, by decide +kernel⟩
  · simp [Proper, Item.Sound, Item.entry, RetryConfig.Item.Sound, RetryConfig.Item.entry]
  · exact ⟨by decide, by decide⟩

end ClientConfig

end LedgerClient
