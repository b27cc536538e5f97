import LedgerClient.Proofs.Text.Base58
import LedgerClient.Transaction.Basic

namespace LedgerClient

def trimmed (text : String) : String := String.ofList (trim text.toList)

structure Faithful {ε α : Type} (write : α → String) (read : String → Except ε α) : Prop where
  read_eq_ok (x : α) (text : String) : read text = .ok x ↔ trimmed text = write x
  read_write (x : α) : read (write x) = .ok x

variable {ε α : Type} {text : String} {cs : List Char}

lemma trim_of_forall (h : ∀ c ∈ cs, Char.isBlank c = false) : trim cs = cs := by
  have hdrop {l : List Char} (hl : ∀ c ∈ l, Char.isBlank c = false) :
      l.dropWhile Char.isBlank = l :=
    List.dropWhile_eq_self_iff.2 fun _ => by simp [hl _ (List.getElem_mem _)]
  rw [trim, hdrop h, hdrop fun c hc => h c (List.mem_reverse.1 hc), List.reverse_reverse]

lemma trimmed_eq_ofList : trimmed text = String.ofList cs ↔ trim text.toList = cs :=
  ⟨fun h => String.ofList_injective h, congrArg String.ofList⟩

lemma trimmed_ofList (h : ∀ c ∈ cs, Char.isBlank c = false) :
    trimmed (String.ofList cs) = String.ofList cs := by
  rw [trimmed_eq_ofList, String.toList_ofList, trim_of_forall h]

namespace Faithful

variable {write : α → String} {read : String → Except ε α}

lemma of_trimmed (hread : ∀ x text, read text = .ok x ↔ trimmed text = write x)
    (hwrite : ∀ x, trimmed (write x) = write x) : Faithful write read :=
  ⟨hread, fun x => (hread x _).2 (hwrite x)⟩

variable {β : Type}

lemma map (h : Faithful write read) (f : α ≃ β) :
    Faithful (fun y => write (f.symm y)) fun text => (read text).map f where
  read_eq_ok y text := by
    rw [map_eq_ok, ← h.read_eq_ok]
    exact ⟨fun ⟨x, hx, hy⟩ => by rwa [hy, f.symm_apply_apply],
      fun hx => ⟨_, hx, (f.apply_symm_apply y).symm⟩⟩
  read_write y := map_eq_ok.2 ⟨_, h.read_write _, (f.apply_symm_apply y).symm⟩

lemma bind (h : Faithful write read) {form : β → α} {parse : α → Except ε β}
    (hparse : ∀ x y, parse x = .ok y ↔ x = form y) :
    Faithful (fun y => write (form y)) fun text => read text >>= parse where
  read_eq_ok y text := by
    rw [exceptBind_eq_ok, ← h.read_eq_ok]
    exact ⟨fun ⟨x, hx, hy⟩ => (hparse x y).1 hy ▸ hx, fun hx => ⟨_, hx, (hparse _ _).2 rfl⟩⟩
  read_write y := exceptBind_eq_ok.2 ⟨_, h.read_write _, (hparse _ _).2 rfl⟩

end Faithful

namespace Versioned

variable {b payload raw : Bytes} {v : UInt8}

@[simp] lemma length_checksum (payload : Bytes) : (checksum payload).length = 4 := by
  rw [checksum, List.length_take, (sha256 _).property]
  rfl

lemma checked_eq_ok : checked b = .ok payload ↔ b = payload ++ checksum payload := by
  simp only [checked, ite_error_eq_ok, ite_else_error_eq_ok, Except.ok.injEq]
  constructor
  · rintro ⟨-, hsum, rfl⟩
    rw [hsum, List.take_append_drop]
  · rintro rfl
    simp

lemma split_eq_ok : split text = .ok (v, raw) ↔ trim text.toList = encodeChars v raw := by
  rw [split, exceptBind_eq_ok]
  simp only [exceptBind_eq_ok, Base58.decode_eq_ok, checked_eq_ok]
  constructor
  · rintro ⟨b, hb, payload, rfl, h⟩
    cases payload with
    | nil => cases h
    | cons version rest =>
      cases h
      exact hb
  · intro h
    exact ⟨_, h, v :: raw, rfl, rfl⟩

lemma decode_eq_ok : decode v text = .ok raw ↔ trimmed text = encode v raw := by
  rw [encode, trimmed_eq_ofList, ← split_eq_ok, decode]
  cases split text with
  | error cause => simp
  | ok found => simp [ite_else_error_eq_ok, Prod.ext_iff]

lemma decodeExact_eq_ok {n : ℕ} {raw : Bytes.Exact n} :
    decodeExact v n text = .ok raw ↔ decode v text = .ok raw.val := by
  rw [decodeExact, exceptBind_eq_ok]
  simp only [dite_else_error_eq_ok, Except.ok.injEq]
  constructor
  · rintro ⟨b, hb, h, rfl⟩
    exact hb
  · intro h
    exact ⟨raw.val, h, raw.property, rfl⟩

lemma trimmed_encode (v : UInt8) (raw : Bytes) : trimmed (encode v raw) = encode v raw :=
  trimmed_ofList (Base58.not_isBlank_encode _)

lemma faithful (v : UInt8) : Faithful (encode v) (decode v) :=
  .of_trimmed (fun _ _ => decode_eq_ok) (trimmed_encode v)

lemma faithful_exact (v : UInt8) (n : ℕ) :
    Faithful (fun raw : Bytes.Exact n => encode v raw.val) (decodeExact v n) :=
  .of_trimmed (fun _ _ => decodeExact_eq_ok.trans decode_eq_ok) fun raw => trimmed_encode v raw.val

end Versioned

namespace Digest

variable {d : Digest}

lemma decode_eq_ok : decode text = .ok d ↔ trimmed text = d.encode := by
  rw [encode, trimmed_eq_ofList, ← Base58.decode_eq_ok, decode]
  cases Base58.decode (trim text.toList) with
  | error cause => simp
  | ok b => simpa [dite_else_error_eq_ok, Subtype.ext_iff] using fun h => h ▸ d.property

lemma faithful : Faithful encode decode :=
  .of_trimmed (fun _ _ => decode_eq_ok) fun _ => trimmed_ofList (Base58.not_isBlank_encode _)

end Digest

lemma ChainId.faithful : Faithful encode decode :=
  Digest.faithful.map ⟨ChainId.mk, ChainId.digest, fun _ => rfl, fun _ => rfl⟩

lemma TxHash.faithful : Faithful encode decode :=
  Digest.faithful.map ⟨TxHash.mk, TxHash.digest, fun _ => rfl, fun _ => rfl⟩

/-- Byte strings of every version, chains and transaction hashes each have one text. -/
theorem texts_faithful :
    (∀ v, Faithful (Versioned.encode v) (Versioned.decode v)) ∧
      Faithful ChainId.encode ChainId.decode ∧ Faithful TxHash.encode TxHash.decode :=
  ⟨Versioned.faithful, ChainId.faithful, TxHash.faithful⟩

end LedgerClient
