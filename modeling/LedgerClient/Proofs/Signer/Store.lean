import LedgerClient.Proofs.Identity.Compression
import LedgerClient.Proofs.Identity.Secret
import LedgerClient.Signer.KeyStore

namespace LedgerClient

namespace Address

variable {a b : Address}

lemma length_toBytes_eq (a b : Address) : a.toBytes.val.length = b.toBytes.val.length :=
  a.toBytes.property.trans b.toBytes.property.symm

lemma lt_iff : a.lt b ↔ Bytes.toNat a.toBytes.val < Bytes.toNat b.toBytes.val :=
  Bytes.lt_iff (length_toBytes_eq a b)

lemma mem_sort {as : List Address} : a ∈ sort as ↔ a ∈ as := List.mem_mergeSort

lemma pairwise_sort {as : List Address} (h : as.Nodup) : (sort as).Pairwise fun a b => a.lt b := by
  have hle (a b : Address) : (!b.lt a) = true ↔
      Bytes.toNat a.toBytes.val ≤ Bytes.toNat b.toBytes.val := by
    rw [Bool.not_eq_true', Bool.eq_false_iff, ne_eq, lt_iff, not_lt]
  have hsorted : (sort as).Pairwise fun a b => (!b.lt a) = true := by
    refine List.pairwise_mergeSort (fun a b c => ?_) (fun a b => ?_) _
    · simp only [hle]
      exact le_trans
    · rw [Bool.or_eq_true, hle, hle]
      exact le_total _ _
  have hnodup : (sort as).Nodup := (List.mergeSort_perm _ _).nodup_iff.2 h
  refine (hsorted.and hnodup).imp fun {a b} ⟨hab, hne⟩ => ?_
  refine lt_iff.2 (((hle a b).1 hab).lt_of_ne fun heq => hne ?_)
  exact toBytes_injective (Subtype.ext (Bytes.eq_of_toNat_eq (length_toBytes_eq a b) heq))

end Address

lemma Table.mem_keys {κ ν : Type} [DecidableEq κ] {t : Table κ ν} {k : κ} :
    k ∈ t.keys ↔ (t.get? k).isSome := by
  rw [Table.get?, List.lookup_isSome_iff, Table.keys, List.mem_map]
  refine exists_congr fun e => and_congr_right fun _ => ?_
  rw [beq_iff_eq, eq_comm]

namespace KeyStore

variable {s t : KeyStore} {a : Address} {c : Credential} {k : KeyPair} {sealed : SealedKey}

lemma mem_identities : a ∈ s.identities ↔ (s.get? a).isSome :=
  Address.mem_sort.trans Table.mem_keys

lemma pairwise_identities (s : KeyStore) : s.identities.Pairwise fun a b => a.lt b :=
  Address.pairwise_sort s.nodup

lemma save_eq (s : KeyStore) (k : KeyPair) (nonce : Gcm.Nonce) (c : Credential) :
    s.save k nonce c =
      .ok (k.address, s.set k.address ⟨Sealing.envelope nonce c.bytes k.toBytes.val⟩) := by
  rw [save, k.exportSealed_eq]

lemma address_of_load (h : s.load a c = .ok k) : k.address = a := by
  obtain ⟨sealed, -, h⟩ := exceptBind_eq_ok.1 h
  unfold reveal at h
  split at h
  · cases h
  · cases h
  · obtain ⟨ha, h⟩ := ite_else_error_eq_ok.1 h
    cases h
    exact ha

lemma load_of_none (h : s.get? a = none) : s.load a c = .error (.notFound a) := by
  rw [load, sealedKey, h]
  rfl

lemma eq_erase_of_remove (h : s.remove a c = .ok t) : t = s.erase a := by
  obtain ⟨_, -, h⟩ := exceptBind_eq_ok.1 h
  exact (Except.ok.inj h).symm

def Keeps (s : KeyStore) (k : KeyPair) (c : Credential) : Prop :=
  ∃ sealed, s.get? k.address = some sealed ∧ KeyPair.importSealed sealed c.bytes = .ok k

lemma keeps_save {nonce : Gcm.Nonce} (h : s.save k nonce c = .ok (a, t)) : t.Keeps k c := by
  rw [save_eq] at h
  cases h
  refine ⟨_, Table.get?_set_self _ _ _, ?_⟩
  rw [KeyPair.importSealed_of_enclose (k.enclose_toBytes nonce c.bytes), k.ofBytes_toBytes]

lemma reveal_of_import (h : KeyPair.importSealed sealed c.bytes = .ok k) :
    reveal sealed k.address c = .ok k := by
  rw [reveal, h]
  exact if_pos rfl

namespace Keeps

lemma load (h : s.Keeps k c) : s.load k.address c = .ok k := by
  obtain ⟨sealed, hget, himport⟩ := h
  rw [KeyStore.load, sealedKey, hget]
  exact reveal_of_import himport

lemma handOut (h : s.Keeps k c) :
    ∃ sealed, s.handOut k.address c = .ok sealed ∧
      KeyPair.importSealed sealed c.bytes = .ok k := by
  obtain ⟨sealed, hget, himport⟩ := h
  refine ⟨sealed, ?_, himport⟩
  rw [KeyStore.handOut, sealedKey, hget, exceptBind_ok, reveal_of_import himport]
  rfl

lemma remove (h : s.Keeps k c) : s.remove k.address c = .ok (s.erase k.address) := by
  rw [KeyStore.remove, h.load]
  rfl

end Keeps

end KeyStore

end LedgerClient
