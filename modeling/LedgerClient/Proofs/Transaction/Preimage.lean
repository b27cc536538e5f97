import LedgerClient.Proofs.Curve.Confusion
import LedgerClient.Proofs.Identity.Compression
import LedgerClient.Proofs.Identity.KeyPair
import LedgerClient.Transaction.Signed

/-! What the hashed bytes of a transaction tell of it: all but where the fields between the sender
and the kind begin and end. -/

namespace LedgerClient

open Curve

def Sha256.Collision (b c : Bytes) : Prop := b ≠ c ∧ sha256 b = sha256 c

lemma Address.exists_ofSecret (a : Address) : ∃ k, a = ofSecret k := by
  obtain ⟨k, hk⟩ := exists_publicPoint a.point
  exact ⟨k, congrArg Address.mk hk.symm⟩

namespace Transaction

variable (tx tx' : Transaction)

def body : Bytes :=
  tx.recipientBytes ++ Bytes.minimal tx.amount.val ++ tx.payload ++
    Bytes.littleEndian 8 tx.fee.limit.toNat ++ Bytes.minimal tx.fee.price.val

structure Alike : Prop where
  nonce : tx.nonce = tx'.nonce
  sender : tx.sender = tx'.sender
  kind : tx.kind = tx'.kind
  chain : tx.chain = tx'.chain
  body : tx.body = tx'.body

inductive Change : Transaction → Prop
  | chain {c : ChainId} (h : c ≠ tx.chain) : Change { tx with chain := c }
  | sender {a : Address} (h : a ≠ tx.sender) : Change { tx with sender := a }
  | recipient {a : Option Address} (h : a ≠ tx.recipient) : Change { tx with recipient := a }
  | amount {n : Amount} (h : n ≠ tx.amount) : Change { tx with amount := n }
  | nonce {n : Nonce} (h : n ≠ tx.nonce) : Change { tx with nonce := n }
  | limit {n : UInt64} (h : n ≠ tx.fee.limit) : Change { tx with fee := { tx.fee with limit := n } }
  | price {n : Amount} (h : n ≠ tx.fee.price) : Change { tx with fee := { tx.fee with price := n } }
  | payload {b : Bytes} (h : b ≠ tx.payload) : Change { tx with payload := b }
  | kind {k : TxKind} (h : k ≠ tx.kind) : Change { tx with kind := k }

variable {tx tx'}

lemma preimage_eq :
    tx.preimage = Bytes.littleEndian 8 tx.nonce.toNat ++ (tx.sender.toBytes.val ++
      (tx.body ++ (Bytes.littleEndian 4 tx.kind.tag ++ tx.chain.digest.val))) := by
  simp only [preimage, body, List.append_assoc]

lemma uint64_inj {m n : UInt64} (h : Bytes.littleEndian 8 m.toNat = Bytes.littleEndian 8 n.toNat) :
    m = n :=
  UInt64.toNat_inj.1 (Bytes.littleEndian_inj m.toNat_lt n.toNat_lt h)

lemma kind_inj {k l : TxKind} (h : Bytes.littleEndian 4 k.tag = Bytes.littleEndian 4 l.tag) :
    k = l := by
  revert h
  cases k <;> cases l <;> decide

lemma preimage_eq_iff : tx.preimage = tx'.preimage ↔ tx.Alike tx' := by
  constructor
  · intro h
    rw [preimage_eq, preimage_eq] at h
    -- From the left up to the body, then from the right.
    obtain ⟨hn, h⟩ := List.append_inj h (by simp)
    obtain ⟨hs, h⟩ := List.append_inj h (tx.sender.toBytes.2.trans tx'.sender.toBytes.2.symm)
    have hd := tx.chain.digest.2.trans tx'.chain.digest.2.symm
    obtain ⟨hb, h⟩ := List.append_inj' h (by simp [hd])
    obtain ⟨hk, hc⟩ := List.append_inj h (by simp)
    exact ⟨uint64_inj hn, Address.toBytes_injective (Subtype.ext hs), kind_inj hk,
      congrArg ChainId.mk (Subtype.ext hc), hb⟩
  · intro h
    rw [preimage_eq, preimage_eq, h.nonce, h.sender, h.kind, h.chain, h.body]

lemma recipientBytes_inj (h : tx.recipientBytes = tx'.recipientBytes) :
    tx.recipient = tx'.recipient := by
  simp only [recipientBytes] at h
  have hne (a : Address) : a.toBytes.val ≠ [] := List.cons_ne_nil _ _
  cases ha : tx.recipient with
  | none =>
    cases hb : tx'.recipient with
    | none => rfl
    | some b => exact absurd (by simpa [ha, hb] using h.symm) (hne b)
  | some a =>
    cases hb : tx'.recipient with
    | none => exact absurd (by simpa [ha, hb] using h) (hne a)
    | some b =>
      rw [ha, hb] at h
      rw [Address.toBytes_injective (Subtype.ext h)]

lemma Change.not_alike (h : tx.Change tx') : ¬ tx.Alike tx' := by
  intro ha
  have hb := ha.body
  cases h with
  | chain h => exact h ha.chain.symm
  | sender h => exact h ha.sender.symm
  | recipient h =>
    simp only [body, List.append_cancel_right_eq] at hb
    exact h (recipientBytes_inj hb).symm
  | amount h =>
    simp only [body, recipientBytes, List.append_cancel_right_eq, List.append_cancel_left_eq] at hb
    exact h (Fin.ext (Bytes.minimal_injective hb.symm))
  | nonce h => exact h ha.nonce.symm
  | limit h =>
    simp only [body, recipientBytes, List.append_cancel_right_eq, List.append_cancel_left_eq] at hb
    exact h (uint64_inj hb.symm)
  | price h =>
    simp only [body, recipientBytes, List.append_cancel_left_eq] at hb
    exact h (Fin.ext (Bytes.minimal_injective hb.symm))
  | payload h =>
    simp only [body, recipientBytes, List.append_cancel_right_eq, List.append_cancel_left_eq] at hb
    exact h hb.symm
  | kind h => exact h ha.kind.symm

section Signed

variable {secret secret' r : Scalar} {sig : Signature} (hs : tx.sender = .ofSecret secret)
include hs

lemma confuses_of_verifies (hs' : tx'.sender = .ofSecret secret')
    (hv : (⟨tx, sig⟩ : SignedTransaction).verifies)
    (hv' : (⟨tx', sig⟩ : SignedTransaction).verifies) :
    Ecdsa.Confuses sig.r secret secret' tx.hash.digest tx'.hash.digest := by
  rw [SignedTransaction.verifies, hs] at hv
  rw [SignedTransaction.verifies, hs'] at hv'
  exact Ecdsa.confuses_of_verify hv hv'

lemma exists_verifies_both {q : Point} (hs' : tx'.sender = .ofSecret secret)
    (hq : q.x.val % order = r.val)
    (hc : Ecdsa.challenge r secret tx.hash.digest = -Ecdsa.challenge r secret tx'.hash.digest)
    (hne : Ecdsa.challenge r secret tx.hash.digest ≠ 0) :
    ∃ sig : Signature, (⟨tx, sig⟩ : SignedTransaction).verifies ∧
      (⟨tx', sig⟩ : SignedTransaction).verifies := by
  obtain ⟨nonce, nonce', pair, h, h'⟩ := Ecdsa.exists_signWith_both hq hc hne
  refine ⟨.ofPair pair, ?_, ?_⟩
  · rw [SignedTransaction.verifies, hs]
    exact Signature.verifiesDigest_ofPair (Ecdsa.verify_signWith h) (Ecdsa.verify_signWith_neg h)
  · rw [SignedTransaction.verifies, hs']
    exact Signature.verifiesDigest_ofPair (Ecdsa.verify_signWith h') (Ecdsa.verify_signWith_neg h')

end Signed

lemma collides_or_confuses {P : Prop} (hP : tx.preimage = tx'.preimage → P) :
    (tx.hash = tx'.hash → P ∨ Sha256.Collision tx.preimage tx'.preimage) ∧
      ∃ secret secret', tx.sender = .ofSecret secret ∧ tx'.sender = .ofSecret secret' ∧
        ∀ sig : Signature, (⟨tx, sig⟩ : SignedTransaction).verifies →
          (⟨tx', sig⟩ : SignedTransaction).verifies →
          P ∨ Sha256.Collision tx.preimage tx'.preimage ∨
            tx.hash ≠ tx'.hash ∧
              Ecdsa.Confuses sig.r secret secret' tx.hash.digest tx'.hash.digest := by
  have hhash : tx.hash = tx'.hash → P ∨ Sha256.Collision tx.preimage tx'.preimage := by
    intro h
    by_cases hp : tx.preimage = tx'.preimage
    · exact .inl (hP hp)
    · exact .inr ⟨hp, congrArg TxHash.digest h⟩
  obtain ⟨secret, hs⟩ := tx.sender.exists_ofSecret
  obtain ⟨secret', hs'⟩ := tx'.sender.exists_ofSecret
  refine ⟨hhash, secret, secret', hs, hs', fun sig hv hv' => ?_⟩
  by_cases hh : tx.hash = tx'.hash
  · exact (hhash hh).imp_right .inl
  · exact .inr (.inr ⟨hh, confuses_of_verifies hs hs' hv hv'⟩)

/-- What the node and the owner of an account can rely on: a transaction hashes or verifies like
another one only if the two are alike, up to a collision of the digest or two digests that solve an
equation with the secrets of the senders. -/
theorem preimage_separates (tx tx' : Transaction) :
    (tx.preimage = tx'.preimage ↔ tx.Alike tx') ∧
      (tx.Change tx' → tx.preimage ≠ tx'.preimage) ∧
      (tx.hash = tx'.hash → tx.Alike tx' ∨ Sha256.Collision tx.preimage tx'.preimage) ∧
      (tx.Alike tx' → ∀ sig : Signature,
        (⟨tx, sig⟩ : SignedTransaction).verifies = (⟨tx', sig⟩ : SignedTransaction).verifies) ∧
      ∃ secret secret', tx.sender = .ofSecret secret ∧ tx'.sender = .ofSecret secret' ∧
        ∀ sig : Signature, (⟨tx, sig⟩ : SignedTransaction).verifies →
          (⟨tx', sig⟩ : SignedTransaction).verifies →
          tx.Alike tx' ∨ Sha256.Collision tx.preimage tx'.preimage ∨
            tx.hash ≠ tx'.hash ∧
              Ecdsa.Confuses sig.r secret secret' tx.hash.digest tx'.hash.digest := by
  have halike : tx.preimage = tx'.preimage → tx.Alike tx' := preimage_eq_iff.1
  obtain ⟨hhash, hbound⟩ := collides_or_confuses halike
  refine ⟨preimage_eq_iff, ?_, hhash, ?_, hbound⟩
  · intro hc hp
    exact hc.not_alike (halike hp)
  · intro ha sig
    simp only [SignedTransaction.verifies, hash, preimage_eq_iff.2 ha, ha.sender]

/-- The last byte of an amount may as well begin the payload, and a signature is good for both. So
it may be even where the hashed bytes and their digests are different. -/
theorem preimage_confuses :
    let tx : Transaction :=
      { chain := ⟨⟨Bytes.bigEndian 32
          0xbb8d0def557162e67ca3338463508688fa377fde263e2381dba7f1b4aba56982, by simp⟩⟩
        sender := ⟨Curve.Point.base⟩
        recipient := some ⟨
          { x := Fin.ofNat _ 0xc6047f9441ed7d6d3045406e95c07cd85c778e4b8cef3ca7abac09b95c709ee5
            y := Fin.ofNat _ 0x1ae168fea63dc339a3c58419466ceaeef7f632653266d0e1236431a950cfe52a
            onCurve := by decide +kernel }⟩
        amount := 258
        nonce := 42
        fee := ⟨100, 5⟩
        payload := []
        kind := .normal }
    let tx' : Transaction := { tx with amount := 1, payload := [2] }
    let sig : Signature :=
      { r := ⟨0xb07e721516dff165bca1b1933e81a2937ee5ab8157273657debe646fabaea791,
          by decide, by decide⟩
        s := ⟨0x4d1c7c6aae9881807baef9b3c42e6eaa2143d4fe05e6b729156fe2ad819b3786,
          by decide, by decide⟩
        low := by decide }
    let empty : Transaction :=
      { chain := .ofName [], sender := .ofSecret ⟨1, by decide, by decide⟩, recipient := none,
        amount := 0, nonce := 1, fee := .zero, payload := [], kind := .normal }
    let zero : Transaction := { empty with payload := [0] }
    (tx ≠ tx' ∧ tx.preimage = tx'.preimage ∧ tx.hash = tx'.hash ∧
      (⟨tx, sig⟩ : SignedTransaction).verifies = true ∧
      (⟨tx', sig⟩ : SignedTransaction).verifies = true) ∧
      ¬ empty.Alike zero ∧ empty.hash ≠ zero.hash ∧
        ∃ sig : Signature, (⟨empty, sig⟩ : SignedTransaction).verifies = true ∧
          (⟨zero, sig⟩ : SignedTransaction).verifies = true := by
  intro tx tx' sig empty zero
  have hp : tx.preimage = tx'.preimage := by decide +kernel
  have hh : tx.hash = tx'.hash := by simp only [hash, hp]
  have hv :
      (⟨tx, sig⟩ : SignedTransaction).verifies = (⟨tx', sig⟩ : SignedTransaction).verifies := by
    simp only [SignedTransaction.verifies, hh]
    rfl
  have hv' : (⟨tx', sig⟩ : SignedTransaction).verifies = true := by decide +kernel
  have hne : tx ≠ tx' := fun h => absurd (congrArg Transaction.payload h) (by simp [tx, tx'])
  have hbody : ¬ empty.Alike zero := fun h => absurd h.body (by decide)
  -- A point has the abscissa that the two digests ask for, though nobody knows of which secret.
  let r : Scalar :=
    ⟨29359898904261576450828733153692510398173477221870841605025086873676118904679,
      by decide, by decide⟩
  let q : Point :=
    { x := Fin.ofNat _ 29359898904261576450828733153692510398173477221870841605025086873676118904679
      y := Fin.ofNat _ 35266727630241952519173709679263779401229272818054718841996100896012079151575
      onCurve := by decide +kernel }
  have hboth : ∃ sig : Signature, (⟨empty, sig⟩ : SignedTransaction).verifies ∧
      (⟨zero, sig⟩ : SignedTransaction).verifies :=
    exists_verifies_both (r := r) (q := q) rfl rfl (by decide +kernel) (by decide +kernel)
      (by decide +kernel)
  exact ⟨⟨hne, hp, hh, hv.trans hv', hv'⟩, hbody, by decide +kernel, hboth⟩

end Transaction

end LedgerClient
