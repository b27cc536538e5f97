import LedgerClient.Proofs.Transaction.Preimage

/-! A signature cannot be carried over to another ledger, nonce, sender or kind of transaction,
whatever the fields of variable length contain. -/

namespace LedgerClient

open Curve

namespace Transaction

variable (tx tx' : Transaction)

structure Anchored : Prop where
  chain : tx.chain = tx'.chain
  nonce : tx.nonce = tx'.nonce
  sender : tx.sender = tx'.sender
  kind : tx.kind = tx'.kind

structure SameLayout : Prop where
  recipient : tx.recipient.isSome = tx'.recipient.isSome
  amount : (Bytes.minimal tx.amount.val).length = (Bytes.minimal tx'.amount.val).length
  price : (Bytes.minimal tx.fee.price.val).length = (Bytes.minimal tx'.fee.price.val).length

variable {tx tx'}

lemma Alike.anchored (h : tx.Alike tx') : tx.Anchored tx' := ⟨h.chain, h.nonce, h.sender, h.kind⟩

lemma length_recipientBytes (tx : Transaction) :
    tx.recipientBytes.length = if tx.recipient.isSome then Address.size else 0 := by
  unfold recipientBytes
  cases tx.recipient with
  | none => rfl
  | some a => exact a.toBytes.property

lemma Alike.eq (h : tx.Alike tx') (hl : tx.SameLayout tx') : tx = tx' := by
  have hb := h.body
  have hrecipient : tx.recipientBytes.length = tx'.recipientBytes.length := by
    rw [length_recipientBytes, length_recipientBytes, hl.recipient]
  -- From the right up to the payload, and then from the left.
  obtain ⟨hb, hprice⟩ := List.append_inj' hb hl.price
  obtain ⟨hb, hlimit⟩ := List.append_inj' hb (by simp)
  obtain ⟨hb, hpayload⟩ := List.append_inj hb (by simp [hrecipient, hl.amount])
  obtain ⟨hrecipient, hamount⟩ := List.append_inj hb hrecipient
  have hamount := Fin.ext (Bytes.minimal_injective hamount)
  have hprice := Fin.ext (Bytes.minimal_injective hprice)
  obtain ⟨hnonce, hsender, hkind, hchain, -⟩ := h
  have hrecipient := recipientBytes_inj hrecipient
  have hlimit := uint64_inj hlimit
  obtain ⟨chain, sender, recipient, amount, nonce, ⟨limit, price⟩, payload, kind⟩ := tx
  cases hchain
  cases hsender
  cases hrecipient
  cases hamount
  cases hnonce
  cases hlimit
  cases hprice
  cases hpayload
  cases hkind
  rfl

/-- Equal hashed bytes mean equal ledgers, nonces, senders and kinds, and equal transactions if the
borders are in the same places. A signature that is good for two transactions of different ledgers,
nonces, senders or kinds comes with a collision of the digest, or with two digests that solve an
equation with the secrets of the senders. -/
theorem replay_protected (tx tx' : Transaction) :
    (tx.preimage = tx'.preimage → tx.Anchored tx') ∧
      (tx = tx' ↔ tx.preimage = tx'.preimage ∧ tx.SameLayout tx') ∧
      (tx.hash = tx'.hash → tx.Anchored tx' ∨ Sha256.Collision tx.preimage tx'.preimage) ∧
      ∃ secret secret', tx.sender = .ofSecret secret ∧ tx'.sender = .ofSecret secret' ∧
        ∀ sig : Signature, (⟨tx, sig⟩ : SignedTransaction).verifies →
          (⟨tx', sig⟩ : SignedTransaction).verifies →
          tx.Anchored tx' ∨ Sha256.Collision tx.preimage tx'.preimage ∨
            tx.hash ≠ tx'.hash ∧
              Ecdsa.Confuses sig.r secret secret' tx.hash.digest tx'.hash.digest := by
  have hpreimage : tx.preimage = tx'.preimage → tx.Anchored tx' := fun h =>
    (preimage_eq_iff.1 h).anchored
  obtain ⟨hhash, hbound⟩ := collides_or_confuses hpreimage
  refine ⟨hpreimage, ⟨?_, ?_⟩, hhash, hbound⟩
  · rintro rfl
    exact ⟨rfl, rfl, rfl, rfl⟩
  · rintro ⟨hp, hl⟩
    exact (preimage_eq_iff.1 hp).eq hl

theorem replay_protected_elsewhere :
    let tx : Transaction :=
      { chain := .ofName [], sender := .ofSecret ⟨3, by decide, by decide⟩, recipient := none,
        amount := 258, nonce := 8, fee := .zero, payload := [], kind := .normal }
    let moved : Transaction := { tx with amount := 1, payload := [2] }
    let other : Transaction := { tx with chain := .ofName [1] }
    tx.preimage = moved.preimage ∧ ¬ tx.SameLayout moved ∧ tx.preimage ≠ other.preimage := by
  intro tx moved other
  have hmoved : tx.preimage = moved.preimage := by decide +kernel
  have hpayload : tx.payload ≠ moved.payload := by decide
  have hchain : tx.chain ≠ other.chain := by decide +kernel
  obtain ⟨-, heq, -⟩ := replay_protected tx moved
  obtain ⟨hanchored, -⟩ := replay_protected tx other
  exact ⟨hmoved, fun hl => hpayload (congrArg payload (heq.2 ⟨hmoved, hl⟩)),
    fun h => hchain (hanchored h).chain⟩

theorem replay_accepted :
    let first : Transaction :=
      { chain := .ofName [], sender := .ofSecret ⟨1, by decide, by decide⟩, recipient := none,
        amount := 0, nonce := 8, fee := .zero, payload := [], kind := .normal }
    let second : Transaction := { first with nonce := 9 }
    let made : Signature :=
      { r := ⟨0x4a12359dfddc8ee889fb82efc8b3723ff8f92d6c77d833282dc8bd0c85bd18e7,
          by decide, by decide⟩
        s := ⟨0x5397c76b16fac98e5c42eb849d0a0d001483bb9c12e9e26b4dbf3bea99c238ac,
          by decide, by decide⟩
        low := by decide }
    let other : Digest := ⟨Bytes.bigEndian 32
      0xd29cbbefc498a8d80b473276487917b2d46464e659caa72177ab127684027371, by simp⟩
    first.nonce ≠ second.nonce ∧ ¬ Sha256.Collision first.preimage second.preimage ∧
      (∃ sig : Signature, (⟨first, sig⟩ : SignedTransaction).verifies = true ∧
        (⟨second, sig⟩ : SignedTransaction).verifies = true) ∧
      (⟨first, made⟩ : SignedTransaction).verifies = true ∧ first.hash.digest ≠ other ∧
        first.sender.verifiesDigest other made = true := by
  intro first second made other
  have hdigest : sha256 first.preimage ≠ sha256 second.preimage := by decide +kernel
  let r : Scalar :=
    ⟨63157818705522312481909137962552907989097021947024605082870798317576358790992,
      by decide, by decide⟩
  let q : Point :=
    { x := Fin.ofNat _ 63157818705522312481909137962552907989097021947024605082870798317576358790992
      y := Fin.ofNat _ 16404791001611625306047650865278429458412422424650020652210463262980628854444
      onCurve := by decide +kernel }
  have hboth : ∃ sig : Signature, (⟨first, sig⟩ : SignedTransaction).verifies ∧
      (⟨second, sig⟩ : SignedTransaction).verifies :=
    exists_verifies_both (r := r) (q := q) rfl rfl (by decide +kernel) (by decide +kernel)
      (by decide +kernel)
  exact ⟨by decide, fun h => hdigest h.2, hboth, by decide +kernel, by decide +kernel,
    by decide +kernel⟩

end Transaction

end LedgerClient
