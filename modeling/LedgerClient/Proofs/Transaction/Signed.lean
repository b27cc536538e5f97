import LedgerClient.Transaction.Signed
import LedgerClient.Proofs.Identity.Compression
import LedgerClient.Proofs.Identity.KeyPair
import LedgerClient.Proofs.Identity.Signature

namespace LedgerClient

open Curve

namespace KeyPair

variable {k : KeyPair} {tx : Transaction} {signed : SignedTransaction}

lemma signTransaction_eq_ok :
    k.signTransaction tx = .ok signed ↔
      k.signDigest tx.hash.digest = .ok signed.signature ∧ signed.tx = tx := by
  rw [signTransaction, map_eq_ok]
  constructor
  · rintro ⟨sig, h, rfl⟩
    exact ⟨h, rfl⟩
  · rintro ⟨h, rfl⟩
    exact ⟨_, h, rfl⟩

lemma check_signTransaction (h : k.signTransaction tx = .ok signed) (hs : tx.sender = k.address) :
    signed.check tx.chain = .ok () := by
  obtain ⟨hsign, rfl⟩ := signTransaction_eq_ok.1 h
  have hv := verifiesDigest_of_signDigest hsign
  rw [← hs] at hv
  rw [SignedTransaction.check, if_neg (not_not.2 rfl)]
  exact if_pos hv

/-- A signature over a digest has one form in bytes and one in text, and whoever has read the
address of the key accepts it; so it is with messages and with transactions of that address. -/
theorem signature_accepted (k : KeyPair) {digest : Digest} {pair : EcdsaPair}
    (hs : Ecdsa.sign k.secret digest = some pair) :
    ∃ sig, k.signDigest digest = .ok sig ∧
      (1 ≤ sig.s.val ∧ sig.s.val ≤ order / 2) ∧ sig.isCanonical = true ∧
      Signature.ofDer sig.toDer = .ok sig ∧ Signature.ofBase64 sig.toBase64 = .ok sig ∧
      ∃ a, Address.decode k.address.encode = .ok a ∧ a.verifiesDigest digest sig = true ∧
        (∀ message, sha256 message = digest →
          k.sign message = .ok sig ∧ a.verifies message sig = true) ∧
        ∀ tx : Transaction, tx.sender = k.address → tx.hash.digest = digest →
          ∃ signed, k.signTransaction tx = .ok signed ∧ signed.check tx.chain = .ok () := by
  have hsign : k.signDigest digest = .ok (.ofPair pair) := signDigest_eq_ok.2 ⟨pair, hs, rfl⟩
  have hv := verifiesDigest_of_signDigest hsign
  refine ⟨_, hsign, ⟨Scalar.pos _, Signature.low _⟩, Signature.isCanonical_eq_true _,
    Signature.ofDer_eq_ok.2 rfl, Signature.faithful.read_write _, k.address,
    Address.faithful.read_write _, hv, ?_, ?_⟩
  · rintro message rfl
    exact ⟨hsign, hv⟩
  · rintro tx hsender rfl
    have htx : k.signTransaction tx = .ok ⟨tx, .ofPair pair⟩ :=
      signTransaction_eq_ok.2 ⟨hsign, rfl⟩
    exact ⟨_, htx, check_signTransaction htx hsender⟩

lemma stir_eq {g : HmacStream} {mark : UInt8} {seed : Bytes} {key value : Digest}
    (hkey : hmac g.key.val (g.value.val ++ mark :: seed) = key)
    (hvalue : hmac key.val g.value.val = value) : g.stir mark seed = ⟨key, value⟩ := by
  rw [HmacStream.stir, hkey, hvalue]

lemma nonce?_eq_some {secret nonce : Scalar} {digest : Digest} {g : HmacStream}
    (hg : HmacStream.ofSeed (secret.toBytes.val ++ digest.val) = g)
    (h : Bytes.toNat (hmac g.key.val g.value.val).val = nonce.val) :
    Ecdsa.nonce? secret digest = some nonce := by
  rw [Ecdsa.nonce?, hg, Ecdsa.firstScalar]
  simp only [HmacStream.next, Scalar.ofNat?_eq_some.2 h]

lemma sign_small_payment :
    let k : KeyPair := .ofSecret ⟨3, by decide, by decide⟩
    let tx : Transaction :=
      { chain := .ofName [], sender := k.address, recipient := none, amount := 5, nonce := 8,
        fee := .zero, payload := [], kind := .normal }
    Ecdsa.sign k.secret tx.hash.digest = some
      { r := ⟨81534640038794851906751466555395745916104966047093718660461036549223583760338,
          by decide, by decide⟩
        s := ⟨89998321737323939134309196542113261697540300269192014308982082116987187953223,
          by decide, by decide⟩ } := by
  intro k tx
  -- The digests on the way to the nonce, one evaluation each.
  let block (n : ℕ) : Digest := ⟨Bytes.bigEndian 32 n, Bytes.length_bigEndian 32 n⟩
  let digest := block 0x61d84483d91c954b1a8f0655adf271b0bd8717eb4b100763b5a1424a728469fa
  let seed := k.secret.toBytes.val ++ digest.val
  let start : HmacStream :=
    ⟨⟨List.replicate 32 0, List.length_replicate⟩, ⟨List.replicate 32 1, List.length_replicate⟩⟩
  let first : HmacStream :=
    ⟨block 0xbbf4560bd005193ce4b432d87b1e12531c782d16142f2cc9576ad02e48e90130,
      block 0x3fa92b8d09fba4a0b971121641c976e33c90dab0efe58474c2e21864ea2d2340⟩
  let second : HmacStream :=
    ⟨block 0xb7bedd52c454666fffac87a575664e796431de22d9ccefa2e2420e7b908ab767,
      block 0xfe2ba596e43f4b3cf891fc9bf8b61998ca540479b186870ecb6386518721d94f⟩
  let nonce : Scalar :=
    ⟨21480360345996338645374243063457486916781442958328962623645246303581172182668,
      by decide, by decide⟩
  have hdigest : tx.hash.digest = digest := by decide +kernel
  have hfirst : start.stir 0 seed = first := stir_eq (by decide +kernel) (by decide +kernel)
  have hsecond : first.stir 1 seed = second := stir_eq (by decide +kernel) (by decide +kernel)
  have hseed : HmacStream.ofSeed seed = second :=
    (congrArg (fun g => g.stir 1 seed) hfirst).trans hsecond
  have hnonce : Ecdsa.nonce? k.secret tx.hash.digest = some nonce := by
    rw [hdigest]
    exact nonce?_eq_some hseed (by decide +kernel)
  rw [Ecdsa.sign, hnonce, hdigest]
  decide +kernel

theorem signature_accepted_lowered :
    let k : KeyPair := .ofSecret ⟨3, by decide, by decide⟩
    let pair : EcdsaPair :=
      { r := ⟨81534640038794851906751466555395745916104966047093718660461036549223583760338,
          by decide, by decide⟩
        s := ⟨89998321737323939134309196542113261697540300269192014308982082116987187953223,
          by decide, by decide⟩ }
    let tx : Transaction :=
      { chain := .ofName [], sender := k.address, recipient := none, amount := 5, nonce := 8,
        fee := .zero, payload := [], kind := .normal }
    ¬ pair.s.IsLow ∧ ∃ sig, k.sign tx.preimage = .ok sig ∧ sig.isCanonical = true ∧
      Signature.ofDer sig.toDer = .ok sig ∧
      (∃ a, Address.decode k.address.encode = .ok a ∧ a.verifies tx.preimage sig = true) ∧
      ∃ signed, k.signTransaction tx = .ok signed ∧ signed.check tx.chain = .ok () := by
  intro k pair tx
  have hs : Ecdsa.sign k.secret tx.hash.digest = some pair := sign_small_payment
  obtain ⟨sig, -, -, hcanonical, hder, -, a, ha, -, hmessage, htx⟩ := signature_accepted k hs
  obtain ⟨hsign, hv⟩ := hmessage tx.preimage rfl
  exact ⟨by decide, sig, hsign, hcanonical, hder, ⟨a, ha, hv⟩, htx tx rfl rfl⟩

end KeyPair

end LedgerClient
