import LedgerClient.Identity.KeyPair
import LedgerClient.Proofs.Curve.Ecdsa
import LedgerClient.Proofs.Except

namespace LedgerClient

open Curve

variable {secret : Scalar} {k : KeyPair} {digest : Digest} {pair : EcdsaPair} {sig : Signature}

namespace Signature

lemma signDigest_eq_ok :
    signDigest secret digest = .ok sig ↔
      ∃ pair, Ecdsa.sign secret digest = some pair ∧ sig = ofPair pair := by
  rw [signDigest]
  cases Ecdsa.sign secret digest <;> simp [ofPair?, eq_comm]

lemma pair_ofPair (pair : EcdsaPair) :
    (ofPair pair).pair = pair ∨ (ofPair pair).pair = ⟨pair.r, pair.s.neg⟩ := by
  rw [ofPair]
  split
  · exact .inl rfl
  · exact .inr rfl

lemma verifiesDigest_ofPair {key : Point} (hv : Ecdsa.verify key digest pair = true)
    (hneg : Ecdsa.verify key digest ⟨pair.r, pair.s.neg⟩ = true) :
    (ofPair pair).verifiesDigest key digest = true := by
  rw [verifiesDigest]
  rcases pair_ofPair pair with hp | hp
  · rw [hp]
    exact hv
  · rw [hp]
    exact hneg

end Signature

namespace KeyPair

lemma signDigest_eq_ok :
    k.signDigest digest = .ok sig ↔
      ∃ pair, Ecdsa.sign k.secret digest = some pair ∧ sig = .ofPair pair := by
  rw [signDigest, mapError_eq_ok, Signature.signDigest_eq_ok]

lemma verifiesDigest_of_signDigest (h : k.signDigest digest = .ok sig) :
    k.address.verifiesDigest digest sig = true := by
  obtain ⟨pair, hs, rfl⟩ := signDigest_eq_ok.1 h
  rw [k.owned]
  obtain ⟨hv, hneg⟩ := Ecdsa.verify_sign hs
  exact Signature.verifiesDigest_ofPair hv hneg

end KeyPair

end LedgerClient
