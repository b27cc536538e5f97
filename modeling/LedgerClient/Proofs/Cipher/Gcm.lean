import LedgerClient.Cipher.Gcm
import LedgerClient.Proofs.Cipher.Aes

namespace LedgerClient.Gcm

variable {key : Digest} {nonce : Nonce} {plaintext text : Bytes} {roundKeys : List Bytes}

def output (key : Digest) (nonce : Nonce) (plaintext : Bytes) : Bytes :=
  let ciphertext := crypt (Aes.schedule key) nonce plaintext
  ciphertext ++ tag (Aes.schedule key) nonce ciphertext

@[simp] lemma length_keyStream (key : Digest) (nonce : Nonce) (n : ℕ) :
    (keyStream (Aes.schedule key) nonce n).length = n := by
  have hblocks := Aes.length_flatten (n := 16) (l := (List.range ((n + 15) / 16)).map fun i =>
    Aes.encrypt (Aes.schedule key) (counterBlock nonce (i + 2))) fun b hb => by
      obtain ⟨i, -, rfl⟩ := List.mem_map.1 hb
      exact Aes.length_encrypt_schedule key _
  rw [List.length_map, List.length_range] at hblocks
  rw [keyStream, List.length_take, List.flatMap_def, hblocks]
  omega

@[simp] lemma length_crypt (key : Digest) (nonce : Nonce) (text : Bytes) :
    (crypt (Aes.schedule key) nonce text).length = text.length := by
  rw [crypt, Aes.length_xor, length_keyStream, min_self]

lemma crypt_crypt (key : Digest) (nonce : Nonce) (text : Bytes) :
    crypt (Aes.schedule key) nonce (crypt (Aes.schedule key) nonce text) = text := by
  rw [crypt, length_crypt]
  exact Aes.xor_xor (length_keyStream key nonce text.length).ge

lemma length_digest (h : Poly) (ciphertext : Bytes) : (digest h ciphertext).length = 16 := by
  simp [digest, Poly.toBytes]

@[simp] lemma length_tag (key : Digest) (nonce : Nonce) (ciphertext : Bytes) :
    (tag (Aes.schedule key) nonce ciphertext).length = 16 := by
  rw [tag, Aes.length_xor, length_digest, Aes.length_encrypt_schedule, min_self]

@[simp] lemma length_output (key : Digest) (nonce : Nonce) (plaintext : Bytes) :
    (output key nonce plaintext).length = plaintext.length + 16 := by
  simp [output]

lemma encrypt_eq_some :
    encrypt key nonce plaintext = some text ↔
      plaintext.length ≤ plaintextLimit ∧ text = output key nonce plaintext := by
  rw [encrypt, Option.ite_none_right_eq_some, Option.some.injEq, eq_comm (b := text)]
  rfl

-- The first test case with a key of 256 bits and a plaintext in the specification of the mode.
example : encrypt ⟨List.replicate 32 0, rfl⟩ ⟨List.replicate 12 0, rfl⟩ (List.replicate 16 0) =
    some (Bytes.bigEndian 32
      0xcea7403d4d606b6e074ec5d3baf39d18d0d1c8a799996bf0265b98b5d48ab919) := by
  decide +kernel

lemma decrypt_eq_some :
    decrypt key nonce text = some plaintext ↔
      plaintext.length ≤ ciphertextLimit ∧ text = output key nonce plaintext := by
  simp only [decrypt, Option.ite_none_right_eq_some, Option.some.injEq]
  constructor
  · rintro ⟨⟨hlength, hlimit⟩, htag, rfl⟩
    have hn : (text.take (text.length - 16)).length = text.length - 16 := by simp
    refine ⟨by rwa [length_crypt, hn], ?_⟩
    rw [output, crypt_crypt, ← htag, List.take_append_drop]
  · rintro ⟨hlimit, rfl⟩
    have hn : (output key nonce plaintext).length - 16 =
        (crypt (Aes.schedule key) nonce plaintext).length := by simp
    rw [hn, output, List.take_left, List.drop_left, crypt_crypt]
    simpa using hlimit

end LedgerClient.Gcm
