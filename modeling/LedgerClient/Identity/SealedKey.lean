import LedgerClient.Cipher.Gcm
import LedgerClient.Text.Versioned

namespace LedgerClient

inductive EncryptionError where
  | encryptFailed
  | decryptFailed
  | ciphertextTooShort
deriving DecidableEq

def EncryptionError.message : EncryptionError → String
  | encryptFailed => "encryption failed"
  | decryptFailed => "decryption failed -- wrong password or corrupted ciphertext"
  | ciphertextTooShort => "ciphertext too short: must be at least 28 bytes"

namespace Sealing

def overhead : Nat := 28

def deriveKey (password : Bytes) : Digest := sha256 (password ++ (sha256 password).val)

def enclose (nonce : Gcm.Nonce) (password plaintext : Bytes) : Except EncryptionError Bytes :=
  match Gcm.encrypt (deriveKey password) nonce plaintext with
  | none => .error .encryptFailed
  | some text => .ok (nonce.val ++ text)

def disclose (password sealedText : Bytes) : Except EncryptionError Bytes :=
  if h : sealedText.length < overhead then .error .ciphertextTooShort
  else
    let nonce : Gcm.Nonce := ⟨sealedText.take 12, by simp [overhead] at h ⊢; omega⟩
    match Gcm.decrypt (deriveKey password) nonce (sealedText.drop 12) with
    | none => .error .decryptFailed
    | some plaintext => .ok plaintext

end Sealing

structure SealedKey where
  bytes : Bytes
deriving DecidableEq

namespace SealedKey

def version : UInt8 := 0xaa

def encode (k : SealedKey) : String := Versioned.encode version k.bytes

def decode (text : String) : Except EncodingError SealedKey := do
  let raw ← Versioned.decode version text
  if raw.length < Sealing.overhead then .error (.invalidLength Sealing.overhead raw.length)
  else .ok ⟨raw⟩

def describe (k : SealedKey) : String :=
  "EncryptedPrivateKey(" ++ k.bytes.length.repr ++ " bytes)"

end SealedKey

end LedgerClient
