import LedgerClient.Digest.Sha256
import LedgerClient.Text.Base58
import LedgerClient.Text.Blank

namespace LedgerClient.Versioned

def checksum (payload : Bytes) : Bytes := (sha256 (sha256 payload).val).val.take 4

def encodeChars (version : UInt8) (raw : Bytes) : List Char :=
  let payload := version :: raw
  Base58.encode (payload ++ checksum payload)

def encode (version : UInt8) (raw : Bytes) : String := String.ofList (encodeChars version raw)

def checked (b : Bytes) : Except Malformed Bytes :=
  let n := b.length - 4
  let payload := b.take n
  if b.length < 4 then .error .noChecksum
  else if checksum payload = b.drop n then .ok payload
  else .error (.wrongChecksum (checksum payload) (b.drop n))

def split (text : String) : Except Malformed (UInt8 × Bytes) := do
  match ← checked (← Base58.decode (trim text.toList)) with
  | [] => .error .emptyPayload
  | version :: raw => .ok (version, raw)

def decode (expected : UInt8) (text : String) : Except EncodingError Bytes :=
  match split text with
  | .error cause => .error (.malformed cause)
  | .ok (version, raw) =>
    if version = expected then .ok raw else .error (.versionMismatch expected version)

def decodeExact (expected : UInt8) (length : Nat) (text : String) :
    Except EncodingError (Bytes.Exact length) := do
  let raw ← decode expected text
  if h : raw.length = length then .ok ⟨raw, h⟩ else .error (.invalidLength length raw.length)

end LedgerClient.Versioned
