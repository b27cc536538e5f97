import LedgerClient.Text.Quoted

namespace LedgerClient

inductive Malformed where
  | foreignCharacter (c : Char) (position : Nat)
  | beyondAscii (position : Nat)
  | noChecksum
  | wrongChecksum (computed carried : Bytes)
  | emptyPayload
  | parityByte (found : UInt8)
  | notOnCurve
  | unreadable (reason : String)
deriving DecidableEq

inductive EncodingError where
  | malformed (cause : Malformed)
  | versionMismatch (expected found : UInt8)
  | invalidLength (expected found : Nat)
deriving DecidableEq

def Bytes.decimalList (b : Bytes) : String :=
  "[" ++ String.intercalate ", " (b.map fun x => x.toNat.repr) ++ "]"

def Hex.prefixed (b : UInt8) : String := "0x" ++ Hex.encode [b]

def Malformed.message : Malformed → String
  | foreignCharacter c i =>
    "provided string contained invalid character " ++ Quoted.char c ++ " at byte " ++ i.repr
  | beyondAscii i => "provided string contained non-ascii character starting at byte " ++ i.repr
  | noChecksum => "provided string is too small to contain a checksum"
  | wrongChecksum computed carried =>
    "invalid checksum, calculated checksum: '" ++ computed.decimalList ++
      "', expected checksum: " ++ carried.decimalList
  | emptyPayload => "empty payload"
  | parityByte b => "invalid parity prefix " ++ Hex.prefixed b
  | notOnCurve => "not a point on secp256k1"
  | unreadable reason => reason

def EncodingError.message : EncodingError → String
  | malformed cause => "malformed encoded value: " ++ cause.message
  | versionMismatch expected found =>
    "version mismatch: expected " ++ Hex.prefixed expected ++ ", found " ++ Hex.prefixed found
  | invalidLength expected found =>
    "invalid length: expected " ++ expected.repr ++ " bytes, found " ++ found.repr

end LedgerClient
