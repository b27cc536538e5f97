import LedgerClient.Transaction.Draft

namespace LedgerClient

structure SignedTransaction where
  tx : Transaction
  signature : Signature
deriving DecidableEq

namespace SignedTransaction

def hash (s : SignedTransaction) : TxHash := s.tx.signedHash s.signature

def verifies (s : SignedTransaction) : Bool :=
  s.tx.sender.verifiesDigest s.tx.hash.digest s.signature

def check (s : SignedTransaction) (chain : ChainId) : Except TransactionError Unit :=
  if s.tx.chain ≠ chain then .error (.chainMismatch chain s.tx.chain)
  else if s.verifies then .ok ()
  else .error (.invalidSignature s.tx.sender)

end SignedTransaction

def KeyPair.signTransaction (k : KeyPair) (tx : Transaction) : Except KeyError SignedTransaction :=
  (k.signDigest tx.hash.digest).map fun signature => ⟨tx, signature⟩

end LedgerClient
