import LedgerClient.Transaction.Basic

namespace LedgerClient

inductive TransactionError where
  | missingField (name : String)
  | chainMismatch (expected actual : ChainId)
  | invalidSignature (sender : Address)
deriving DecidableEq

def TransactionError.message : TransactionError → String
  | missingField name => "missing required field: " ++ name
  | chainMismatch expected actual =>
    "chain id mismatch: expected " ++ expected.encode ++ ", got " ++ actual.encode
  | invalidSignature sender =>
    "invalid signature: does not verify against sender " ++ sender.encode

structure Draft where
  chain : Option ChainId := none
  sender : Option Address := none
  recipient : Option Address := none
  amount : Amount := 0
  nonce : Nonce := 0
  fee : Fee := .zero
  payload : Bytes := []
  kind : TxKind := .normal

def Draft.build (d : Draft) : Except TransactionError Transaction :=
  match d.chain, d.sender with
  | none, _ => .error (.missingField "chain_id")
  | some _, none => .error (.missingField "sender")
  | some chain, some sender =>
    .ok ⟨chain, sender, d.recipient, d.amount, d.nonce, d.fee, d.payload, d.kind⟩

structure Template where
  /-- The sending client's own chain if there is none. -/
  chain : Option ChainId := none
  recipient : Option Address := none
  amount : Amount := 0
  fee : Fee := .zero
  payload : Bytes := []
  kind : TxKind := .normal
deriving DecidableEq

def Template.transfer (recipient : Address) (amount : Amount) (fee : Fee) : Template :=
  { recipient := some recipient, amount, fee }

def Template.fill (t : Template) (chain : ChainId) (sender : Address) (nonce : Nonce) :
    Transaction :=
  ⟨chain, sender, t.recipient, t.amount, nonce, t.fee, t.payload, t.kind⟩

end LedgerClient
