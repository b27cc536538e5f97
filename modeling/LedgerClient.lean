import LedgerClient.Config.Document
import LedgerClient.Metrics.Exposition
import LedgerClient.Node.Document
import LedgerClient.Rehearsal.Play
import LedgerClient.Proofs.Transaction.Preimage
import LedgerClient.Proofs.Text.Kinds
import LedgerClient.Proofs.Client.History
import LedgerClient.Proofs.Submission.Attempts
import LedgerClient.Proofs.Submission.Sender
import LedgerClient.Proofs.Submission.Entries
import LedgerClient.Proofs.Client.Dealing
import LedgerClient.Proofs.Client.Sharing
import LedgerClient.Proofs.Client.Interleaving
import LedgerClient.Proofs.Submission.Custody
import LedgerClient.Proofs.Node.Ledger
import LedgerClient.Proofs.Submission.Alone
import LedgerClient.Proofs.Submission.Dealing
import LedgerClient.Proofs.Submission.Crowd
import LedgerClient.Proofs.Transaction.Signed
import LedgerClient.Proofs.Signer.Lockstep
import LedgerClient.Proofs.Signer.Vault
import LedgerClient.Proofs.Transaction.Replay
import LedgerClient.Proofs.Identity.Secret
import LedgerClient.Proofs.Json.Document
import LedgerClient.Proofs.Submission.Balance
import LedgerClient.Proofs.Submission.Resubmission
import LedgerClient.Proofs.Submission.Cancellation
import LedgerClient.Proofs.Signer.Keyring
import LedgerClient.Proofs.Submission.Tally
import LedgerClient.Proofs.Config.Settings
