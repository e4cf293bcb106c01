import AccountAccess.Main
import AccountAccess.World
import AccountAccess.Proofs.Session.Lifecycle
import AccountAccess.Proofs.Session.Purge
import AccountAccess.Proofs.Reset.Lifecycle
import AccountAccess.Proofs.Reset.Cleanup
import AccountAccess.Proofs.Service.Kinds
import AccountAccess.Proofs.Credential.Segments
import AccountAccess.Proofs.Credential.Seconds
import AccountAccess.Proofs.Credential.Signature
import AccountAccess.Proofs.SignedState.Separation
import AccountAccess.Proofs.SignedState.Canonical
import AccountAccess.Proofs.Account.Passwords
import AccountAccess.Proofs.Account.History
import AccountAccess.Proofs.Session.Roles
import AccountAccess.Proofs.Session.Ledger
import AccountAccess.Proofs.Reset.Interleaving
import AccountAccess.Proofs.Reset.Consumption
import AccountAccess.Proofs.Reset.Delivery
import AccountAccess.Proofs.Service.Transcript
import AccountAccess.Proofs.Mail.ResetMessage
import AccountAccess.Proofs.Mail.Arrival
import AccountAccess.Proofs.Mail.Header
import AccountAccess.Proofs.Reset.Bookkeeping
import AccountAccess.Proofs.Password.Demand
import AccountAccess.Proofs.Config.RoundTrip
import AccountAccess.Proofs.Config.Validity
import AccountAccess.Proofs.Settings.Overrides
