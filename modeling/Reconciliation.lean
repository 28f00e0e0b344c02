import Reconciliation.Database.Pool
import Reconciliation.Gateway.Client
import Reconciliation.Gateway.Operations
import Reconciliation.Platform.Client
import Reconciliation.Proofs.Accounting
import Reconciliation.Proofs.Acknowledgement
import Reconciliation.Proofs.Agreement
import Reconciliation.Proofs.Answers
import Reconciliation.Proofs.AuditTrail
import Reconciliation.Proofs.Batches
import Reconciliation.Proofs.Chargebacks
import Reconciliation.Proofs.Concealment
import Reconciliation.Proofs.DeliveryOrder
import Reconciliation.Proofs.Designation
import Reconciliation.Proofs.Disputes
import Reconciliation.Proofs.Duplicates
import Reconciliation.Proofs.Endpoints
import Reconciliation.Proofs.Exits
import Reconciliation.Proofs.FirstAttempts
import Reconciliation.Proofs.Grammar
import Reconciliation.Proofs.Identifiers
import Reconciliation.Proofs.Inert
import Reconciliation.Proofs.Isolation
import Reconciliation.Proofs.MovedAttempts
import Reconciliation.Proofs.Operations
import Reconciliation.Proofs.Outcomes
import Reconciliation.Proofs.Payloads
import Reconciliation.Proofs.Permanence
import Reconciliation.Proofs.Precedence
import Reconciliation.Proofs.Ranking
import Reconciliation.Proofs.Recovery
import Reconciliation.Proofs.Registries
import Reconciliation.Proofs.Requests
import Reconciliation.Proofs.Retries
import Reconciliation.Proofs.Reunion
import Reconciliation.Proofs.Reversals
import Reconciliation.Proofs.RoundTrip
import Reconciliation.Proofs.Rounding
import Reconciliation.Proofs.Signatures
import Reconciliation.Proofs.Staleness
import Reconciliation.Proofs.StatusLog
import Reconciliation.Proofs.Unsigned
import Reconciliation.Proofs.Verification
import Reconciliation.Service.Config
import Reconciliation.Service.Endpoint
import Reconciliation.Tenant.Settings
