import CatalogSteward.Configuration
import CatalogSteward.Health.Router
import CatalogSteward.Json.Reader
import CatalogSteward.Proofs.Connection.Settings
import CatalogSteward.Proofs.Plan.Disclosure
import CatalogSteward.Proofs.Plan.Expiry
import CatalogSteward.Proofs.Plan.Sets
import CatalogSteward.Proofs.Reconcile.Chronicle
import CatalogSteward.Proofs.Reconcile.Cleanup
import CatalogSteward.Proofs.Reconcile.Counting
import CatalogSteward.Proofs.Reconcile.Finalizers
import CatalogSteward.Proofs.Reconcile.Granting
import CatalogSteward.Proofs.Reconcile.Independence
import CatalogSteward.Proofs.Reconcile.Managed
import CatalogSteward.Proofs.Reconcile.Remarks
import CatalogSteward.Proofs.Reconcile.Repetition
import CatalogSteward.Proofs.Reconcile.Telling
import CatalogSteward.Proofs.Resource.Wire
import CatalogSteward.Proofs.Sql.Statement
import CatalogSteward.Proofs.Verifier.Form
import CatalogSteward.Rehearsal.Schedule
import CatalogSteward.Rehearsal.Script
