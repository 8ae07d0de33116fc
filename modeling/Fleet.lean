import Fleet.Audit.Concurrency
import Fleet.Audit.TamperEvidence
import Fleet.Shim.HmacAuth
import Fleet.Shim.ReplayProtection
import Fleet.Shim.SignatureBinding
import Fleet.Shim.ThreadedNonces
import Fleet.ControlPlane.Isolation
import Fleet.ControlPlane.Operations
import Fleet.ControlPlane.Revocation
import Fleet.ControlPlane.Tracking
import Fleet.ControlPlane.Authorization
import Fleet.ControlPlane.Deadlock
import Fleet.ControlPlane.HealthSweep
import Fleet.ControlPlane.MfaEnrollment
import Fleet.ControlPlane.TruthfulSuccess
import Fleet.ControlPlane.NoEscalation
import Fleet.ControlPlane.SecretFreeAudit
import Fleet.ControlPlane.TwoFactor
import Fleet.ControlPlane.Placements
import Fleet.Shim.Insertions
import Fleet.Shim.MockFidelity
import Fleet.ControlPlane.HealthTasks
import Fleet.ControlPlane.Reconciliation
import Fleet.ControlPlane.EnvelopeIntegrity
import Fleet.ControlPlane.DashboardIsolation
import Fleet.ControlPlane.ChangeAudit
import Fleet.ControlPlane.RateBound
import Fleet.ControlPlane.ThreadedLogins
import Fleet.ControlPlane.Buckets
import Fleet.Audit.TimeZones
import Fleet.ControlPlane.PrincipalAdministration
import Fleet.ControlPlane.Retries
import Fleet.ControlPlane.Bundle
import Fleet.ControlPlane.PrincipalEdits
import Fleet.ControlPlane.Registry
import Fleet.ControlPlane.RemoteCalls
import Fleet.Shim.Delivery
import Fleet.ControlPlane.RoleLedger
import Fleet.ControlPlane.Bootstrap
import Fleet.ControlPlane.FleetTruth
import Fleet.Shim.MockRuns
import Fleet.ControlPlane.BulkActions
import Fleet.ControlPlane.SiteReads
