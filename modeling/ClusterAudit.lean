import ClusterAudit.Json.Reader
import ClusterAudit.Main
import ClusterAudit.Proofs.Escalation.Join
import ClusterAudit.Proofs.Inventory.Consistency
import ClusterAudit.Proofs.Scan.Agreement
import ClusterAudit.Proofs.Session.Scanning
import ClusterAudit.Session.Scene
import ClusterAudit.Proofs.Escalation.Paths
import ClusterAudit.Proofs.Scan.Completed
import ClusterAudit.Proofs.Scan.Dependencies
import ClusterAudit.Proofs.Scan.Exclusion
import ClusterAudit.Proofs.Scan.Addition
import ClusterAudit.Proofs.Escalation.Reference
import ClusterAudit.Proofs.Inventory.Provenance
import ClusterAudit.Proofs.Manifest.Fields
import ClusterAudit.Proofs.Source.Unpacking
import ClusterAudit.Proofs.Scan.Live
import ClusterAudit.Proofs.Scan.Order
import ClusterAudit.Proofs.Scan.Documents
import ClusterAudit.Proofs.Source.Loading
import ClusterAudit.Proofs.Scan.Absence
import ClusterAudit.Proofs.Escalation.Grants
import ClusterAudit.Proofs.Scheduling.Affinity
import ClusterAudit.Proofs.CommandLine.LongOptions
import ClusterAudit.Proofs.Manifest.Json
import ClusterAudit.Proofs.Session.Saving
import ClusterAudit.Proofs.Escalation.Wildcards
import ClusterAudit.Proofs.Escalation.Namespaces
import ClusterAudit.Proofs.Scheduling.LongNumerals
import ClusterAudit.Proofs.Source.Gathering
import ClusterAudit.Proofs.Scheduling.Tolerance
import ClusterAudit.Proofs.Scheduling.OwnLabels
import ClusterAudit.Proofs.Escalation.BareNames
import ClusterAudit.Proofs.Detector.RootUser
import ClusterAudit.Proofs.Inventory.Coverage
import ClusterAudit.Proofs.Session.Cancelling
import ClusterAudit.Proofs.CommandLine.Positions
import ClusterAudit.Proofs.Session.Showing
