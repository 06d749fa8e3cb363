import GrrAcl.Aff4.Urn
import GrrAcl.Client.Paths
import GrrAcl.Aff4.Store
import GrrAcl.Security.Approval
import GrrAcl.Security.Workflow
import GrrAcl.Proofs.UrnLayout
import GrrAcl.Proofs.CheckAccess
import GrrAcl.Proofs.Grant
import GrrAcl.Proofs.Frame
import GrrAcl.Proofs.Runs
import GrrAcl.Proofs.Access
import GrrAcl.Proofs.Granting
import GrrAcl.Proofs.Liveness
import GrrAcl.Proofs.Revocation
import GrrAcl.Gui.ApiCallRouter
import GrrAcl.Proofs.Router
