import ConsulEcs.Model.Json
import ConsulEcs.Model.Services
import ConsulEcs.Model.Controller
import ConsulEcs.Proofs.JsonRoundTrip
import ConsulEcs.Proofs.Upsert
import ConsulEcs.Proofs.DeleteTokenInfo
import ConsulEcs.Proofs.OneTokenPerFamily
import ConsulEcs.Proofs.Commute
import ConsulEcs.Proofs.Lister
import ConsulEcs.Proofs.RunSafety
import ConsulEcs.Model.MeshInit
import ConsulEcs.Proofs.MeshInit
import ConsulEcs.Model.AgentMeshInit
import ConsulEcs.Proofs.AgentMeshInit
import ConsulEcs.Proofs.TaskDefinitionARN
import ConsulEcs.Model.Schema
import ConsulEcs.Proofs.EnumStr
import ConsulEcs.Proofs.SchemaType
import ConsulEcs.Proofs.PropertyAnchor
import ConsulEcs.Model.Reconcile
import ConsulEcs.Proofs.Reconcile
import ConsulEcs.Proofs.ReconcileAll
import ConsulEcs.Model.MeshInitRun
import ConsulEcs.Proofs.MeshInitRun
import ConsulEcs.Proofs.ServiceIdentity
