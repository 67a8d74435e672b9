import ListenerOperator.ApiServer
import ListenerOperator.Base.Alone
import ListenerOperator.Base.Concurrent
import ListenerOperator.Base.FileTree
import ListenerOperator.Base.History
import ListenerOperator.Base.MergePatch
import ListenerOperator.Base.Outcome
import ListenerOperator.Base.Outline
import ListenerOperator.Base.Path
import ListenerOperator.Base.Program
import ListenerOperator.Base.Progress
import ListenerOperator.Base.Stamp
import ListenerOperator.Base.Store
import ListenerOperator.Base.Uuid
import ListenerOperator.Cache
import ListenerOperator.Calls
import ListenerOperator.Controller.Reconcile
import ListenerOperator.Controller.Service
import ListenerOperator.Controller.Watch
import ListenerOperator.Csi.Controller
import ListenerOperator.Csi.Host
import ListenerOperator.Csi.Node
import ListenerOperator.Endpoint
import ListenerOperator.Lifecycle
import ListenerOperator.Objects
import ListenerOperator.Runtime
import ListenerOperator.Util
import ListenerOperator.Verif.AddressTree
import ListenerOperator.Verif.Addresses
import ListenerOperator.Verif.AllOrNothing
import ListenerOperator.Verif.Atomicity
import ListenerOperator.Verif.Attempts
import ListenerOperator.Verif.Cache
import ListenerOperator.Verif.Containment
import ListenerOperator.Verif.Convergence
import ListenerOperator.Verif.DefaultAddress
import ListenerOperator.Verif.Endpoint
import ListenerOperator.Verif.Footprint
import ListenerOperator.Verif.Idempotence
import ListenerOperator.Verif.Instances
import ListenerOperator.Verif.Isolation
import ListenerOperator.Verif.Labels
import ListenerOperator.Verif.Lifecycle
import ListenerOperator.Verif.Lifetimes
import ListenerOperator.Verif.LostUpdates
import ListenerOperator.Verif.Mounts
import ListenerOperator.Verif.NodePorts
import ListenerOperator.Verif.Ports
import ListenerOperator.Verif.Provenance
import ListenerOperator.Verif.Provision
import ListenerOperator.Verif.Publication
import ListenerOperator.Verif.Publish
import ListenerOperator.Verif.Resolution
import ListenerOperator.Verif.Retry
import ListenerOperator.Verif.Rollout
import ListenerOperator.Verif.Selection
import ListenerOperator.Verif.Server
import ListenerOperator.Verif.Service
import ListenerOperator.Verif.Shutdown
import ListenerOperator.Verif.Sources
import ListenerOperator.Verif.Status
import ListenerOperator.Verif.Transitions
import ListenerOperator.Verif.Unpublish
import ListenerOperator.Verif.Unwatched
import ListenerOperator.Verif.VolumeNames
import ListenerOperator.Verif.WakeUp
