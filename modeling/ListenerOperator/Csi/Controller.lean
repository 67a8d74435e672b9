import ListenerOperator.Csi.Node

/-!
# The controller and identity services of the plugin

`internal/csi/controller.go`: the creation of a volume for a claim, whose annotations become the
volume context, with the topology that its class asks for. `internal/csi/identity.go` and
`NodeGetInfo` of `internal/csi/node.go`: what the plugin tells of itself and of a node.
-/

namespace ListenerOperator

open Interaction MergePatch

/-- The keys under which the provisioner passes the claim of a volume. -/
def csiStoragePVCName : String := "csi.storage.k8s.io/pvc/name"

/-- See `csiStoragePVCName`. -/
def csiStoragePVCNamespace : String := "csi.storage.k8s.io/pvc/namespace"

/-- A part of the cluster, by the segments that make it out. -/
structure Topology where
  segments : StringMap String
  deriving DecidableEq

/-- Where a volume has to be accessible; the first preferred part is that of the scheduled node. -/
structure TopologyRequirement where
  preferred : List Topology

/-- The wanted size of a volume. -/
structure CapacityRange where
  requiredBytes : Int := 0

/-- A request to create a volume; an option is a pointer or a slice that may be nil. -/
structure CreateVolumeRequest where
  name : String
  capacityRange : Option CapacityRange
  volumeCapabilities : Option (List VolumeCapability)
  parameters : StringMap String
  accessibilityRequirements : Option TopologyRequirement

/-- A created volume. -/
structure CreatedVolume where
  volumeId : String
  capacityBytes : Int
  volumeContext : StringMap String
  accessibleTopology : List Topology
  deriving DecidableEq

/-- `createVolumeRequestParams`. -/
structure CreateVolumeRequestParams where
  pvcName : String
  pvcNamespace : String
  deriving DecidableEq

/-- `newCreateVolumeRequestParamsFromMap`. -/
def newCreateVolumeRequestParamsFromMap (params : StringMap String) :
    Except Failure CreateVolumeRequestParams :=
  match params[csiStoragePVCName]?, params[csiStoragePVCNamespace]? with
  | some pvcName, some pvcNamespace => .ok { pvcName, pvcNamespace }
  | _, _ => .error (.error (.status .invalidArgument
      ("ensure '--extra-create-metadata' args are added in the sidecar of the csi-provisioner " ++
        "container.")))

/-- `volumeCaps`. -/
def volumeCaps : List AccessMode :=
  [.singleNodeWriter, .multiNodeMultiWriter, .multiNodeReaderOnly]

/-- `isSupportVolumeCapabilities`; the mode of a missing access mode is the unknown one. -/
def isSupportVolumeCapabilities (cap : VolumeCapability) : Bool :=
  match cap.accessType with
  | some .mount => volumeCaps.any (· = cap.accessMode.getD .unknown)
  | some .block | none => false

/-- `isValidVolumeCapabilities`. -/
def isValidVolumeCapabilities (volCaps : List VolumeCapability) : Bool :=
  volCaps.all isSupportVolumeCapabilities

/-- `validateCreateVolumeRequest`. -/
def validateCreateVolumeRequest (request : CreateVolumeRequest) : Except Failure Unit :=
  if request.name = "" then errorText "volume Name is required"
  else if request.capacityRange.isNone then errorText "capacityRange is required"
  else match request.volumeCapabilities with
  | none => errorText "volumeCapabilities is required"
  | some volCaps =>
    if isValidVolumeCapabilities volCaps then .ok ()
    else errorText "volumeCapabilities is not supported"

/-- A request to validate capabilities of a volume. -/
structure ValidateVolumeCapabilitiesRequest where
  volumeId : String
  volumeCapabilities : List VolumeCapability

/-- The answer to a validation; the confirmation is a pointer. -/
structure ValidateVolumeCapabilitiesResponse where
  confirmed : Option (List VolumeCapability)
  deriving DecidableEq

/-- `ControllerServer.ValidateVolumeCapabilities`. -/
def validateVolumeCapabilities (request : ValidateVolumeCapabilitiesRequest) :
    Except Failure ValidateVolumeCapabilitiesResponse :=
  if request.volumeId = "" then
    .error (.error (.status .invalidArgument "Volume ID is required"))
  else if request.volumeCapabilities = [] then
    .error (.error (.status .invalidArgument "VolumeCapabilities is required"))
  else .ok { confirmed := some request.volumeCapabilities }

/-- The error of a claim without the annotations of a Listener. -/
def unannotatedMessage : String :=
  "pvc annotations must have one of \"" ++ listenerClassAnnotation ++ "\" or \"" ++
    annotationListenerName ++ "\""

/-- `ControllerServer.getVolumeContext`. -/
def getVolumeContext (params : CreateVolumeRequestParams) : Prog (StringMap String) := do
  let pvc ← withText "get pvc error: "
    (ask (.getPVC { ns := params.pvcNamespace, name := params.pvcName }))
  let annotations := pvc.metadata.annotations
  if annotations[ listenerClassAnnotation]? = none ∧ annotations[annotationListenerName]? = none then
    Program.lift (errorText unannotatedMessage)
  return annotations

/-- `ControllerServer.getListenerClass`. -/
def getVolumeListenerClass (volumeContext : StringMap String) (ns : String) :
    Prog ListenerClass :=
  match volumeContext[annotationListenerName]? with
  | some listenerName => do
    let listener ← withText "get listener error: " (ask (.getListener { ns, name := listenerName }))
    withText "get listener class from listener error: "
      (ask (.getListenerClass { ns, name := listener.spec.className }))
  | none =>
    match volumeContext[ listenerClassAnnotation]? with
    | some className =>
      withText "get listener class error: " (ask (.getListenerClass { ns, name := className }))
    | none => Program.lift (errorText
        "neither listener name nor listener class name found in volume context")

/-- `ControllerServer.getAccessibleTopology`. -/
def getAccessibleTopology (request : CreateVolumeRequest) (listenerClass : ListenerClass) :
    List Topology :=
  if listenerClass.spec.serviceType = some .nodePort then
    match request.accessibilityRequirements with
    | some ⟨first :: _⟩ => [first]
    | some ⟨[]⟩ | none => []
  else []

/-- `ControllerServer.CreateVolume`. -/
def createVolume (request : CreateVolumeRequest) : Prog CreatedVolume := do
  withStatus .invalidArgument (Program.lift (validateCreateVolumeRequest request))
  let requiredCap := (request.capacityRange.map CapacityRange.requiredBytes).getD 0
  let params ← withStatus .invalidArgument (withText "Get createVolumeRequestParams error: "
    (Program.lift (newCreateVolumeRequestParamsFromMap request.parameters)))
  let volumeCtx ← withStatus .invalidArgument (withText "Get listener Volume refer error: "
    (getVolumeContext params))
  let listenerClass ← withStatus .internal (withText "Get listenerClass error: "
    (getVolumeListenerClass volumeCtx params.pvcNamespace))
  return {
    volumeId := request.name
    capacityBytes := requiredCap
    volumeContext := volumeCtx
    accessibleTopology := getAccessibleTopology request listenerClass }

/-- Services that a plugin can have. -/
inductive PluginService where
  | unknown
  | controllerService
  | volumeAccessibilityConstraints
  | groupControllerService
  deriving DecidableEq

/-- `IdentityServer.GetPluginCapabilities`. -/
def getPluginCapabilities : List PluginService := [.controllerService]

/-- What a plugin tells of its node; the topology is a pointer. -/
structure NodeGetInfoResponse where
  nodeId : String
  accessibleTopology : Option Topology := none

/-- `NodeServer.NodeGetInfo`. -/
def nodeGetInfo (nodeID : String) : NodeGetInfoResponse := { nodeId := nodeID }

end ListenerOperator
