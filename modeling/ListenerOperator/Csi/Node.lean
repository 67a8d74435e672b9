import ListenerOperator.Base.Path
import ListenerOperator.Runtime
import ListenerOperator.Util

/-!
# The node plugin

`internal/csi/node.go`: publishing a volume on a node. The volume is tied to a Listener, which
is named by the volume context or created from the class it names; volume and pod are labelled
with it, the addresses of the Listener are recorded in the PodListeners object of the pod, and
written to a file tree on the mounted target path.
-/

namespace ListenerOperator

open Interaction MergePatch FilePath

/-- Keys of the volume context. -/
def csiStoragePodName : String := "csi.storage.k8s.io/pod.name"

/-- See `csiStoragePodName`. -/
def csiStoragePodNamespace : String := "csi.storage.k8s.io/pod.namespace"

/-- See `csiStoragePodName`. -/
def csiStoragePodUID : String := "csi.storage.k8s.io/pod.uid"

/-- See `csiStoragePodName`. -/
def csiStorageServiceAccountName : String := "csi.storage.k8s.io/serviceAccount.name"

/-- See `csiStoragePodName`. -/
def csiStorageEphemeral : String := "csi.storage.k8s.io/ephemeral"

/-- See `csiStoragePodName`. -/
def storageKubernetesCsiProvisionerIdentity : String :=
  "storage.kubernetes.io/csiProvisionerIdentity"

/-- `volumeContext`; a key that is absent leaves a nil pointer. -/
structure VolumeContext where
  pod : Option String
  podNamespace : Option String
  podUID : Option String
  serviceAccountName : Option String
  ephemeral : Option String
  provisioner : Option String
  listenerClassName : Option String
  listenerName : Option String
  deriving DecidableEq

/-- `newVolumeContextFromMap`. -/
def newVolumeContextFromMap (parameters : StringMap String) : VolumeContext where
  pod := parameters[csiStoragePodName]?
  podNamespace := parameters[csiStoragePodNamespace]?
  podUID := parameters[csiStoragePodUID]?
  serviceAccountName := parameters[csiStorageServiceAccountName]?
  ephemeral := parameters[csiStorageEphemeral]?
  provisioner := parameters[storageKubernetesCsiProvisionerIdentity]?
  listenerClassName := parameters[ listenerClassAnnotation]?
  listenerName := parameters[annotationListenerName]?

/-- How a volume is accessed. -/
inductive AccessType where
  | block
  | mount
  deriving DecidableEq

/-- Which nodes may use a volume at once, and how. -/
inductive AccessMode where
  | unknown
  | singleNodeWriter
  | singleNodeReaderOnly
  | multiNodeReaderOnly
  | multiNodeSingleWriter
  | multiNodeMultiWriter
  | singleNodeSingleWriter
  | singleNodeMultiWriter
  deriving DecidableEq

/-- The capability a volume is created or published with. -/
structure VolumeCapability where
  accessType : Option AccessType := none
  accessMode : Option AccessMode := none
  deriving DecidableEq

/-- A request to publish a volume. -/
structure NodePublishVolumeRequest where
  volumeId : String
  targetPath : String
  volumeCapability : Option VolumeCapability
  volumeContext : StringMap String

/-- What the node server uses besides its calls: the owner reference function, and the order in
which a loop over a map visits its entries, which the language leaves open. -/
structure NodeServer where
  runtime : ControllerRuntime
  /-- The entries of a port map in the order of a loop. -/
  entries : StringMap Int → List (String × Int)
  /-- A loop visits every entry once. -/
  entries_perm : ∀ ports, (entries ports).Perm ports.toList

/-- `NodeServer.validateNodePublishVolumeRequest`. -/
def validateNodePublishVolumeRequest (request : NodePublishVolumeRequest) : Except Failure Unit :=
  if request.volumeId = "" then
    .error (.error (.status .invalidArgument "volume ID missing in request"))
  else if request.targetPath = "" then
    .error (.error (.status .invalidArgument "Target path missing in request"))
  else if request.volumeCapability = none then
    .error (.error (.status .invalidArgument "Volume capability missing in request"))
  else if request.volumeContext.isEmpty then
    .error (.error (.status .invalidArgument "Volume context missing in request"))
  else .ok ()

/-- `NodeServer.getPod`. -/
def getPod (podName podNamespace : String) : Prog Pod :=
  ask (.getPod { ns := podNamespace, name := podName })

/-- `NodeServer.getPVC`. -/
def getPVC (pvcName pvcNamespace : String) : Prog PersistentVolumeClaim :=
  ask (.getPVC { ns := pvcNamespace, name := pvcName })

/-- `NodeServer.getPV`. -/
def getPV (pvName : String) : Prog PersistentVolume := ask (.getPV { name := pvName })

/-- The Listener port of a container port; a port without a name has none. -/
def ContainerPort.portSpec (port : ContainerPort) : Option PortSpec :=
  if port.name ≠ "" then
    some { name := port.name, protocol := port.protocol, port := port.containerPort }
  else none

/-- `NodeServer.getPodPorts`. -/
def getPodPorts (pod : Pod) : Except Failure (List PortSpec) :=
  let ports := pod.spec.containers.flatMap fun container =>
    container.ports.filterMap ContainerPort.portSpec
  if ports = [] then
    .error (.error (.status .internal "pod has no vaild ports, please ensure all port has name"))
  else .ok ports

/-- The Listener that `createListener` asks for. -/
def newListener (podNamespace : String) (listenerClass : ListenerClass)
    (pvc : PersistentVolumeClaim) (ports : List PortSpec) : Listener where
  metadata := {
    name := pvc.metadata.name
    ns := podNamespace
    labels := pvc.metadata.labels }
  spec := {
    className := listenerClass.metadata.name
    ports
    publishNotReadyAddresses := some true }

/-- `NodeServer.createListener`. -/
def createListener (n : NodeServer) (volumeContext : VolumeContext) (pv : PersistentVolume)
    (pod : Pod) : Prog Listener := do
  let className ← Program.lift (deref volumeContext.listenerClassName)
  let podNamespace ← Program.lift (deref volumeContext.podNamespace)
  let listenerClass ← withText "get listener class from volume context error: "
    (ask (.getListenerClass { ns := podNamespace, name := className }))
  let claimRef ← Program.lift (deref pv.claimRef)
  let pvc ← withText "get pvc error: " (getPVC claimRef.name claimRef.ns)
  let ports ← withText "get pod ports error: " (Program.lift (getPodPorts pod))
  let listener := newListener podNamespace listenerClass pvc ports
  let ownerReferences ← withText "set controller reference error: " (Program.lift
    (n.runtime.setControllerReference "PersistentVolume" pv.metadata listener.metadata))
  let listener := { listener with metadata := { listener.metadata with ownerReferences } }
  .call (.createListener listener) fun reply =>
    match reply with
    | .ok created => return created
    | .error failure =>
      if failure.reason = .alreadyExists then
        withText "get existing listener error: " (ask (.getListener listener.metadata.key))
      else Program.lift (errorText ("create listener error: " ++ failure.message))

/-- `NodeServer.getListener`. -/
def getListener (n : NodeServer) (pod : Pod) (pv : PersistentVolume)
    (volumeContext : VolumeContext) : Prog Listener :=
  match volumeContext.listenerName with
  | some listenerName => do
    let podNamespace ← Program.lift (deref volumeContext.podNamespace)
    ask (.getListener { ns := podNamespace, name := listenerName })
  | none => createListener n volumeContext pv pod

/-- `NodeServer.patchPVLabelsWithListener`; the patched volume replaces the one passed in. -/
def patchPVLabelsWithListener (pv : PersistentVolume) (listener : Listener) :
    Prog PersistentVolume :=
  ask (.patchPV pv { pv with metadata := { pv.metadata with
    labels := pv.metadata.labels.copy (listenerMetaLabels listener) } })

/-- `NodeServer.patchPodLabelsWithListener`; the patched pod replaces the one passed in. -/
def patchPodLabelsWithListener (pod : Pod) (listener : Listener) : Prog Pod :=
  ask (.patchPod pod { pod with metadata := { pod.metadata with
    labels := pod.metadata.labels.copy (listenerMountPodLabels listener) } })

/-- `NodeServer.getNodeAddressByPod`. -/
def getNodeAddressByPod (pod : Pod) : Prog AddressInfo := do
  let node ← ask (.getNode { name := pod.spec.nodeName })
  Program.lift (getPriorNodeAddress node)

/-- A published address of a status, with its ports. -/
def IngressAddressSpec.ingressAddress (spec : IngressAddressSpec) : IngressAddress where
  address := spec.address
  addressType := spec.addressType
  ports := spec.ports

/-- An address with its ports, as it is published. -/
def IngressAddress.spec (ingressAddress : IngressAddress) : IngressAddressSpec where
  address := ingressAddress.address
  addressType := ingressAddress.addressType
  ports := ingressAddress.ports

/-- The error of a Listener without a status. -/
def notReadyMessage : String :=
  "could not get listener address from listener status, listener status is not ready"

/-- `NodeServer.getAddresses`. The Listener is read again and replaces the one passed in. -/
def getAddresses (listener : Listener) (pod : Pod) : Prog (Listener × List IngressAddress) := do
  let listener ← ask (.getListener listener.metadata.key)
  if ¬ listener.status.nodePorts.isEmpty then
    let address ← getNodeAddressByPod pod
    return (listener, [{ address with ports := listener.status.nodePorts }])
  else if listener.status.ingressAddresses ≠ [] then
    return (listener, listener.status.ingressAddresses.map IngressAddressSpec.ingressAddress)
  else Program.lift (errorText notReadyMessage)

/-- Whether a volume of a pod is the one of a claim. -/
def Volume.isFor (pod : Pod) (pvcName : String) (volume : Volume) : Bool :=
  volume.persistentVolumeClaim = some pvcName ||
    (volume.ephemeral && pvcName = pod.metadata.name ++ "-" ++ volume.name)

/-- `NodeServer.findPodVolumeNameForPVC`. -/
def findPodVolumeNameForPVC (pod : Pod) (pvcName : String) : Except Failure String :=
  match pod.spec.volumes.find? (·.isFor pod pvcName) with
  | some volume => .ok volume.name
  | none => errorText ("no volume found for PVC '" ++ pvcName ++ "' in pod '" ++
      pod.metadata.ns ++ "/" ++ pod.metadata.name ++ "'")

/-- `NodeServer.determinePodListenerScope`. -/
def determinePodListenerScope (listener : Listener) : PodListenerScope :=
  if ¬ listener.status.nodePorts.isEmpty then .node else .cluster

/-- `NodeServer.buildPodListenersObject`. If the owner cannot be set, the object has none. -/
def buildPodListenersObject (n : NodeServer) (pod : Pod) (listener : Listener)
    (volumeName : String) (scope : PodListenerScope) (ingressAddresses : List IngressAddress) :
    PodListeners :=
  let metadata : ObjectMeta := { name := "pod-" ++ pod.metadata.uid, ns := pod.metadata.ns }
  let listeners := StringMap.single volumeName
    { scope, listenerIngresses := ingressAddresses.map IngressAddress.spec }
  match n.runtime.setControllerReference "Listener" listener.metadata metadata with
  | .ok ownerReferences => { metadata := { metadata with ownerReferences }, listeners }
  | .error _ => { metadata, listeners }

/-- A PodListeners object with the entry of one volume taken from another. -/
def PodListeners.setEntry (existing podListenerObj : PodListeners) (volumeName : String) :
    PodListeners :=
  match podListenerObj.listeners[volumeName]? with
  | some entry => { existing with listeners := existing.listeners.insert volumeName entry }
  | none => existing

/-- `NodeServer.createOrUpdatePodListeners`. -/
def createOrUpdatePodListeners (podListenerObj : PodListeners) (volumeName : String) : Prog Unit :=
  .call (.getPodListeners podListenerObj.metadata.key) fun reply =>
    match reply with
    | .error failure =>
      if failure.reason = .notFound then do
        let _ ← withText "failed to create PodListeners: " (ask (.createPodListeners podListenerObj))
        return ()
      else Program.lift (errorText ("failed to get existing PodListeners: " ++ failure.message))
    | .ok existing => do
      let _ ← withText "failed to update PodListeners: "
        (ask (.patchPodListeners existing (existing.setEntry podListenerObj volumeName)))
      return ()

/-- `NodeServer.publishPodListener`, with the volume name and the object it publishes. -/
def publishPodListener (n : NodeServer) (pod : Pod) (pv : PersistentVolume) (listener : Listener)
    (ingressAddresses : List IngressAddress) : Prog (String × PodListeners) := do
  let claimRef ← Program.lift (deref pv.claimRef)
  let volumeName ← Program.lift (findPodVolumeNameForPVC pod claimRef.name)
  let scope := determinePodListenerScope listener
  let podListenerObj := buildPodListenersObject n pod listener volumeName scope ingressAddresses
  createOrUpdatePodListeners podListenerObj volumeName
  return (volumeName, podListenerObj)

/-- `NodeServer.mount`. -/
def mount (targetPath : String) : Prog Unit := do
  let exist ← withStatus .internal (ask (.pathExists targetPath))
  if exist then
    Program.lift (.error (.error (.status .internal
      ("target path " ++ targetPath ++ " already exists"))))
  withStatus .internal (ask (.mkdirAll targetPath))
  withStatus .internal (ask (.mount targetPath))

/-- The loop of `writeAddress` over the ports. -/
def writePorts (portPath : String) : List (String × Int) → Prog Unit
  | [] => return ()
  | (name, port) :: ports => do
    ask (.writeFile (join portPath name) (toString port))
    writePorts portPath ports

/-- `NodeServer.writeAddress`. -/
def writeAddress (n : NodeServer) (targetPath : String) (data : IngressAddress) : Prog Unit := do
  ask (.writeFile (join targetPath "address") data.address)
  let listenerAddressPortPath := join targetPath "ports"
  ask (.mkdirAll listenerAddressPortPath)
  writePorts listenerAddressPortPath (n.entries data.ports)

/-- The loop of `writeData`; it returns the path of the last address written. -/
def writeAddresses (n : NodeServer) (addressesPath : String) (defaultAddressPath : String) :
    List IngressAddress → Prog String
  | [] => return defaultAddressPath
  | listenerData :: data => do
    let listenerAddressPath := join addressesPath listenerData.address
    ask (.mkdirAll listenerAddressPath)
    writeAddress n listenerAddressPath listenerData
    writeAddresses n addressesPath listenerAddressPath data

/-- `NodeServer.symlinkToDefaultAddress`. -/
def symlinkToDefaultAddress (defaultAddressPath targetPath : String) : Prog Unit :=
  let sourcePath := trimLead (trimLead defaultAddressPath targetPath) "/"
  ask (.symlink sourcePath (join targetPath "default-address"))

/-- `NodeServer.writeData`; `none` is the nil slice. -/
def writeData (n : NodeServer) (targetPath : String) (data : Option (List IngressAddress)) :
    Prog Unit :=
  match data with
  | none => Program.lift (errorText "no data to write to target path, data is nil")
  | some data => do
    let addressesPath := join targetPath "addresses"
    ask (.mkdirAll addressesPath)
    let defaultAddressPath ← writeAddresses n addressesPath "" data
    symlinkToDefaultAddress defaultAddressPath targetPath

/-- What a publication resolved and built; the response itself is empty. -/
structure Publication where
  listener : Listener
  volumeName : String
  podListeners : PodListeners

/-- The part of `NodePublishVolume` that acts on the cluster. -/
def publishToCluster (n : NodeServer) (request : NodePublishVolumeRequest) :
    Prog (Publication × List IngressAddress) := do
  Program.lift (validateNodePublishVolumeRequest request)
  let volumeContext := newVolumeContextFromMap request.volumeContext
  let pv ← getPV request.volumeId
  let podName ← Program.lift (deref volumeContext.pod)
  let podNamespace ← Program.lift (deref volumeContext.podNamespace)
  let pod ← withStatus .internal (getPod podName podNamespace)
  let listener ← withStatus .internal (getListener n pod pv volumeContext)
  let pv ← withStatus .internal (patchPVLabelsWithListener pv listener)
  let pod ← withStatus .internal (patchPodLabelsWithListener pod listener)
  let (fresh, data) ← withStatus .internal (getAddresses listener pod)
  let (volumeName, podListeners) ← withStatus .internal (publishPodListener n pod pv fresh data)
  return ({ listener, volumeName, podListeners }, data)

/-- The part of `NodePublishVolume` that acts on the node. -/
def publishToNode (n : NodeServer) (targetPath : String) (data : List IngressAddress) :
    Prog Unit := do
  withStatus .internal (mount targetPath)
  withStatus .internal (writeData n targetPath (some data))

/-- `NodeServer.NodePublishVolume`. -/
def nodePublishVolume (n : NodeServer) (request : NodePublishVolumeRequest) : Prog Publication := do
  let (publication, data) ← publishToCluster n request
  publishToNode n request.targetPath data
  return publication

/-- A request to withdraw a volume. -/
structure NodeUnpublishVolumeRequest where
  volumeId : String
  targetPath : String

/-- `NodeServer.NodeUnpublishVolume`. A failed unmount is ignored. -/
def nodeUnpublishVolume (request : NodeUnpublishVolumeRequest) : Prog Unit := do
  if request.volumeId = "" then
    Program.fail (.error (.status .invalidArgument "Volume ID missing in request"))
  if request.targetPath = "" then
    Program.fail (.error (.status .invalidArgument "Target path missing in request"))
  let _ ← Program.perform (.unmount request.targetPath)
  withStatus .internal (ask (.removeAll request.targetPath))

end ListenerOperator
