import ListenerOperator.Controller.Service

/-!
# Reconciliation of a Listener

`internal/controller/listener/controller.go`: the reconciliation of one Listener, the status it
writes, and the handlers that turn events of other objects into requests.
-/

namespace ListenerOperator

open Interaction MergePatch

/-- `ListenerReconciler.handleListenerClassChanges`, on the listed Listeners. -/
def listenerClassRequests (listenerClass : ListenerClass) (items : List Listener) :
    List ObjectKey :=
  (items.filter fun listener => listener.spec.className = listenerClass.metadata.name).map
    (·.metadata.key)

/-- `ListenerReconciler.handleListenerClassChanges`; a failed list gives no request. -/
def handleListenerClassChanges (listenerClass : ListenerClass) : Prog (List ObjectKey) :=
  .call .listListeners fun reply =>
    match reply with
    | .ok items => .done (.ok (listenerClassRequests listenerClass items))
    | .error _ => .done (.ok [])

/-- `ListenerReconciler.handleEndpointSliceChanges`, on the listed Listeners. -/
def endpointSliceRequests (endpointSlice : EndpointSlice) (serviceName : String)
    (items : List Listener) : List ObjectKey :=
  (items.filter fun listener => listener.status.serviceName = serviceName ∧
    listener.metadata.ns = endpointSlice.metadata.ns).map (·.metadata.key)

/-- `ListenerReconciler.handleEndpointSliceChanges`; a slice without the label or a failed list
gives no request. -/
def handleEndpointSliceChanges (endpointSlice : EndpointSlice) : Prog (List ObjectKey) :=
  match endpointSlice.metadata.labels[serviceNameLabel]? with
  | none => return []
  | some serviceName => .call .listListeners fun reply =>
    match reply with
    | .ok items => .done (.ok (endpointSliceRequests endpointSlice serviceName items))
    | .error _ => .done (.ok [])

/-- `ListenerReconciler.handlePVChanges`. -/
def handlePVChanges (pv : PersistentVolume) : List ObjectKey :=
  match pv.metadata.labels[labelListenerNamespace]? with
  | none => []
  | some ns =>
    match pv.metadata.labels[annotationListenerName]? with
    | none => []
    | some name => [{ ns, name }]

/-- Kinds of objects that the reconciliation of a Listener depends on. -/
inductive ObjectKind where
  | listener
  | endpointSlice
  | persistentVolume
  | listenerClass
  | service
  | node
  deriving DecidableEq

/-- The objects of a kind. -/
@[reducible] def ObjectKind.Object : ObjectKind → Type
  | .listener => Listener
  | .endpointSlice => EndpointSlice
  | .persistentVolume => PersistentVolume
  | .listenerClass => ListenerClass
  | .service => Service
  | .node => Node

/-- A watch: the kind of its objects, and the requests that a changed object is mapped to. -/
structure Registration where
  kind : ObjectKind
  map : kind.Object → Prog (List ObjectKey)

/-- The watches of `ListenerReconciler.SetupWithManager`. -/
def setupWithManager : List Registration := [
  { kind := .listener, map := fun listener => return [listener.metadata.key] },
  { kind := .endpointSlice, map := handleEndpointSliceChanges },
  { kind := .persistentVolume, map := fun pv => return handlePVChanges pv },
  { kind := .listenerClass, map := handleListenerClassChanges }]

/-- The address type a class asks for: `HostnameConservative` means an IP for a NodePort class
and a hostname otherwise. -/
def ListenerClass.preferredType (listenerClass : ListenerClass) : Except Failure AddressType :=
  if listenerClass.spec.preferredAddressType = .hostnameConservative then do
    let serviceType ← deref listenerClass.spec.serviceType
    if serviceType = .nodePort then
      return .ip
    return .hostname
  else return listenerClass.spec.preferredAddressType

/-- `ListenerReconciler.preferredAddressType`. -/
def preferredAddressType (listener : Listener) : Prog AddressType := do
  let listenerClass ← ask (.getListenerClass { name := listener.spec.className })
  Program.lift listenerClass.preferredType

/-- `ListenerReconciler.getClusterDomain`. -/
def clusterDomain : String := "cluster.local"

/-- `ListenerReconciler.getServiceFQDN`. -/
def getServiceFQDN (service : Service) : String :=
  service.metadata.name ++ "." ++ service.metadata.ns ++ ".svc." ++ clusterDomain

/-- The status entry of an address. The picked address is a pointer that is dereferenced
without a check. -/
def AddressInfo.statusEntry (preferred : AddressType) (ports : StringMap Int)
    (address : AddressInfo) : Except Failure IngressAddressSpec := do
  let pickAddress ← deref (address.pick preferred)
  return {
    address := pickAddress.address
    addressType := pickAddress.addressType
    ports }

/-- The loops of `updateListenerStatus` that append one entry for each address. -/
def statusEntries (preferred : AddressType) (ports : StringMap Int) (addresses : List AddressInfo) :
    Except Failure (List IngressAddressSpec) :=
  addresses.mapM (AddressInfo.statusEntry preferred ports)

/-- The error of a Service type that has no status. -/
def unsupportedTypeMessage (serviceType : ServiceType) (listener : Listener) : String :=
  "unsupported service type " ++ serviceType.text ++ " for listener " ++ listener.metadata.name ++
    ", namespace " ++ listener.metadata.ns

/-- The first part of `ListenerReconciler.updateListenerStatus`: the status of a Listener. -/
def listenerStatus (listener : Listener) : Prog ListenerStatus := do
  let service ← describe listener
  let preferred ← preferredAddressType listener
  let servicePorts := getPorts service
  match service.spec.type with
  | .nodePort => do
    let ports ← Program.lift (getNodePorts service)
    let addresses ← getNodesAddresses service
    let ingressAddresses ← Program.lift (statusEntries preferred ports addresses)
    return {
      serviceName := listener.metadata.name
      ingressAddresses
      nodePorts := ports }
  | .loadBalancer => do
    let addresses ← Program.lift (getLbIngressAddresses service)
    let ingressAddresses ← Program.lift (statusEntries preferred servicePorts addresses)
    return { serviceName := listener.metadata.name, ingressAddresses }
  | .clusterIP =>
    if preferred = .ip then do
      let addresses ← Program.lift (getClusterIpAddresses service)
      let ingressAddresses ← Program.lift (statusEntries preferred servicePorts addresses)
      return { serviceName := listener.metadata.name, ingressAddresses }
    else
      return {
        serviceName := listener.metadata.name
        ingressAddresses := [{
          address := getServiceFQDN service
          addressType := .hostname
          ports := servicePorts }] }
  | .externalName =>
    Program.lift (errorText (unsupportedTypeMessage service.spec.type listener))

/-- One attempt to write a status: read the Listener again and write its status. -/
def writeStatus (listener : Listener) (status : ListenerStatus) : Prog Unit := do
  let current ← ask (.getListener listener.metadata.key)
  let _ ← ask (.updateListenerStatus { current with status })
  return ()

/-- `ListenerReconciler.updateListenerStatus`. -/
def updateListenerStatus (listener : Listener) : Prog Unit := do
  let status ← listenerStatus listener
  retryOnConflict (writeStatus listener status) defaultRetries

/-- `ListenerReconciler.Reconcile`. -/
def reconcile (runtime : ControllerRuntime) (request : ObjectKey) : Prog Result :=
  .call (.getListener request) fun reply =>
    match reply with
    | .ok listener => do
      let result ← createService runtime listener
      if !result.isZero then
        return result
      updateListenerStatus listener
      return {}
    | .error failure =>
      if failure.reason = .notFound then return {}
      else Program.fail (.error (.call failure))

end ListenerOperator
