import ListenerOperator.Runtime
import ListenerOperator.Util

/-!
# The Service of a Listener

`internal/controller/listener/service.go`: the Service that a Listener and its class ask for,
the update of a stored Service that keeps what the API server allocated, and the addresses and
ports that a stored Service gives.
-/

namespace ListenerOperator

open Interaction MergePatch

/-- The protocol of a port when it is left out. -/
def protocolTCP : String := "TCP"

/-- The protocol a Listener port has in the Service. -/
def PortSpec.effectiveProtocol (port : PortSpec) : String :=
  if port.protocol = "" then protocolTCP else port.protocol

/-- The Service port of a Listener port; a port without a name has none. -/
def PortSpec.servicePort (port : PortSpec) : Option ServicePort :=
  if port.name ≠ "" then
    some {
      name := port.name
      protocol := port.effectiveProtocol
      port := port.port
      targetPort := .int port.port }
  else none

/-- The ports of the Service of a Listener, in the order of the Listener. -/
def servicePorts (listener : Listener) : List ServicePort :=
  listener.spec.ports.filterMap PortSpec.servicePort

/-- `ServiceReconciler.getListenerClass`. -/
def getListenerClass (listener : Listener) : Prog ListenerClass :=
  ask (.getListenerClass { name := listener.spec.className })

/-- `ServiceReconciler.getPodSelectorLabels`. -/
def getPodSelectorLabels (listener : Listener) : StringMap String :=
  (listenerMountPodLabels listener).copy listener.spec.extraPodSelectorLabels

/-- `ServiceReconciler.getExternalTrafficPolicyFromListenerClass`; the outer option is the
returned pointer. -/
def getExternalTrafficPolicyFromListenerClass (listenerClass : ListenerClass) :
    Except Failure (Option (Option ExternalTrafficPolicy)) := do
  let serviceType ← deref listenerClass.spec.serviceType
  if serviceType = .nodePort ∨ serviceType = .loadBalancer then
    return some listenerClass.spec.serviceExternalTrafficPolicy
  return none

/-- The Service that a Listener and its class ask for. -/
def desiredService (listener : Listener) (listenerClass : ListenerClass) :
    Except Failure Service := do
  let serviceType ← deref listenerClass.spec.serviceType
  let externalTrafficPolicy ← getExternalTrafficPolicyFromListenerClass listenerClass
  return {
    metadata := { name := listener.metadata.name, ns := listener.metadata.ns }
    spec := {
      ports := servicePorts listener
      selector := getPodSelectorLabels listener
      type := serviceType
      publishNotReadyAddresses := listener.spec.getPublishNotReadyAddresses
      externalTrafficPolicy := externalTrafficPolicy.getD none } }

/-- Whether a stored port is the one a desired port stands for. -/
def ServicePort.sameIdentity (existing port : ServicePort) : Bool :=
  existing.name = port.name && existing.protocol = port.protocol

/-- Take the node port of the first stored port of the same name and protocol. -/
def ServicePort.adoptNodePort (existing : List ServicePort) (port : ServicePort) : ServicePort :=
  match existing.find? (·.sameIdentity port) with
  | some stored => { port with nodePort := stored.nodePort }
  | none => port

/-- Whether the Services of a type have node ports. -/
def ServiceType.hasNodePorts (type : ServiceType) : Bool :=
  type = .nodePort || type = .loadBalancer

/-- The specification that is sent for a stored one: the desired fields, with the allocations
that fit the desired type. -/
def mutateSpec (desired stored : ServiceSpec) : ServiceSpec :=
  { stored with
    ports := if desired.type.hasNodePorts then desired.ports.map (·.adoptNodePort stored.ports)
      else desired.ports
    selector := desired.selector
    type := desired.type
    publishNotReadyAddresses := desired.publishNotReadyAddresses
    externalTrafficPolicy := desired.externalTrafficPolicy
    allocateLoadBalancerNodePorts :=
      if desired.type ≠ .loadBalancer then none else stored.allocateLoadBalancerNodePorts
    loadBalancerClass := if desired.type ≠ .loadBalancer then none else stored.loadBalancerClass
    healthCheckNodePort :=
      if desired.type ≠ .loadBalancer ∨ desired.externalTrafficPolicy ≠ some .local then 0
      else stored.healthCheckNodePort }

/-- The function that `createService` passes to `CreateOrUpdate`. -/
def mutateService (runtime : ControllerRuntime) (listener : Listener) (desired service : Service) :
    Except Failure Service := do
  let ownerReferences ←
    runtime.setControllerReference "Listener" listener.metadata service.metadata
  return { service with
    metadata := { service.metadata with ownerReferences }
    spec := mutateSpec desired.spec service.spec }

/-- The error of a Listener without named ports. -/
def noPortsMessage (listener : Listener) : String :=
  "could not find any valid ports in listener: " ++ listener.metadata.name ++ " namespace: " ++
    listener.metadata.ns

/-- `ServiceReconciler.createService`. -/
def createService (runtime : ControllerRuntime) (listener : Listener) : Prog Result := do
  let listenerClass ← getListenerClass listener
  if servicePorts listener = [] then
    Program.lift (errorText (noPortsMessage listener))
  let desired ← Program.lift (desiredService listener listenerClass)
  let operation ← createOrUpdate desired (mutateService runtime listener desired)
  if operation ≠ .none then
    return { requeue := true }
  return {}

/-- `ServiceReconciler.describe`. -/
def describe (listener : Listener) : Prog Service :=
  ask (.getService listener.metadata.key)

/-- The addresses of one ingress point, its hostname first. -/
def LoadBalancerIngress.addresses (ingress : LoadBalancerIngress) : List AddressInfo :=
  (if ingress.hostname ≠ "" then [⟨ingress.hostname, .hostname⟩] else []) ++
    (if ingress.ip ≠ "" then [⟨ingress.ip, .ip⟩] else [])

/-- `ServiceAddress.getLbIngressAddresses`. -/
def getLbIngressAddresses (service : Service) : Except Failure (List AddressInfo) :=
  if service.spec.type ≠ .loadBalancer then
    errorText "service is not of type LoadBalancer"
  else if service.loadBalancerIngress = [] then
    errorText "service has no LoadBalancer Ingress"
  else .ok (service.loadBalancerIngress.flatMap LoadBalancerIngress.addresses)

/-- The name of a service type in an error text. -/
def ServiceType.text : ServiceType → String
  | .clusterIP => "ClusterIP"
  | .nodePort => "NodePort"
  | .loadBalancer => "LoadBalancer"
  | .externalName => "ExternalName"

/-- `ServiceAddress.getClusterIpAddresses`. -/
def getClusterIpAddresses (service : Service) : Except Failure (List AddressInfo) :=
  if service.spec.type ≠ .clusterIP then
    errorText ("service.Spec.Type is not of type ClusterIP, but " ++ service.spec.type.text)
  else .ok (service.spec.clusterIPs.map fun clusterIP => ⟨clusterIP, .ip⟩)

/-- The label by which a slice names its Service. -/
def serviceNameLabel : String := "kubernetes.io/service-name"

/-- The nodes that the endpoints of some slices name, in order and with repetitions. -/
def sliceNodeNames (slices : List EndpointSlice) : List String :=
  slices.flatMap fun slice => slice.endpoints.filterMap Endpoint.nodeName

/-- `ServiceAddress.getNodeNames`. -/
def getNodeNames (service : Service) : Prog (List String) :=
  .call (.listEndpointSlices service.metadata.ns service.metadata.name) fun reply =>
    match reply with
    | .ok slices => .done (.ok (sliceNodeNames slices))
    | .error failure => Program.lift (errorText ("failed to list endpoints for service " ++
        service.metadata.ns ++ "/" ++ service.metadata.name ++ ": " ++ failure.message))

/-- The loop of `getNodesAddresses`: the address of each named node, in order. -/
def nodeAddresses : List String → Prog (List AddressInfo)
  | [] => return []
  | nodeName :: nodeNames => do
    let node ← ask (.getNode { name := nodeName })
    let address ← Program.lift (getPriorNodeAddress node)
    let addresses ← nodeAddresses nodeNames
    return address :: addresses

/-- `ServiceAddress.getNodesAddresses`. -/
def getNodesAddresses (service : Service) : Prog (List AddressInfo) := do
  let nodeNames ← getNodeNames service
  nodeAddresses nodeNames

/-- The map from the names of the named ports to a number of each; a later port of the same
name overwrites an earlier one. -/
def portMap (number : ServicePort → Int) (ports : List ServicePort) : StringMap Int :=
  ports.foldl (fun map port => if port.name = "" then map else map.insert port.name (number port)) ∅

/-- `ServiceAddress.getNodePorts`. -/
def getNodePorts (service : Service) : Except Failure (StringMap Int) :=
  if service.spec.type ≠ .nodePort then errorText "service is not of type NodePort"
  else .ok (portMap ServicePort.nodePort service.spec.ports)

/-- `ServiceAddress.getPorts`. -/
def getPorts (service : Service) : StringMap Int := portMap ServicePort.port service.spec.ports

end ListenerOperator
