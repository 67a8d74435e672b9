import ListenerOperator.Base.MergePatch

/-!
# Cluster objects

The Kubernetes objects and the custom resources that the controller and the node plugin read
and write, with the fields that the modelled code or the API server's defaulting uses. A field
whose zero value means that it is unset has that value as its default here. Closed string types
of the API are enumerations. A protocol stays a string, because the schema of a Listener port
admits any.
-/

namespace ListenerOperator

open MergePatch

/-- The identity of an object of one kind; cluster-scoped objects have the empty namespace. -/
structure ObjectKey where
  ns : String := ""
  name : String
  deriving DecidableEq

/-- A reference from an object to one that owns it. -/
structure OwnerReference where
  kind : String
  name : String
  uid : String
  /-- Whether the owner is the managing controller. -/
  controller : Bool := false
  deriving DecidableEq

/-- Metadata common to all objects. -/
structure ObjectMeta where
  name : String := ""
  ns : String := ""
  /-- The unique identifier, set by the API server. -/
  uid : String := ""
  /-- The version of the object, changed by the API server with every write. -/
  resourceVersion : Nat := 0
  labels : StringMap String := ∅
  annotations : StringMap String := ∅
  ownerReferences : List OwnerReference := []
  deriving DecidableEq

/-- The key under which an object with this metadata is stored. -/
def ObjectMeta.key (metadata : ObjectMeta) : ObjectKey := ⟨metadata.ns, metadata.name⟩

/-- Types of a published address, and how a class chooses among them. -/
inductive AddressType where
  /-- A hostname, except for classes of NodePort services. -/
  | hostnameConservative
  | hostname
  | ip
  deriving DecidableEq

/-- Types of a Service. -/
inductive ServiceType where
  | clusterIP
  | nodePort
  | loadBalancer
  /-- An alias of an external name. -/
  | externalName
  deriving DecidableEq

/-- How nodes distribute external traffic. -/
inductive ExternalTrafficPolicy where
  /-- To endpoints on any node. -/
  | cluster
  /-- To endpoints on the receiving node. -/
  | local
  deriving DecidableEq

/-- The specification of a listener class. A pointer that may be nil and a policy that may be
the empty string are optional. -/
structure ListenerClassSpec where
  serviceType : Option ServiceType
  serviceExternalTrafficPolicy : Option ExternalTrafficPolicy := some .local
  preferredAddressType : AddressType := .hostnameConservative
  deriving DecidableEq

/-- A listener class, a cluster-scoped object. -/
structure ListenerClass where
  metadata : ObjectMeta
  spec : ListenerClassSpec
  deriving DecidableEq

/-- The schema of the custom resource: the service type is required and is one of three, and
the traffic policy is defaulted. -/
structure ListenerClass.Admitted (listenerClass : ListenerClass) : Prop where
  serviceType : ∃ type, listenerClass.spec.serviceType = some type ∧ type ≠ .externalName
  policy : listenerClass.spec.serviceExternalTrafficPolicy.isSome

/-- A port of a Listener. -/
structure PortSpec where
  /-- Name; a port without one is ignored. -/
  name : String
  /-- Protocol; the empty string stands for TCP. -/
  protocol : String := ""
  port : Int
  deriving DecidableEq

/-- The specification of a Listener. -/
structure ListenerSpec where
  className : String
  /-- Labels a pod must carry besides the mount label. -/
  extraPodSelectorLabels : StringMap String := ∅
  ports : List PortSpec := []
  /-- Whether addresses of pods that are not ready are published; unset means true. -/
  publishNotReadyAddresses : Option Bool := none
  deriving DecidableEq

/-- `ListenerSpec.GetPublishNotReadyAddresses`: an unset field means true, as the schema
defaults it, and an explicit false is kept. -/
def ListenerSpec.getPublishNotReadyAddresses (spec : ListenerSpec) : Bool :=
  spec.publishNotReadyAddresses.getD true

/-- An address with its ports, as published in a status. -/
structure IngressAddressSpec where
  address : String
  addressType : AddressType
  ports : StringMap Int
  deriving DecidableEq

/-- The status of a Listener. -/
structure ListenerStatus where
  /-- Name of its Service, empty before the first status write. -/
  serviceName : String := ""
  ingressAddresses : List IngressAddressSpec := []
  /-- Node ports by port name, for a NodePort Service. -/
  nodePorts : StringMap Int := ∅
  deriving DecidableEq

/-- A Listener. -/
structure Listener where
  metadata : ObjectMeta
  spec : ListenerSpec
  status : ListenerStatus := {}
  deriving DecidableEq

/-- A target port, by number or by name. -/
inductive IntOrString where
  | int (value : Int)
  | string (value : String)
  deriving DecidableEq

/-- A port of a Service. -/
structure ServicePort where
  name : String
  protocol : String
  port : Int
  targetPort : IntOrString
  /-- Port on every node; zero if none is allocated. -/
  nodePort : Int := 0
  deriving DecidableEq

/-- The specification of a Service. -/
structure ServiceSpec where
  ports : List ServicePort
  selector : StringMap String
  type : ServiceType
  publishNotReadyAddresses : Bool := false
  /-- Policy for external traffic, unset for a Service without any. -/
  externalTrafficPolicy : Option ExternalTrafficPolicy := none
  clusterIP : String := ""
  clusterIPs : List String := []
  ipFamilies : List String := []
  ipFamilyPolicy : Option String := none
  sessionAffinity : String := ""
  internalTrafficPolicy : Option String := none
  allocateLoadBalancerNodePorts : Option Bool := none
  loadBalancerClass : Option String := none
  /-- Port for the health checks of a load balancer; zero if none is allocated. -/
  healthCheckNodePort : Int := 0
  deriving DecidableEq

/-- One ingress point of a load balancer. -/
structure LoadBalancerIngress where
  hostname : String := ""
  ip : String := ""
  deriving DecidableEq

/-- A Service. -/
structure Service where
  metadata : ObjectMeta
  spec : ServiceSpec
  loadBalancerIngress : List LoadBalancerIngress := []
  deriving DecidableEq

/-- An endpoint of a Service. -/
structure Endpoint where
  /-- Node of the pod behind the endpoint, if known. -/
  nodeName : Option String
  deriving DecidableEq

/-- A slice of the endpoints of a Service. -/
structure EndpointSlice where
  metadata : ObjectMeta
  endpoints : List Endpoint
  deriving DecidableEq

/-- Types of a node address. -/
inductive NodeAddressType where
  | hostName
  | internalIP
  | externalIP
  | internalDNS
  | externalDNS
  deriving DecidableEq

/-- An address of a node. -/
structure NodeAddress where
  type : NodeAddressType
  address : String
  deriving DecidableEq

/-- A node. -/
structure Node where
  name : String
  /-- Addresses in the order the node reports them. -/
  addresses : List NodeAddress
  deriving DecidableEq

/-- A port of a container. -/
structure ContainerPort where
  name : String := ""
  protocol : String := ""
  containerPort : Int
  deriving DecidableEq

/-- A container of a pod. -/
structure Container where
  ports : List ContainerPort := []
  deriving DecidableEq

/-- A volume of a pod, with the two sources the node plugin looks at. -/
structure Volume where
  name : String
  /-- Name of the claim, for a volume of a claim. -/
  persistentVolumeClaim : Option String := none
  /-- Whether the claim is made for the pod. -/
  ephemeral : Bool := false
  deriving DecidableEq

/-- The specification of a pod. -/
structure PodSpec where
  nodeName : String := ""
  containers : List Container := []
  volumes : List Volume := []
  deriving DecidableEq

/-- A pod. -/
structure Pod where
  metadata : ObjectMeta
  spec : PodSpec := {}
  deriving DecidableEq

/-- A persistent volume, cluster-scoped, with the claim it is bound to. -/
structure PersistentVolume where
  metadata : ObjectMeta
  /-- Claim, absent for an unbound volume. -/
  claimRef : Option ObjectKey := none
  deriving DecidableEq

/-- A claim of a persistent volume. -/
structure PersistentVolumeClaim where
  metadata : ObjectMeta
  deriving DecidableEq

/-- Where the addresses of a published listener are reachable. -/
inductive PodListenerScope where
  | node
  | cluster
  deriving DecidableEq

/-- What is published for one volume of a pod. -/
structure PodListener where
  scope : PodListenerScope
  listenerIngresses : List IngressAddressSpec
  deriving DecidableEq

/-- What is published for the volumes of one pod. -/
structure PodListeners where
  metadata : ObjectMeta
  listeners : StringMap PodListener := ∅
  deriving DecidableEq

end ListenerOperator
