import ListenerOperator.Base.Store
import ListenerOperator.Controller.Service

/-!
# The API server

The objects of a cluster and how the API server answers calls on them. What the server decides
on its own, the identifiers of new objects and the unset fields of a Service, is a parameter
(`ApiServer`) that carries what is assumed of it: an admitted Service differs from the one sent
in unset fields only. Calls on files do not reach the server.
-/

namespace ListenerOperator

open Interaction MergePatch Keyed

/-- The objects of a cluster at one time. -/
structure Cluster where
  listeners : Store fun listener : Listener => listener.metadata.key := ∅
  listenerClasses : Store fun listenerClass : ListenerClass => listenerClass.metadata.name := ∅
  services : Store fun service : Service => service.metadata.key := ∅
  /-- In the order in which they are listed. -/
  endpointSlices : List EndpointSlice := []
  nodes : Store Node.name := ∅
  pods : Store fun pod : Pod => pod.metadata.key := ∅
  pvs : Store fun pv : PersistentVolume => pv.metadata.name := ∅
  pvcs : Store fun pvc : PersistentVolumeClaim => pvc.metadata.key := ∅
  podListeners : Store fun podListeners : PodListeners => podListeners.metadata.key := ∅
  /-- The version given to the last write. -/
  revision : Nat := 0

/-- The slices that carry the label of a Service in its namespace, as they are listed. -/
def Cluster.slicesOf (cluster : Cluster) (ns serviceName : String) : List EndpointSlice :=
  cluster.endpointSlices.filter fun slice =>
    slice.metadata.ns = ns ∧ slice.metadata.labels[serviceNameLabel]? = some serviceName

/-- A stored port is the sent one, up to a node port that was left open. -/
structure ServicePort.Normalises (type : ServiceType) (sent stored : ServicePort) : Prop where
  same : stored = { sent with nodePort := stored.nodePort }
  nodePort : (sent.nodePort ≠ 0 ∨ type.hasNodePorts = false) → stored.nodePort = sent.nodePort

/-- The API server fills unset fields of a specification and alters no set one. -/
structure ServiceSpec.Normalises (sent stored : ServiceSpec) : Prop where
  ports : List.Forall₂ (ServicePort.Normalises sent.type) sent.ports stored.ports
  selector : stored.selector = sent.selector
  type : stored.type = sent.type
  publishNotReadyAddresses : stored.publishNotReadyAddresses = sent.publishNotReadyAddresses
  externalTrafficPolicy : (sent.externalTrafficPolicy.isSome ∨ sent.type.hasNodePorts = false) →
    stored.externalTrafficPolicy = sent.externalTrafficPolicy
  clusterIP : sent.clusterIP ≠ "" → stored.clusterIP = sent.clusterIP
  clusterIPs : sent.clusterIPs ≠ [] → stored.clusterIPs = sent.clusterIPs
  ipFamilies : sent.ipFamilies ≠ [] → stored.ipFamilies = sent.ipFamilies
  ipFamilyPolicy : sent.ipFamilyPolicy.isSome → stored.ipFamilyPolicy = sent.ipFamilyPolicy
  sessionAffinity : sent.sessionAffinity ≠ "" → stored.sessionAffinity = sent.sessionAffinity
  internalTrafficPolicy : sent.internalTrafficPolicy.isSome →
    stored.internalTrafficPolicy = sent.internalTrafficPolicy
  allocateLoadBalancerNodePorts :
    (sent.allocateLoadBalancerNodePorts.isSome ∨ sent.type ≠ .loadBalancer) →
      stored.allocateLoadBalancerNodePorts = sent.allocateLoadBalancerNodePorts
  loadBalancerClass : stored.loadBalancerClass = sent.loadBalancerClass
  healthCheckNodePort : (sent.healthCheckNodePort ≠ 0 ∨ sent.type ≠ .loadBalancer ∨
      sent.externalTrafficPolicy ≠ some .local) →
    stored.healthCheckNodePort = sent.healthCheckNodePort

/-- What the API server decides, and what is assumed of its decisions. -/
structure ApiServer where
  /-- The stored specification of a Service that is written, or a rejection. -/
  admitService : Service → Except CallError ServiceSpec
  /-- The identifier of the next new object. -/
  uid : String
  /-- Admission fills unset fields only. -/
  normalises : ∀ {sent stored}, admitService sent = .ok stored → sent.spec.Normalises stored

/-- The changed fields of an entry of a PodListeners object. -/
structure PodListenerPatch where
  scope : Option PodListenerScope
  listenerIngresses : Option (List IngressAddressSpec)
  deriving DecidableEq

/-- Entries are merged field by field. An entry that is not there yet needs its addresses, and
its scope is defaulted by the schema. -/
def podListenerPatch : ValuePatch PodListener PodListenerPatch where
  full value := ⟨some value.scope, some value.listenerIngresses⟩
  diff first second := if first = second then none else
    some ⟨if first.scope = second.scope then none else some second.scope,
      if first.listenerIngresses = second.listenerIngresses then none
      else some second.listenerIngresses⟩
  merge patch current :=
    match current with
    | some value => some ⟨patch.scope.getD value.scope,
        patch.listenerIngresses.getD value.listenerIngresses⟩
    | none => patch.listenerIngresses.map fun ingresses => ⟨patch.scope.getD .cluster, ingresses⟩
  merge_full value current := by cases current <;> rfl
  diff_eq_none first second := by simp
  merge_diff first second patch found := by
    split at found
    · contradiction
    · obtain rfl := Option.some.inj found
      obtain ⟨firstScope, firstIngresses⟩ := first
      obtain ⟨secondScope, secondIngresses⟩ := second
      by_cases scopes : firstScope = secondScope <;>
        by_cases ingresses : firstIngresses = secondIngresses <;> simp [scopes, ingresses]

/-- The merge patch between two label maps. -/
def labelPatch (original modified : StringMap String) : StringMap (Change String) :=
  diff (ValuePatch.atomic String) original modified

/-- The labels of a stored object after a patch. -/
def patchLabels (original modified stored : StringMap String) : StringMap String :=
  merge (ValuePatch.atomic String) (labelPatch original modified) stored

/-- The answer to a read of one object. -/
def found {β : Type} : Option β → Except CallError β
  | some value => .ok value
  | none => .error { reason := .notFound, message := "not found" }

/-- The version of the next write. -/
def Cluster.nextRevision (cluster : Cluster) : Nat := cluster.revision + 1

/-- The metadata of an object as it is first stored. -/
def ApiServer.newMeta (api : ApiServer) (cluster : Cluster) (metadata : ObjectMeta) : ObjectMeta :=
  { metadata with uid := api.uid, resourceVersion := cluster.nextRevision }

/-- The metadata of an object after a patch of its labels; a patch that changes nothing leaves
the version. -/
def Cluster.relabel (cluster : Cluster) (original modified current : ObjectMeta) : ObjectMeta :=
  let labels := patchLabels original.labels modified.labels current.labels
  if labels = current.labels then current
  else { current with labels, resourceVersion := cluster.nextRevision }

/-- A PodListeners object after a patch of its entries; a patch that changes nothing leaves the
version. -/
def Cluster.relist (cluster : Cluster) (patch : StringMap (Change PodListenerPatch))
    (current : PodListeners) : PodListeners :=
  let listeners := merge podListenerPatch patch current.listeners
  if listeners = current.listeners then current
  else { metadata := { current.metadata with resourceVersion := cluster.nextRevision }, listeners }

/-- The cluster after a write of the status of a stored Listener. -/
def Cluster.storeStatus (cluster : Cluster) (current : Listener) (status : ListenerStatus) :
    Cluster :=
  if current.status = status then cluster
  else { cluster with
    listeners := cluster.listeners.insert { current with
      metadata := { current.metadata with resourceVersion := cluster.nextRevision }
      status }
    revision := cluster.nextRevision }

/-- An error of the server. -/
def serverError (reason : Reason) (message : String) : CallError := { reason, message }

/-- The API server's answer to a call and the cluster it leaves. A write of an object with an
outdated version is a conflict; a write that changes nothing is not stored. -/
def serve (api : ApiServer) : (request : Call) → Cluster → Reply request × Cluster
  | .getListener key, cluster => (found (cluster.listeners.get key), cluster)
  | .getListenerClass key, cluster => (found (cluster.listenerClasses.get key.name), cluster)
  | .getService key, cluster => (found (cluster.services.get key), cluster)
  | .getNode key, cluster => (found (cluster.nodes.get key.name), cluster)
  | .getPod key, cluster => (found (cluster.pods.get key), cluster)
  | .getPV key, cluster => (found (cluster.pvs.get key.name), cluster)
  | .getPVC key, cluster => (found (cluster.pvcs.get key), cluster)
  | .getPodListeners key, cluster => (found (cluster.podListeners.get key), cluster)
  | .listListeners, cluster => (.ok cluster.listeners.values, cluster)
  | .listEndpointSlices ns serviceName, cluster => (.ok (cluster.slicesOf ns serviceName), cluster)
  | .createService service, cluster =>
    match cluster.services.get service.metadata.key with
    | some _ => (.error (serverError .alreadyExists "already exists"), cluster)
    | none =>
      match api.admitService service with
      | .error failure => (.error failure, cluster)
      | .ok spec =>
        let stored := { service with metadata := api.newMeta cluster service.metadata, spec }
        (.ok stored, { cluster with
          services := cluster.services.insert stored
          revision := cluster.nextRevision })
  | .updateService service, cluster =>
    match cluster.services.get service.metadata.key with
    | none => (.error (serverError .notFound "not found"), cluster)
    | some current =>
      if current.metadata.resourceVersion ≠ service.metadata.resourceVersion then
        (.error (serverError .conflict "conflict"), cluster)
      else
        match api.admitService service with
        | .error failure => (.error failure, cluster)
        | .ok spec =>
          let stored := { service with
            metadata := { service.metadata with resourceVersion := cluster.nextRevision }, spec }
          (.ok stored, { cluster with
            services := cluster.services.insert stored
            revision := cluster.nextRevision })
  | .createListener listener, cluster =>
    match cluster.listeners.get listener.metadata.key with
    | some _ => (.error (serverError .alreadyExists "already exists"), cluster)
    | none =>
      let stored := { listener with metadata := api.newMeta cluster listener.metadata }
      (.ok stored, { cluster with
        listeners := cluster.listeners.insert stored
        revision := cluster.nextRevision })
  | .updateListenerStatus listener, cluster =>
    match cluster.listeners.get listener.metadata.key with
    | none => (.error (serverError .notFound "not found"), cluster)
    | some current =>
      if current.metadata.resourceVersion ≠ listener.metadata.resourceVersion then
        (.error (serverError .conflict "conflict"), cluster)
      else
        let after := cluster.storeStatus current listener.status
        (found (after.listeners.get listener.metadata.key), after)
  | .createPodListeners podListeners, cluster =>
    match cluster.podListeners.get podListeners.metadata.key with
    | some _ => (.error (serverError .alreadyExists "already exists"), cluster)
    | none =>
      let stored := { podListeners with metadata := api.newMeta cluster podListeners.metadata }
      (.ok stored, { cluster with
        podListeners := cluster.podListeners.insert stored
        revision := cluster.nextRevision })
  | .patchPodListeners original modified, cluster =>
    match cluster.podListeners.get modified.metadata.key with
    | none => (.error (serverError .notFound "not found"), cluster)
    | some current =>
      let patch := diff podListenerPatch original.listeners modified.listeners
      if !applicable podListenerPatch patch current.listeners then
        (.error (serverError .other "listenerIngresses: Required value"), cluster)
      else
        let stored := cluster.relist patch current
        (.ok stored, { cluster with
          podListeners := cluster.podListeners.insert stored
          revision := cluster.nextRevision })
  | .patchPV original modified, cluster =>
    match cluster.pvs.get modified.metadata.name with
    | none => (.error (serverError .notFound "not found"), cluster)
    | some current =>
      let stored := { current with
        metadata := cluster.relabel original.metadata modified.metadata current.metadata }
      (.ok stored, { cluster with
        pvs := cluster.pvs.insert stored
        revision := cluster.nextRevision })
  | .patchPod original modified, cluster =>
    match cluster.pods.get modified.metadata.key with
    | none => (.error (serverError .notFound "not found"), cluster)
    | some current =>
      let stored := { current with
        metadata := cluster.relabel original.metadata modified.metadata current.metadata }
      (.ok stored, { cluster with
        pods := cluster.pods.insert stored
        revision := cluster.nextRevision })
  | .pathExists _, cluster | .mkdirAll _, cluster | .mount _, cluster | .unmount _, cluster
  | .writeFile _ _, cluster | .symlink _ _, cluster | .removeAll _, cluster =>
    (.error (serverError .other "not a call of the API server"), cluster)

end ListenerOperator
