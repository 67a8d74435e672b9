import ListenerOperator.Verif.Addresses
import ListenerOperator.Verif.Service

/-!
# Publishing before there are endpoints

A pod has no endpoint before its volumes are mounted. For NodePort and ClusterIP Services the
addresses that a volume publishes do not depend on endpoints: at most two reconciliations lead to
a status from which every pod gets addresses.
-/

namespace ListenerOperator

open Interaction Outcome MergePatch Keyed

/-- A reconciliation that has to write the Service ends there. -/
theorem reconcile_run_written {runtime : ControllerRuntime} {api : ApiServer}
    {cluster after : Cluster} {listener : Listener}
    (stored : cluster.listeners.get listener.metadata.key = some listener)
    (written : (createService runtime listener).run (serve api) cluster =
      (.ok { requeue := true }, after)) :
    (reconcile runtime listener.metadata.key).run (serve api) cluster =
      (.ok { requeue := true }, after) := by
  simp only [reconcile, Program.run_call, serve, stored, found_some]
  rw [Program.run_bind_ok _ written]
  rfl

/-- A reconciliation that finds the Service as it should be writes the status. -/
theorem reconcile_run_settled {runtime : ControllerRuntime} {api : ApiServer} {cluster : Cluster}
    {listener : Listener} {status : ListenerStatus}
    (stored : cluster.listeners.get listener.metadata.key = some listener)
    (settled : (createService runtime listener).run (serve api) cluster = (.ok {}, cluster))
    (computed : (listenerStatus listener).run (serve api) cluster = (.ok status, cluster)) :
    (reconcile runtime listener.metadata.key).run (serve api) cluster =
      (.ok {}, cluster.storeStatus listener status) := by
  have update := updateListenerStatus_run_ok api computed stored
  simp only [reconcile, Program.run_call, serve, stored, found_some]
  rw [Program.run_bind_ok _ settled, if_neg (by simp [Result.isZero]), Program.run_bind_ok _ update]
  rfl

/-- If the owner can be set and the server accepts the Service, then the stored Service is as it
should be, or `createService` stores it and asks to be run again. -/
theorem createService_served {runtime : ControllerRuntime} {api : ApiServer} {cluster : Cluster}
    {listener : Listener} {listenerClass : ListenerClass} {desired : Service}
    (wants : cluster.Wants listener listenerClass desired)
    (free : ∀ service, cluster.services.get listener.metadata.key = some service →
      ∀ reference ∈ service.metadata.ownerReferences,
        ¬ reference.ControlledByOther "Listener" listener.metadata)
    (accepts : ∀ sent : Service, sent.metadata.key = listener.metadata.key →
      ∃ spec, api.admitService sent = .ok spec) :
    (∃ existing, cluster.services.get listener.metadata.key = some existing ∧
      mutateService runtime listener desired existing = .ok existing) ∨
    ∃ base sent stored, cluster.UpdatesFrom desired base ∧
      mutateService runtime listener desired base = .ok sent ∧ Stored api sent stored ∧
      (createService runtime listener).run (serve api) cluster =
        (.ok { requeue := true }, cluster.storeService stored) := by
  rcases createService_cases runtime api cluster listener with ⟨failure, causes, -⟩ |
    ⟨otherClass, other, otherWants, outcome⟩
  · obtain ⟨base, based, cause⟩ := causes listenerClass desired wants
    have key := wants.base_key based
    have ns : base.metadata.ns = listener.metadata.ns := congrArg ObjectKey.ns key
    have unowned : ∀ reference ∈ base.metadata.ownerReferences,
        ¬ reference.ControlledByOther "Listener" listener.metadata := by
      rw [Cluster.UpdatesFrom, desiredService_key wants.wanted] at based
      rcases based with present | ⟨-, rfl⟩
      · exact free base present
      · intro reference listed
        rw [desiredService_references wants.wanted] at listed
        cases listed
    have owned : ∃ references, runtime.setControllerReference "Listener" listener.metadata
        base.metadata = .ok references := runtime.succeeds (Or.inr ns.symm) unowned
    obtain ⟨references, set⟩ := owned
    rcases cause with failed | ⟨sent, refused, mutation, admission⟩
    · rw [mutateService, set] at failed
      cases failed
    · obtain ⟨spec, accepted⟩ := accepts sent (by rw [mutateService_key mutation, key])
      rw [accepted] at admission
      cases admission
  · obtain rfl := Option.some.inj (wants.classed.symm.trans otherWants.classed)
    obtain rfl := Except.ok.inj (wants.wanted.symm.trans otherWants.wanted)
    rcases outcome with ⟨existing, described, fixed, -⟩ | written
    · exact Or.inl ⟨existing, described, fixed⟩
    · exact Or.inr written

/-- No slice of the Service of a Listener has an endpoint. -/
def Cluster.NoEndpoints (cluster : Cluster) (listener : Listener) : Prop :=
  ∀ slice ∈ cluster.slicesOf listener.metadata.ns listener.metadata.name, slice.endpoints = []

/-- Slices without endpoints name no node. -/
theorem Cluster.NoEndpoints.nodes {cluster : Cluster} {listener : Listener} {service : Service}
    (unready : cluster.NoEndpoints listener)
    (key : service.metadata.key = listener.metadata.key) : cluster.endpointNodes service = [] := by
  have ns : service.metadata.ns = listener.metadata.ns := congrArg ObjectKey.ns key
  have name : service.metadata.name = listener.metadata.name := congrArg ObjectKey.name key
  rw [Cluster.endpointNodes, sliceNodeNames, ns, name, List.flatMap_eq_nil_iff]
  intro slice listed
  rw [unready slice listed]
  rfl

/-- Entries of IP addresses are made if those are preferred. -/
theorem statusEntries_ip (ports : StringMap Int) (addresses : List AddressInfo) :
    ∃ entries, statusEntries .ip ports addresses = .ok entries ∧
      entries.length = addresses.length := by
  cases outcome : statusEntries .ip ports addresses with
  | error failure =>
    obtain ⟨address, _, failed⟩ := mapM_eq_error outcome
    have unpicked := ((address.statusEntry_error _ _ _).mp failed).1
    rw [address.pick_ip] at unpicked
    cases unpicked
  | ok entries => exact ⟨entries, rfl, (mapM_eq_ok.mp outcome).length_eq.symm⟩

/-- A status from which every pod gets addresses: it has node ports, or no node ports and an
address. -/
def ListenerStatus.Publishes (status : ListenerStatus) (type : ServiceType) : Prop :=
  (type = .nodePort ∧ status.nodePorts ≠ ∅) ∨
    (type = .clusterIP ∧ status.nodePorts = ∅ ∧ status.ingressAddresses ≠ [])

/-- Without endpoints, the status of a NodePort or ClusterIP Service publishes. -/
theorem Cluster.statusFor_publishes {cluster : Cluster} {listener : Listener} {service : Service}
    (unready : cluster.NoEndpoints listener)
    (key : service.metadata.key = listener.metadata.key)
    (type : service.spec.type = .nodePort ∨ service.spec.type = .clusterIP)
    (named : ∃ port ∈ service.spec.ports, port.name ≠ "")
    (addressed : service.spec.clusterIPs ≠ []) (preferred : AddressType) :
    ∃ status, cluster.statusFor listener service preferred = .ok status ∧
      status.Publishes service.spec.type := by
  rcases type with nodePort | clusterIP
  · refine ⟨{
      serviceName := listener.metadata.name
      nodePorts := portMap ServicePort.nodePort service.spec.ports }, ?_, Or.inl ⟨nodePort, ?_⟩⟩
    · rw [Cluster.statusFor, nodePort, unready.nodes key]
      rfl
    · obtain ⟨port, listed, hasName⟩ := named
      intro empty
      exact hasName ((portMap_eq_empty _ _).mp empty port listed)
  · by_cases ip : preferred = .ip
    · obtain ⟨entries, entered, length⟩ := statusEntries_ip (getPorts service)
        (service.spec.clusterIPs.map fun clusterIP => ⟨clusterIP, .ip⟩)
      refine ⟨{ serviceName := listener.metadata.name, ingressAddresses := entries }, ?_,
        Or.inr ⟨clusterIP, rfl, ?_⟩⟩
      · simp only [Cluster.statusFor, clusterIP, ip, ↓reduceIte, entered, ok_bind, pure_eq]
      · rintro rfl
        rw [List.length_nil, List.length_map, eq_comm, List.length_eq_zero_iff] at length
        exact addressed length
    · refine ⟨{
        serviceName := listener.metadata.name
        ingressAddresses := [⟨getServiceFQDN service, .hostname, getPorts service⟩] }, ?_,
        Or.inr ⟨clusterIP, rfl, by simp⟩⟩
      simp only [Cluster.statusFor, clusterIP, ip, ↓reduceIte, pure_eq]

/-- A node with an address of one of the types that count. -/
def Node.Addressable (node : Node) : Prop :=
  ∃ address ∈ node.addresses,
    address.type = .externalIP ∨ address.type = .internalIP ∨ address.type = .hostName

/-- The address of an addressable node is found. -/
theorem Cluster.priorAddress_addressable {cluster : Cluster} {nodeName : String} {node : Node}
    (present : cluster.nodes.get nodeName = some node) (addressable : node.Addressable) :
    ∃ address, cluster.priorAddress nodeName = .ok address := by
  obtain ⟨nodeAddress, listed, type⟩ := addressable
  have some : (node.addresses.findSome? NodeAddress.info).isSome := by
    rw [List.findSome?_isSome_iff]
    refine ⟨nodeAddress, listed, ?_⟩
    rcases type with type | type | type <;> simp [NodeAddress.info, type]
  obtain ⟨address, first⟩ := Option.isSome_iff_exists.mp some
  refine ⟨address, ?_⟩
  simp only [Cluster.priorAddress, present, found_some, Except.mapError, ok_bind,
    getPriorNodeAddress, first]

/-- Every pod on an addressable node gets addresses from the stored status of a Listener, and
their scope is the node exactly for a NodePort Service. -/
def Cluster.Published (cluster : Cluster) (api : ApiServer) (listener : Listener) : Prop :=
  ∃ service current, cluster.services.get listener.metadata.key = some service ∧
    cluster.listeners.get listener.metadata.key = some current ∧
    (determinePodListenerScope current = .node ↔ service.spec.type = .nodePort) ∧
    ∀ pod node, cluster.nodes.get pod.spec.nodeName = some node → node.Addressable →
      ∃ data, (getAddresses listener pod).run (serve api) cluster = (.ok (current, data), cluster) ∧
        data ≠ []

/-- A Listener with a status that publishes is published. -/
theorem ListenerStatus.Publishes.published {api : ApiServer} {cluster : Cluster}
    {listener current : Listener} {service : Service}
    (described : cluster.services.get listener.metadata.key = some service)
    (stored : cluster.listeners.get listener.metadata.key = some current)
    (publishes : current.status.Publishes service.spec.type) : cluster.Published api listener := by
  refine ⟨service, current, described, stored, ?_, ?_⟩
  · rcases publishes with ⟨type, ported⟩ | ⟨type, portless, -⟩
    · simp [determinePodListenerScope, ported, type]
    · simp [determinePodListenerScope, portless, type]
  · intro pod node present addressable
    rcases publishes with ⟨-, ported⟩ | ⟨-, portless, addressed⟩
    · obtain ⟨address, prior⟩ := Cluster.priorAddress_addressable present addressable
      have ran := getAddresses_run_node api pod stored ported
      rw [prior] at ran
      exact ⟨_, ran, by simp⟩
    · have ran := getAddresses_run_cluster api pod stored portless
      rw [if_pos addressed] at ran
      exact ⟨_, ran, by simpa using addressed⟩

/-- The reconciliation of a Listener whose stored Service is as it should be leads to a status
that publishes. -/
theorem reconcile_publishes_settled {runtime : ControllerRuntime} {api : ApiServer}
    {cluster : Cluster} {listener : Listener} {listenerClass : ListenerClass}
    {desired service : Service} {type : ServiceType}
    (stored : cluster.listeners.get listener.metadata.key = some listener)
    (wants : cluster.Wants listener listenerClass desired)
    (typed : listenerClass.spec.serviceType = some type)
    (kind : type = .nodePort ∨ type = .clusterIP)
    (unready : cluster.NoEndpoints listener)
    (described : cluster.services.get listener.metadata.key = some service)
    (fixed : mutateService runtime listener desired service = .ok service)
    (addressed : service.spec.type = type → service.spec.clusterIPs ≠ []) :
    ∃ after, (reconcile runtime listener.metadata.key).run (serve api) cluster = (.ok {}, after) ∧
      after.nodes = cluster.nodes ∧ after.Published api listener := by
  obtain ⟨other, otherTyped, spec⟩ := desiredService_spec wants.wanted
  obtain rfl := Option.some.inj (typed.symm.trans otherTyped)
  have serviceType : service.spec.type = type := by
    rw [(Service.carries_of_fixed wants.wanted fixed).type, spec]
  have named : ∃ port ∈ service.spec.ports, port.name ≠ "" := by
    obtain ⟨first, listed⟩ := List.exists_mem_of_ne_nil _ wants.ported
    have name := servicePorts_named listener first listed
    rw [← settled_ports wants.wanted fixed] at listed
    obtain ⟨kept, among, rfl⟩ := List.mem_map.mp listed
    exact ⟨kept, among, name⟩
  obtain ⟨preferred, resolved⟩ := ListenerClass.exists_preferredType typed
  have key : service.metadata.key = listener.metadata.key := cluster.services.keyed described
  obtain ⟨status, computed, publishes⟩ := cluster.statusFor_publishes unready key
    (by rw [serviceType]; exact kind) named (addressed serviceType) preferred
  have ran := listenerStatus_run api described wants.classed
  rw [resolved, ok_bind, computed] at ran
  obtain ⟨written, found, rfl, -⟩ := cluster.storeStatus_get listener status stored
  refine ⟨_, reconcile_run_settled stored (createService_settled api wants described fixed).1 ran,
    ?_, ?_⟩
  · rw [cluster.storeStatus_frame]
  · refine ListenerStatus.Publishes.published ?_ found publishes
    rw [cluster.storeStatus_frame]
    exact described

/-- What the API server is assumed to do with the Service of a Listener: it accepts it and gives
it a cluster IP. -/
def ApiServer.Serves (api : ApiServer) (listener : Listener) : Prop :=
  ∀ sent : Service, sent.metadata.key = listener.metadata.key →
    ∃ spec, api.admitService sent = .ok spec ∧ spec.clusterIPs ≠ []

/-- For a Listener with named ports and a class of NodePort or ClusterIP Services, in a cluster
without endpoints of its Service, at most two reconciliations end without an error and a request
to be run again. After them every pod on an addressable node gets addresses, and their scope is
the node exactly for a NodePort Service. -/
theorem reconcile_publishes (runtime : ControllerRuntime) (api : ApiServer) {cluster : Cluster}
    {listener : Listener} {listenerClass : ListenerClass} {type : ServiceType}
    (stored : cluster.listeners.get listener.metadata.key = some listener)
    (ported : servicePorts listener ≠ [])
    (distinct : ((servicePorts listener).map ServicePort.name).Nodup)
    (classed : cluster.listenerClasses.get listener.spec.className = some listenerClass)
    (typed : listenerClass.spec.serviceType = some type)
    (kind : type = .nodePort ∨ type = .clusterIP)
    (policy : listenerClass.spec.serviceExternalTrafficPolicy.isSome)
    (unready : cluster.NoEndpoints listener)
    (free : ∀ service, cluster.services.get listener.metadata.key = some service →
      ∀ reference ∈ service.metadata.ownerReferences,
        ¬ reference.ControlledByOther "Listener" listener.metadata)
    (addressed : ∀ service, cluster.services.get listener.metadata.key = some service →
      service.spec.type = type → service.spec.clusterIPs ≠ [])
    (serves : api.Serves listener) :
    ∃ after, ((reconcile runtime listener.metadata.key).run (serve api) cluster = (.ok {}, after) ∨
        ∃ middle, (reconcile runtime listener.metadata.key).run (serve api) cluster =
            (.ok { requeue := true }, middle) ∧
          (reconcile runtime listener.metadata.key).run (serve api) middle = (.ok {}, after)) ∧
      after.nodes = cluster.nodes ∧ after.Published api listener := by
  obtain ⟨desired, wanted⟩ := exists_desiredService listener typed
  have wants : cluster.Wants listener listenerClass desired := ⟨classed, ported, wanted⟩
  have accepts : ∀ sent : Service, sent.metadata.key = listener.metadata.key →
      ∃ spec, api.admitService sent = .ok spec := fun sent key =>
    (serves sent key).imp fun _ accepted => accepted.1
  rcases createService_served wants free accepts with ⟨existing, described, fixed⟩ |
    ⟨base, sent, written, based, mutation, kept, ran⟩
  · obtain ⟨after, reconciled, published⟩ := reconcile_publishes_settled stored wants typed kind
      unready described fixed (addressed existing described)
    exact ⟨after, Or.inl reconciled, published⟩
  · have described := wants.stored_get based mutation kept
    have fixed := mutateService_settled wanted policy (distinctPorts_of_names distinct) mutation kept
    have given : written.spec.clusterIPs ≠ [] := by
      obtain ⟨spec, accepted, some⟩ := serves sent (by
        rw [mutateService_key mutation, wants.base_key based])
      rw [kept.admitted] at accepted
      rw [Except.ok.inj accepted]
      exact some
    have storedAfter : (cluster.storeService written).listeners.get listener.metadata.key =
        some listener := stored
    obtain ⟨after, reconciled, published⟩ := reconcile_publishes_settled storedAfter
      ⟨classed, ported, wanted⟩ typed kind unready described fixed (fun _ => given)
    exact ⟨after, Or.inr ⟨_, reconcile_run_written stored ran, reconciled⟩, published⟩

/-- A cluster with `webListener`, its class of NodePort Services and a node only. -/
def newCluster : Cluster where
  listeners := .ofList [webListener]
  listenerClasses := .ofList [webClass .nodePort .hostname]
  nodes := .ofList [webNode]

/-- The new Listener is published after at most two reconciliations, to `webPod` for one. -/
theorem reconcile_publishes_new :
    ∃ after, ((reconcile .standard webListener.metadata.key).run (serve (.filling "")) newCluster =
          (.ok {}, after) ∨
        ∃ middle, (reconcile .standard webListener.metadata.key).run (serve (.filling ""))
            newCluster = (.ok { requeue := true }, middle) ∧
          (reconcile .standard webListener.metadata.key).run (serve (.filling "")) middle =
            (.ok {}, after)) ∧
      after.nodes = newCluster.nodes ∧ after.Published (.filling "") webListener ∧
      ∃ current data, (getAddresses webListener webPod).run (serve (.filling "")) after =
        (.ok (current, data), after) ∧ data ≠ [] := by
  have serves : (ApiServer.filling "").Serves webListener := by
    intro sent _
    refine ⟨_, rfl, ?_⟩
    rw [ServiceSpec.filled]
    by_cases empty : sent.spec.clusterIPs = [] <;> simp [empty]
  obtain ⟨after, reconciled, nodes, published⟩ := reconcile_publishes .standard (.filling "")
    (rfl : newCluster.listeners.get webListener.metadata.key = some webListener) (by decide)
    (by decide) rfl rfl (Or.inl rfl) rfl (fun slice listed => by cases listed)
    (fun service described => by cases described) (fun service described => by cases described)
    serves
  refine ⟨after, reconciled, nodes, published, ?_⟩
  obtain ⟨service, current, -, -, -, addresses⟩ := published
  have present : after.nodes.get webPod.spec.nodeName = some webNode := by
    rw [nodes]
    rfl
  have addressable : webNode.Addressable := ⟨_, List.mem_cons_self, Or.inr (Or.inr rfl)⟩
  obtain ⟨data, handed, nonempty⟩ := addresses webPod webNode present addressable
  exact ⟨current, data, handed, nonempty⟩

end ListenerOperator
