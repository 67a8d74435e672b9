import ListenerOperator.Verif.Instances
import ListenerOperator.Verif.Status

/-!
# Published addresses

Two consequences of how an address is picked. The status computation ends in a nil dereference
exactly if a hostname is preferred and some address is an IP. The address that a pod gets is one
of the status, except for a node with a hostname of which the status publishes an IP address.
-/

namespace ListenerOperator

open Interaction Outcome MergePatch

/-- A class that prefers IP addresses, by its type or because its Services are of type
NodePort. -/
def ListenerClass.PrefersIP (listenerClass : ListenerClass) : Prop :=
  listenerClass.spec.preferredAddressType = .ip ∨
    (listenerClass.spec.preferredAddressType = .hostnameConservative ∧
      listenerClass.spec.serviceType = some .nodePort)

/-- The preferred type of an admitted class is an IP address or a hostname. -/
theorem ListenerClass.Admitted.preferredType {listenerClass : ListenerClass}
    (admitted : listenerClass.Admitted) :
    (listenerClass.PrefersIP ∧ listenerClass.preferredType = .ok .ip) ∨
      (¬ listenerClass.PrefersIP ∧ listenerClass.preferredType = .ok .hostname) := by
  obtain ⟨type, typed, -⟩ := admitted.serviceType
  rw [ListenerClass.PrefersIP, ListenerClass.preferredType, typed]
  cases preferred : listenerClass.spec.preferredAddressType with
  | ip => simp
  | hostname => simp
  | hostnameConservative =>
    by_cases nodePort : type = .nodePort
    · simp [deref, nodePort]
    · simp [deref, nodePort]

/-- The preferred type of a class with a service type is found. -/
theorem ListenerClass.exists_preferredType {listenerClass : ListenerClass} {type : ServiceType}
    (typed : listenerClass.spec.serviceType = some type) :
    ∃ preferred, listenerClass.preferredType = .ok preferred := by
  rw [ListenerClass.preferredType, typed]
  simp only [deref, ok_bind]
  split
  · split <;> exact ⟨_, rfl⟩
  · exact ⟨_, rfl⟩

/-- The addresses that the status computation picks from. -/
def Cluster.pickedAddresses (cluster : Cluster) (service : Service) (preferred : AddressType) :
    List AddressInfo :=
  match service.spec.type with
  | .nodePort =>
    match (cluster.endpointNodes service).mapM cluster.priorAddress with
    | .ok addresses => addresses
    | .error _ => []
  | .loadBalancer => service.loadBalancerIngress.flatMap LoadBalancerIngress.addresses
  | .clusterIP =>
    if preferred = .ip then service.spec.clusterIPs.map fun clusterIP => ⟨clusterIP, .ip⟩ else []
  | .externalName => []

/-- Looking for the address of a node ends in an error at worst. -/
theorem Cluster.priorAddress_not_nil (cluster : Cluster) (nodeName : String) :
    cluster.priorAddress nodeName ≠ .error .nilDereference := by
  rw [Cluster.priorAddress]
  cases cluster.nodes.get nodeName with
  | none => simp [Except.mapError]
  | some node =>
    simp only [found_some, Except.mapError, ok_bind, getPriorNodeAddress]
    cases node.addresses.findSome? NodeAddress.info <;> simp [errorText]

/-- A status is missing because of a nil dereference exactly if nothing is picked for an
address. -/
theorem Cluster.statusFor_nil_iff (cluster : Cluster) (listener : Listener) (service : Service)
    (preferred : AddressType) :
    cluster.statusFor listener service preferred = .error .nilDereference ↔
      ∃ address ∈ cluster.pickedAddresses service preferred, address.pick preferred = none := by
  rw [Cluster.statusFor, Cluster.pickedAddresses]
  cases type : service.spec.type with
  | nodePort =>
    cases resolved : (cluster.endpointNodes service).mapM cluster.priorAddress with
    | error failure =>
      obtain ⟨nodeName, _, failed⟩ := mapM_eq_error resolved
      have other : failure ≠ .nilDereference := by
        rintro rfl
        exact cluster.priorAddress_not_nil nodeName failed
      simp [other]
    | ok addresses =>
      rw [← statusEntries_nil_iff preferred (portMap ServicePort.nodePort service.spec.ports)]
      simp [bind_eq_error]
  | loadBalancer =>
    by_cases empty : service.loadBalancerIngress = []
    · simp [getLbIngressAddresses, type, empty, errorText]
    · rw [← statusEntries_nil_iff preferred (getPorts service)]
      simp [getLbIngressAddresses, type, empty, bind_eq_error]
  | clusterIP =>
    by_cases ip : preferred = .ip
    · rw [if_pos ip, if_pos ip, ← statusEntries_nil_iff preferred (getPorts service)]
      simp [bind_eq_error]
    · simp [ip]
  | externalName => simp [errorText]

/-- The stored objects for which every picked address is there: the class prefers IP addresses,
or there is no IP address among those that the status is made from, or the address of a node is
missing and the computation ends before it picks any. -/
def Cluster.Pickable (cluster : Cluster) (service : Service) (listenerClass : ListenerClass) :
    Prop :=
  listenerClass.PrefersIP ∨
    match service.spec.type with
    | .nodePort =>
      (∃ nodeName ∈ cluster.endpointNodes service,
        ∀ address, cluster.priorAddress nodeName ≠ .ok address) ∨
      ∀ nodeName ∈ cluster.endpointNodes service,
        ∀ address, cluster.priorAddress nodeName = .ok address → address.addressType = .hostname
    | .loadBalancer => ∀ ingress ∈ service.loadBalancerIngress, ingress.ip = ""
    | .clusterIP | .externalName => True

/-- With hostnames preferred, the addresses that are picked from have to be hostnames. -/
theorem Cluster.hostnames_iff_pickable (cluster : Cluster) (service : Service)
    (listenerClass : ListenerClass) (hosts : ¬ listenerClass.PrefersIP) :
    (∀ address ∈ cluster.pickedAddresses service .hostname, address.addressType = .hostname) ↔
      cluster.Pickable service listenerClass := by
  rw [Cluster.Pickable, or_iff_right hosts, Cluster.pickedAddresses]
  cases service.spec.type with
  | nodePort =>
    cases resolved : (cluster.endpointNodes service).mapM cluster.priorAddress with
    | error failure =>
      obtain ⟨nodeName, listed, failed⟩ := mapM_eq_error resolved
      have missing : ∀ address, cluster.priorAddress nodeName ≠ .ok address := by simp [failed]
      simpa using Or.inl ⟨nodeName, listed, missing⟩
    | ok addresses =>
      have present : ¬ ∃ nodeName ∈ cluster.endpointNodes service,
          ∀ address, cluster.priorAddress nodeName ≠ .ok address := by
        rintro ⟨nodeName, listed, missing⟩
        obtain ⟨address, _, found⟩ := mapM_ok_value resolved listed
        exact missing address found
      rw [or_iff_right present]
      constructor
      · intro typed nodeName listed address found
        obtain ⟨other, included, same⟩ := mapM_ok_value resolved listed
        rw [found] at same
        rw [Except.ok.inj same]
        exact typed other included
      · intro typed address included
        obtain ⟨nodeName, listed, found⟩ := mapM_ok_item resolved included
        exact typed nodeName listed address found
  | loadBalancer =>
    simp only [List.mem_flatMap, LoadBalancerIngress.addresses, List.mem_append]
    constructor
    · intro typed ingress listed
      by_contra numbered
      have host := typed ⟨ingress.ip, .ip⟩ ⟨ingress, listed, Or.inr (by simp [numbered])⟩
      cases host
    · rintro unnumbered address ⟨ingress, listed, named | numbered⟩
      · split at named <;> simp_all
      · simp [unnumbered ingress listed] at numbered
  | clusterIP => simp
  | externalName => simp

/-- Every address picked for an admitted class is there exactly for the pickable inputs. -/
theorem Cluster.picks_iff_pickable (cluster : Cluster) (service : Service)
    {listenerClass : ListenerClass} (admitted : listenerClass.Admitted) {preferred : AddressType}
    (resolved : listenerClass.preferredType = .ok preferred) :
    (∀ address ∈ cluster.pickedAddresses service preferred, address.pick preferred ≠ none) ↔
      cluster.Pickable service listenerClass := by
  rcases admitted.preferredType with ⟨ip, type⟩ | ⟨hosts, type⟩
  · rw [resolved] at type
    obtain rfl := Except.ok.inj type
    exact iff_of_true (by simp [AddressInfo.pick_ip]) (Or.inl ip)
  · rw [resolved] at type
    obtain rfl := Except.ok.inj type
    rw [← cluster.hostnames_iff_pickable service listenerClass hosts]
    simp [AddressInfo.pick_eq_none]

/-- An update of the status ends in a status write. -/
def StatusWritten (api : ApiServer) (cluster : Cluster) (listener : Listener) : Prop :=
  ((updateListenerStatus listener).run (serve api) cluster).1 = .ok () ∧
    ∃ status written, ((listenerStatus listener).run (serve api) cluster).1 = .ok status ∧
      ((updateListenerStatus listener).run (serve api) cluster).2.listeners.get
        listener.metadata.key = some written ∧ written.status = status

/-- If the status computation returns, the update ends in a status write or an error. -/
theorem updateListenerStatus_of_status (api : ApiServer) {cluster : Cluster} {listener : Listener}
    {status : ListenerStatus}
    (computed : (listenerStatus listener).run (serve api) cluster = (.ok status, cluster)) :
    StatusWritten api cluster listener ∨
      ∃ failure, ((updateListenerStatus listener).run (serve api) cluster).1 =
        .error (.error failure) := by
  cases stored : cluster.listeners.get listener.metadata.key with
  | none =>
    obtain ⟨failure, ran⟩ := updateListenerStatus_run_gone api computed stored
    exact Or.inr ⟨_, by rw [ran]⟩
  | some current =>
    have key : current.metadata.key = listener.metadata.key := cluster.listeners.keyed stored
    have ran := updateListenerStatus_run_ok api computed stored
    rw [← key] at stored
    obtain ⟨written, found, same, -⟩ := cluster.storeStatus_get current status stored
    refine Or.inl ⟨by rw [ran], status, written, by rw [computed], ?_, same⟩
    rw [ran, ← key]
    exact found

/-- The update of a status ends in a status write or an ordinary error exactly for the pickable
inputs. -/
theorem updateListenerStatus_orderly (api : ApiServer) {cluster : Cluster} {listener : Listener}
    {service : Service} {listenerClass : ListenerClass}
    (described : cluster.services.get listener.metadata.key = some service)
    (classed : cluster.listenerClasses.get listener.spec.className = some listenerClass)
    (admitted : listenerClass.Admitted) :
    (StatusWritten api cluster listener ∨ ∃ failure,
        ((updateListenerStatus listener).run (serve api) cluster).1 = .error (.error failure)) ↔
      cluster.Pickable service listenerClass := by
  obtain ⟨type, typed, -⟩ := admitted.serviceType
  obtain ⟨preferred, resolved⟩ := ListenerClass.exists_preferredType typed
  have ran := listenerStatus_run api described classed
  rw [resolved, ok_bind] at ran
  rw [← cluster.picks_iff_pickable service admitted resolved]
  have nil := cluster.statusFor_nil_iff listener service preferred
  have picks : cluster.statusFor listener service preferred ≠ .error .nilDereference →
      ∀ address ∈ cluster.pickedAddresses service preferred, address.pick preferred ≠ none :=
    fun other address listed unpicked => other (nil.mpr ⟨address, listed, unpicked⟩)
  cases computed : cluster.statusFor listener service preferred with
  | ok status =>
    rw [computed] at ran
    exact iff_of_true (updateListenerStatus_of_status api ran) (picks (by simp [computed]))
  | error failure =>
    rw [computed] at ran
    have update : (updateListenerStatus listener).run (serve api) cluster =
        (.error failure, cluster) := by
      rw [updateListenerStatus, Program.run_bind_error _ ran]
    rw [StatusWritten, update]
    cases failure with
    | nilDereference =>
      obtain ⟨address, listed, unpicked⟩ := nil.mp computed
      exact iff_of_false (by simp) fun picked => picked address listed unpicked
    | error failure => exact iff_of_true (Or.inr ⟨_, rfl⟩) (picks (by simp [computed]))

/-- Without the Service or the class the update of a status ends in an ordinary error. -/
theorem updateListenerStatus_absent (api : ApiServer) {cluster : Cluster} {listener : Listener}
    (absent : cluster.services.get listener.metadata.key = none ∨
      cluster.listenerClasses.get listener.spec.className = none) :
    ∃ failure, ((updateListenerStatus listener).run (serve api) cluster).1 =
      .error (.error failure) := by
  obtain ⟨failure, ran⟩ := listenerStatus_run_absent api absent
  refine ⟨.call failure, ?_⟩
  rw [updateListenerStatus, Program.run_bind_error _ ran]

/-- Every picked address is there, and the update of a status ends in a status write or an
ordinary error and not in a nil dereference, exactly for the pickable inputs. -/
theorem updateListenerStatus_orderly_iff (api : ApiServer) (cluster : Cluster) (listener : Listener)
    (admitted : ∀ listenerClass, cluster.listenerClasses.get listener.spec.className =
      some listenerClass → listenerClass.Admitted) :
    ((∀ service listenerClass preferred,
        cluster.services.get listener.metadata.key = some service →
        cluster.listenerClasses.get listener.spec.className = some listenerClass →
        listenerClass.preferredType = .ok preferred →
        ∀ address ∈ cluster.pickedAddresses service preferred, address.pick preferred ≠ none) ↔
      ∀ service listenerClass, cluster.services.get listener.metadata.key = some service →
        cluster.listenerClasses.get listener.spec.className = some listenerClass →
        cluster.Pickable service listenerClass) ∧
    ((StatusWritten api cluster listener ∨ ∃ failure,
        ((updateListenerStatus listener).run (serve api) cluster).1 = .error (.error failure)) ↔
      ∀ service listenerClass, cluster.services.get listener.metadata.key = some service →
        cluster.listenerClasses.get listener.spec.className = some listenerClass →
        cluster.Pickable service listenerClass) := by
  refine ⟨⟨?_, ?_⟩, ⟨?_, ?_⟩⟩
  · intro picks service listenerClass described classed
    obtain ⟨type, typed, -⟩ := (admitted listenerClass classed).serviceType
    obtain ⟨preferred, resolved⟩ := ListenerClass.exists_preferredType typed
    exact (cluster.picks_iff_pickable service (admitted listenerClass classed) resolved).mp
      (picks service listenerClass preferred described classed resolved)
  · intro pickable service listenerClass preferred described classed resolved
    exact (cluster.picks_iff_pickable service (admitted listenerClass classed) resolved).mpr
      (pickable service listenerClass described classed)
  · intro orderly service listenerClass described classed
    exact (updateListenerStatus_orderly api described classed
      (admitted listenerClass classed)).mp orderly
  · intro pickable
    by_cases absent : cluster.services.get listener.metadata.key = none ∨
        cluster.listenerClasses.get listener.spec.className = none
    · exact Or.inr (updateListenerStatus_absent api absent)
    · rw [not_or] at absent
      obtain ⟨service, described⟩ := Option.ne_none_iff_exists'.mp absent.1
      obtain ⟨listenerClass, classed⟩ := Option.ne_none_iff_exists'.mp absent.2
      exact (updateListenerStatus_orderly api described classed
        (admitted listenerClass classed)).mpr (pickable service listenerClass described classed)

/-- The cluster of `webListener` with a load balancer that has one ingress point. -/
def loadBalancerCluster (ingress : LoadBalancerIngress) : Cluster :=
  { webCluster .loadBalancer .hostnameConservative with
    services := .ofList [{ webService .loadBalancer with loadBalancerIngress := [ingress] }] }

/-- A load balancer with a hostname has a status. -/
theorem loadBalancer_hostname_orderly :
    StatusWritten (.filling "") (loadBalancerCluster { hostname := "lb.example.com" })
      webListener ∨ ∃ failure, ((updateListenerStatus webListener).run (serve (.filling ""))
        (loadBalancerCluster { hostname := "lb.example.com" })).1 = .error (.error failure) := by
  refine (updateListenerStatus_orderly_iff _ _ _ ?_).2.mpr ?_
  · intro listenerClass classed
    obtain rfl := Option.some.inj classed
    exact ⟨⟨.loadBalancer, rfl, by decide⟩, rfl⟩
  · intro service listenerClass described classed
    obtain rfl := Option.some.inj described
    refine Or.inr fun ingress listed => ?_
    obtain rfl := List.mem_singleton.mp listed
    rfl

/-- A load balancer with an IP address ends in a nil dereference under the default preference. -/
theorem loadBalancer_ip_nilDereference :
    (webClass .loadBalancer .hostnameConservative).Admitted ∧
    (webClass .loadBalancer .hostnameConservative).preferredType = .ok .hostname ∧
    AddressInfo.pick ⟨"192.0.2.1", .ip⟩ .hostname = none ∧
    ((updateListenerStatus webListener).run (serve (.filling ""))
      (loadBalancerCluster { ip := "192.0.2.1" })).1 = .error .nilDereference :=
  ⟨⟨⟨.loadBalancer, rfl, by decide⟩, rfl⟩, rfl, rfl, by decide⟩

/-- The address of a node is an IP address or a hostname. -/
theorem Cluster.priorAddress_type {cluster : Cluster} {nodeName : String} {address : AddressInfo}
    (resolved : cluster.priorAddress nodeName = .ok address) :
    address.addressType = .ip ∨ address.addressType = .hostname := by
  obtain ⟨node, _, prior⟩ := bind_eq_ok.mp resolved
  rw [getPriorNodeAddress] at prior
  cases first : node.addresses.findSome? NodeAddress.info with
  | none =>
    rw [first] at prior
    cases prior
  | some other =>
    rw [first] at prior
    obtain rfl := Except.ok.inj prior
    obtain ⟨nodeAddress, _, info⟩ := List.exists_of_findSome?_eq_some first
    rw [NodeAddress.info] at info
    cases type : nodeAddress.type <;> simp only [type, reduceCtorEq, Option.some.injEq] at info <;>
      simp [← info]

/-- The entry of an address is the address with its ports, relabelled as an IP address if those
are preferred. -/
theorem AddressInfo.statusEntry_ok {address : AddressInfo} {preferred : AddressType}
    {ports : StringMap Int} {entry : IngressAddressSpec} (named : preferred ≠ .hostnameConservative)
    (entered : address.statusEntry preferred ports = .ok entry) :
    entry = ⟨address.address, if preferred = .ip then .ip else address.addressType, ports⟩ := by
  obtain ⟨picked, dereferenced, same⟩ := bind_eq_ok.mp entered
  rw [← Except.ok.inj same]
  cases pick : address.pick preferred with
  | none =>
    rw [pick] at dereferenced
    cases dereferenced
  | some pickAddress =>
    rw [pick] at dereferenced
    obtain rfl := Except.ok.inj dereferenced
    cases preferred with
    | hostnameConservative => exact absurd rfl named
    | ip =>
      rw [AddressInfo.pick_ip] at pick
      simp [← Option.some.inj pick]
    | hostname =>
      have host : address.addressType = .hostname := by
        by_contra other
        rw [(AddressInfo.pick_eq_none _ _).mpr ⟨by simp, other⟩] at pick
        cases pick
      rw [address.pick_hostname host] at pick
      simp [← Option.some.inj pick]

/-- The entry made from an address of a node without picking is among the entries of the status
unless it is a hostname and IP addresses are preferred. -/
theorem mem_statusEntries_iff {preferred : AddressType} {ports : StringMap Int}
    {addresses : List AddressInfo} {entries : List IngressAddressSpec} {address : AddressInfo}
    (named : preferred ≠ .hostnameConservative)
    (typed : address.addressType = .ip ∨ address.addressType = .hostname)
    (entered : statusEntries preferred ports addresses = .ok entries)
    (listed : address ∈ addresses) :
    (⟨address.address, address.addressType, ports⟩ : IngressAddressSpec) ∈ entries ↔
      ¬ (preferred = .ip ∧ address.addressType = .hostname) := by
  constructor
  · rintro included ⟨rfl, host⟩
    obtain ⟨other, _, made⟩ := mapM_ok_item entered included
    have same := AddressInfo.statusEntry_ok named made
    simp [host] at same
  · intro kept
    obtain ⟨entry, included, made⟩ := mapM_ok_value entered listed
    have same := AddressInfo.statusEntry_ok named made
    rcases typed with ip | host
    · rw [ip] at same ⊢
      simpa [same] using included
    · have preferred : preferred ≠ .ip := fun ip => kept ⟨ip, host⟩
      rw [if_neg preferred] at same
      rw [← same]
      exact included

/-- The class of NodePort Services prefers IP addresses unless it asks for hostnames. -/
theorem ListenerClass.preferredType_nodePort {listenerClass : ListenerClass}
    (nodePort : listenerClass.spec.serviceType = some .nodePort) :
    listenerClass.preferredType =
      .ok (if listenerClass.spec.preferredAddressType = .hostname then .hostname else .ip) := by
  rw [ListenerClass.preferredType, nodePort]
  cases listenerClass.spec.preferredAddressType <;> rfl

/-- The inputs for which a pod gets another entry than the status has: the Service gives the
status node ports, IP addresses are preferred, and the node of the pod has a hostname. -/
def Cluster.Relabelled (cluster : Cluster) (service : Service) (listenerClass : ListenerClass)
    (pod : Pod) : Prop :=
  service.spec.type = .nodePort ∧ (∃ port ∈ service.spec.ports, port.name ≠ "") ∧
    listenerClass.spec.preferredAddressType ≠ .hostname ∧
    ∃ address, cluster.priorAddress pod.spec.nodeName = .ok address ∧
      address.addressType = .hostname

/-- After an update of the status, every entry that a pod on a node of an endpoint gets occurs in
the status, except for relabelled ones. -/
theorem getAddresses_published_iff (api : ApiServer) {cluster after : Cluster} {listener : Listener}
    {service : Service} {listenerClass : ListenerClass} (pod : Pod)
    (updated : (updateListenerStatus listener).run (serve api) cluster = (.ok (), after))
    (described : cluster.services.get listener.metadata.key = some service)
    (classed : cluster.listenerClasses.get listener.spec.className = some listenerClass)
    (nodePort : listenerClass.spec.serviceType = some .nodePort)
    (scheduled : pod.spec.nodeName ∈ cluster.endpointNodes service) :
    (∀ fresh data, ((getAddresses listener pod).run (serve api) after).1 = .ok (fresh, data) →
      ∀ entry ∈ data, entry.spec ∈ fresh.status.ingressAddresses) ↔
      ¬ cluster.Relabelled service listenerClass pod := by
  obtain ⟨_, _, preferred, status, current, described', classed', resolved, computed, stored,
    rfl⟩ := updateListenerStatus_ok api updated
  obtain rfl := Option.some.inj (described.symm.trans described')
  obtain rfl := Option.some.inj (classed.symm.trans classed')
  have key : current.metadata.key = listener.metadata.key := cluster.listeners.keyed stored
  rw [← key] at stored
  obtain ⟨written, found, rfl, -⟩ := cluster.storeStatus_get current status stored
  rw [key] at found
  rw [ListenerClass.preferredType_nodePort nodePort] at resolved
  obtain rfl := Except.ok.inj resolved
  by_cases ported : written.status.nodePorts = ∅
  · have ran := getAddresses_run_cluster api pod found ported
    refine iff_of_true ?_ ?_
    · intro fresh data returned
      rw [ran] at returned
      dsimp only at returned
      split at returned
      · obtain ⟨rfl, rfl⟩ := Prod.mk.inj (Except.ok.inj returned)
        rintro entry included
        obtain ⟨spec, published, rfl⟩ := List.mem_map.mp included
        exact published
      · cases returned
    · rintro ⟨type, ⟨port, listed, named⟩, -⟩
      obtain ⟨ports, -⟩ := Cluster.statusFor_nodePort type computed
      rw [ported] at ports
      exact named ((portMap_eq_empty _ _).mp ports.symm port listed)
  · have type : service.spec.type = .nodePort := by
      by_contra other
      exact ported (Cluster.statusFor_other other computed)
    obtain ⟨ports, addresses, nodes, entered⟩ := Cluster.statusFor_nodePort type computed
    obtain ⟨address, listed, prior⟩ := mapM_ok_value nodes scheduled
    have hasName : ∃ port ∈ service.spec.ports, port.name ≠ "" := by
      by_contra unnamed
      push Not at unnamed
      rw [ports] at ported
      exact ported ((portMap_eq_empty _ _).mpr unnamed)
    have ran := getAddresses_run_node api pod found ported
    rw [Cluster.storeStatus_priorAddress, prior] at ran
    have published := mem_statusEntries_iff (by split <;> simp)
      (Cluster.priorAddress_type prior) entered listed
    have relabelled : cluster.Relabelled service listenerClass pod ↔
        listenerClass.spec.preferredAddressType ≠ .hostname ∧ address.addressType = .hostname := by
      simp [Cluster.Relabelled, type, hasName, prior]
    rw [relabelled, ran]
    simpa [Except.map, IngressAddress.spec] using published

/-- The cluster of `webListener` with a NodePort Service that has an endpoint on a node. -/
def nodePortCluster (preferred : AddressType) (nodeAddress : NodeAddress) : Cluster :=
  { webCluster .nodePort preferred with
    endpointSlices := [webSlice]
    nodes := .ofList [{ name := "worker", addresses := [nodeAddress] }] }

/-- On a node with an IP address the entry of the pod is in the status. -/
theorem nodePort_ip_published :
    ∃ fresh data, ((getAddresses webListener webPod).run (serve (.filling ""))
        ((updateListenerStatus webListener).run (serve (.filling ""))
          (nodePortCluster .hostnameConservative ⟨.internalIP, "192.0.2.7"⟩)).2).1 =
        .ok (fresh, data) ∧
      ∀ entry ∈ data, entry.spec ∈ fresh.status.ingressAddresses := by
  have updated : (updateListenerStatus webListener).run (serve (.filling ""))
      (nodePortCluster .hostnameConservative ⟨.internalIP, "192.0.2.7"⟩) = (.ok (), _) :=
    Prod.ext (by decide) rfl
  refine ⟨_, _, rfl, (getAddresses_published_iff (.filling "") webPod updated rfl rfl rfl
    (by decide)).mpr ?_ _ _ rfl⟩
  rintro ⟨-, -, -, address, prior, host⟩
  have numbered : (nodePortCluster .hostnameConservative ⟨.internalIP, "192.0.2.7"⟩).priorAddress
      webPod.spec.nodeName = .ok ⟨"192.0.2.7", .ip⟩ := rfl
  rw [numbered] at prior
  rw [← Except.ok.inj prior] at host
  cases host

/-- On a node with a hostname only, the pod gets a hostname where the status has an IP address. -/
theorem nodePort_hostname_relabelled :
    let cluster := nodePortCluster .hostnameConservative ⟨.hostName, "worker.example.com"⟩
    let updated := (updateListenerStatus webListener).run (serve (.filling "")) cluster
    updated.1 = .ok () ∧ webPod.spec.nodeName ∈ cluster.endpointNodes (webService .nodePort) ∧
      ∃ fresh data, ((getAddresses webListener webPod).run (serve (.filling "")) updated.2).1 =
          .ok (fresh, data) ∧
        ∃ entry ∈ data, entry.spec ∉ fresh.status.ingressAddresses :=
  ⟨by decide, by decide, _, _, rfl, by decide⟩

end ListenerOperator
