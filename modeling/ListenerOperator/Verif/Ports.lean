import ListenerOperator.Verif.Publication
import ListenerOperator.Verif.Sources

/-!
# Ports from the Listener to the pods

The ports of a Listener go through its Service, where unnamed ones are left out and node ports
are allocated, into the status and from there to the pods. On the way each name keeps its number:
that of the Listener, or the node port that the Service has for it.
-/

namespace ListenerOperator

open Interaction Outcome MergePatch Keyed

/-- A port map of ports with distinct names gives each name the number of its port. -/
theorem portMap_get_of_distinct {number : ServicePort → Int} {ports : List ServicePort}
    (distinct : (ports.map ServicePort.name).Nodup) {port : ServicePort} (listed : port ∈ ports)
    (named : port.name ≠ "") : (portMap number ports)[port.name]? = some (number port) := by
  rw [portMap_get, if_neg named]
  cases found : ports.reverse.find? (·.name = port.name) with
  | none =>
    have missing := List.find?_eq_none.mp found port (List.mem_reverse.mpr listed)
    simp at missing
  | some other =>
    have same : other.name = port.name := by simpa using List.find?_some found
    have among := List.mem_reverse.mp (List.mem_of_find?_eq_some found)
    rw [List.inj_on_of_nodup_map distinct among listed same]
    rfl

/-- The names of a port map are those of the named ports. -/
theorem mem_portMap {number : ServicePort → Int} {ports : List ServicePort} {name : String} :
    name ∈ portMap number ports ↔ name ≠ "" ∧ ∃ port ∈ ports, port.name = name := by
  rw [← Std.ExtTreeMap.isSome_getElem?_iff_mem, portMap_get]
  by_cases empty : name = ""
  · simp [empty]
  · simp [empty, List.find?_isSome]

/-- The Service port of a named port. -/
theorem PortSpec.servicePort_named {port : PortSpec} (named : port.name ≠ "") :
    port.servicePort =
      some ⟨port.name, port.effectiveProtocol, port.port, .int port.port, 0⟩ := by
  rw [PortSpec.servicePort, if_pos named]

/-- The names of the named ports of a Listener. -/
def Listener.portNames (listener : Listener) : List String :=
  (listener.spec.ports.filter fun port => port.name ≠ "").map PortSpec.name

/-- The desired ports have the names of the named ports. -/
theorem servicePorts_names (listener : Listener) :
    (servicePorts listener).map ServicePort.name = listener.portNames := by
  rw [servicePorts, Listener.portNames]
  induction listener.spec.ports with
  | nil => rfl
  | cons port ports ih =>
    by_cases named : port.name = ""
    · have none : port.servicePort = none := by simp [PortSpec.servicePort, named]
      rw [List.filterMap_cons_none none, ih, List.filter_cons_of_neg (by simp [named])]
    · rw [List.filterMap_cons_some (PortSpec.servicePort_named named), List.map_cons, ih,
        List.filter_cons_of_pos (by simp [named])]
      rfl

/-- A map has exactly the named ports of a Listener, each with its own number, or for a NodePort
Service with the node port that the one Service port of that name was given. -/
structure Listener.CarriesPorts (listener : Listener) (service : Service) (ports : StringMap Int) :
    Prop where
  names : ∀ name, name ∈ ports ↔ name ∈ listener.portNames
  numbers : service.spec.type ≠ .nodePort → ∀ port ∈ listener.spec.ports, port.name ≠ "" →
    ports[port.name]? = some port.port
  nodePorts : service.spec.type = .nodePort → ∀ port ∈ listener.spec.ports, port.name ≠ "" →
    ∃ allocated ∈ service.spec.ports, allocated.name = port.name ∧
      (∀ other ∈ service.spec.ports, other.name = port.name → other = allocated) ∧
      allocated.nodePort ≠ 0 ∧ ports[port.name]? = some allocated.nodePort

section Settled

variable {runtime : ControllerRuntime} {listener : Listener} {listenerClass : ListenerClass}
  {desired service : Service}

/-- The ports of a Service that an update leaves as it is have the names of the named ports of the
Listener. -/
theorem settled_names (wanted : desiredService listener listenerClass = .ok desired)
    (fixed : mutateService runtime listener desired service = .ok service) :
    service.spec.ports.map ServicePort.name = listener.portNames := by
  rw [← servicePorts_names, ← settled_ports wanted fixed, List.map_map]
  rfl

/-- Each named port of the Listener has a port of its name and number. -/
theorem settled_port (wanted : desiredService listener listenerClass = .ok desired)
    (fixed : mutateService runtime listener desired service = .ok service) {port : PortSpec}
    (listed : port ∈ listener.spec.ports) (named : port.name ≠ "") :
    ∃ kept ∈ service.spec.ports, kept.name = port.name ∧ kept.port = port.port := by
  have asked := List.mem_filterMap.mpr ⟨port, listed, PortSpec.servicePort_named named⟩
  rw [show listener.spec.ports.filterMap PortSpec.servicePort = _ from
    (settled_ports wanted fixed).symm] at asked
  obtain ⟨kept, among, same⟩ := List.mem_map.mp asked
  exact ⟨kept, among, congrArg ServicePort.name same, congrArg ServicePort.port same⟩

/-- The published ports of a Service that an update leaves as it is are those of the Listener. -/
theorem settled_carriesPorts (wanted : desiredService listener listenerClass = .ok desired)
    (fixed : mutateService runtime listener desired service = .ok service)
    (distinct : listener.portNames.Nodup)
    (allocated : service.spec.type = .nodePort → ∀ port ∈ service.spec.ports, port.nodePort ≠ 0) :
    listener.CarriesPorts service service.publishedPorts := by
  have names := settled_names wanted fixed
  rw [← names] at distinct
  have keys : ∀ (number : ServicePort → Int) name,
      name ∈ portMap number service.spec.ports ↔ name ∈ listener.portNames := by
    intro number name
    rw [mem_portMap, ← names, List.mem_map]
    refine ⟨fun held => held.2, fun held => ⟨?_, held⟩⟩
    rintro rfl
    have unnamed : "" ∈ listener.portNames := by
      rw [← names]
      exact List.mem_map.mpr held
    obtain ⟨port, among, empty⟩ := List.mem_map.mp unnamed
    have named := (List.mem_filter.mp among).2
    simp [empty] at named
  refine ⟨fun name => ?_, fun other port listed named => ?_, fun type port listed named => ?_⟩
  · rw [Service.publishedPorts]
    split
    · exact keys _ name
    · exact keys _ name
  · obtain ⟨kept, among, sameName, sameNumber⟩ := settled_port wanted fixed listed named
    have number : (getPorts service)[kept.name]? = some kept.port :=
      portMap_get_of_distinct distinct among (by rwa [sameName])
    rw [Service.publishedPorts, if_neg other, ← sameName, number, sameNumber]
  · obtain ⟨kept, among, sameName, -⟩ := settled_port wanted fixed listed named
    refine ⟨kept, among, sameName, fun rival present same => ?_, allocated type kept among, ?_⟩
    · exact List.inj_on_of_nodup_map distinct present among (same.trans sameName.symm)
    · rw [Service.publishedPorts, if_pos type, ← sameName]
      exact portMap_get_of_distinct distinct among (by rwa [sameName])

end Settled

/-- The ports of a status are the published ports of the Service: in every entry, and as the node
ports of a NodePort Service. -/
theorem Cluster.statusFor_ports {cluster : Cluster} {listener : Listener} {service : Service}
    {preferred : AddressType} {status : ListenerStatus}
    (computed : cluster.statusFor listener service preferred = .ok status) :
    (∀ entry ∈ status.ingressAddresses, entry.ports = service.publishedPorts) ∧
      status.nodePorts = if service.spec.type = .nodePort then service.publishedPorts else ∅ := by
  refine ⟨fun entry listed => ?_, ?_⟩
  · obtain entered | ⟨type, -, single⟩ := Cluster.statusFor_entries computed
    · obtain ⟨address, -, made⟩ := mapM_ok_item entered listed
      obtain ⟨picked, -, rfl⟩ := AddressInfo.statusEntry_eq_ok.mp made
      rfl
    · rw [single] at listed
      obtain rfl := List.mem_singleton.mp listed
      rw [Service.publishedPorts, type]
      rfl
  · by_cases type : service.spec.type = .nodePort
    · rw [if_pos type, Service.publishedPorts, if_pos type]
      exact (Cluster.statusFor_nodePort type computed).1
    · rw [if_neg type]
      exact Cluster.statusFor_other type computed

/-- A reconciliation of a stored Listener that ends with nothing more to do found the Service as it
should be, and wrote the status computed from it. -/
theorem reconcile_zero {runtime : ControllerRuntime} {api : ApiServer} {cluster after : Cluster}
    {listener : Listener} (stored : cluster.listeners.get listener.metadata.key = some listener)
    (ran : (reconcile runtime listener.metadata.key).run (serve api) cluster = (.ok {}, after)) :
    ∃ listenerClass desired service preferred status,
      cluster.Wants listener listenerClass desired ∧
      cluster.services.get listener.metadata.key = some service ∧
      mutateService runtime listener desired service = .ok service ∧
      cluster.statusFor listener service preferred = .ok status ∧
      after = cluster.storeStatus listener status := by
  simp only [reconcile, Program.run_call, serve, stored, found_some] at ran
  obtain ⟨result, middle, created, rest⟩ := (Program.run_bind_eq_ok _).mp ran
  rcases createService_cases runtime api cluster listener with ⟨failure, -, failed⟩ |
    ⟨listenerClass, desired, wants, ⟨existing, described, fixed, settled⟩ |
      ⟨base, sent, kept, -, -, -, written⟩⟩
  · rw [failed] at created
    cases created
  · rw [settled] at created
    obtain rfl : {} = result := Except.ok.inj (congrArg Prod.fst created)
    obtain rfl : cluster = middle := congrArg Prod.snd created
    obtain ⟨_, last, updated, returned⟩ := (Program.run_bind_eq_ok _).mp rest
    obtain rfl : last = after := congrArg Prod.snd returned
    obtain ⟨service, _, preferred, status, current, found, -, -, computed, present, rfl⟩ :=
      updateListenerStatus_ok api updated
    obtain rfl := Option.some.inj (described.symm.trans found)
    obtain rfl := Option.some.inj (stored.symm.trans present)
    exact ⟨listenerClass, desired, existing, preferred, status, wants, described, fixed, computed,
      rfl⟩
  · -- a written Service ends the reconciliation with a request for another one
    rw [written] at created
    obtain rfl : { requeue := true } = result := Except.ok.inj (congrArg Prod.fst created)
    have again : ({ requeue := true } : Result) = {} := Except.ok.inj (congrArg Prod.fst rest)
    cases again

/-- After a reconciliation that ends with nothing more to do, every entry of the status has exactly
the named ports of the Listener, with their numbers or, for a NodePort Service, with the node ports
of the Service, which are then the node ports of the status as well. A pod gets the same maps. -/
theorem reconcile_carriesPorts (runtime : ControllerRuntime) (api : ApiServer)
    {cluster after : Cluster} {listener : Listener}
    (stored : cluster.listeners.get listener.metadata.key = some listener)
    (distinct : listener.portNames.Nodup)
    (allocated : ∀ service, cluster.services.get listener.metadata.key = some service →
      service.spec.type = .nodePort → ∀ port ∈ service.spec.ports, port.nodePort ≠ 0)
    (ran : (reconcile runtime listener.metadata.key).run (serve api) cluster = (.ok {}, after)) :
    ∃ listenerClass service written,
      after.listenerClasses.get listener.spec.className = some listenerClass ∧
      after.services.get listener.metadata.key = some service ∧
      after.listeners.get listener.metadata.key = some written ∧
      listenerClass.spec.serviceType = some service.spec.type ∧
      (∀ entry ∈ written.status.ingressAddresses, listener.CarriesPorts service entry.ports) ∧
      (service.spec.type = .nodePort → listener.CarriesPorts service written.status.nodePorts ∧
        ∀ entry ∈ written.status.ingressAddresses, entry.ports = written.status.nodePorts) ∧
      (service.spec.type ≠ .nodePort → written.status.nodePorts = ∅) ∧
      ∀ pod data, ((getAddresses written pod).run (serve api) after).1 = .ok (written, data) →
        data.map IngressAddress.ports = if service.spec.type = .nodePort
          then [written.status.nodePorts]
          else written.status.ingressAddresses.map IngressAddressSpec.ports := by
  obtain ⟨listenerClass, desired, service, preferred, status, wants, described, fixed, computed,
    rfl⟩ := reconcile_zero stored ran
  obtain ⟨written, found, rfl, -, metadata⟩ := cluster.storeStatus_get listener status stored
  obtain ⟨entries, nodePorts⟩ := Cluster.statusFor_ports computed
  have carries := settled_carriesPorts wants.wanted fixed distinct (allocated service described)
  have typed : listenerClass.spec.serviceType = some service.spec.type := by
    obtain ⟨type, isType, spec⟩ := desiredService_spec wants.wanted
    rw [(Service.carries_of_fixed wants.wanted fixed).type, spec]
    exact isType
  have key : written.metadata.key = listener.metadata.key := by
    rw [metadata]
    rfl
  have ported : service.publishedPorts ≠ ∅ := by
    obtain ⟨port, rest, some⟩ := List.exists_cons_of_ne_nil wants.ported
    have named : port.name ∈ service.publishedPorts := by
      rw [carries.names, ← servicePorts_names, some]
      exact List.mem_cons_self
    intro empty
    rw [empty] at named
    exact absurd named Std.ExtTreeMap.not_mem_empty
  refine ⟨listenerClass, service, written, ?_, ?_, found, typed, ?_, ?_, ?_, ?_⟩
  · rw [cluster.storeStatus_frame]
    exact wants.classed
  · rw [cluster.storeStatus_frame]
    exact described
  · intro entry listed
    rw [entries entry listed]
    exact carries
  · intro type
    rw [nodePorts, if_pos type]
    exact ⟨carries, entries⟩
  · intro other
    rw [nodePorts, if_neg other]
  · intro pod data handed
    rw [← key] at found
    by_cases type : service.spec.type = .nodePort
    · rw [if_pos type] at nodePorts ⊢
      rw [getAddresses_run_node api pod found (by rwa [nodePorts])] at handed
      cases prior : (cluster.storeStatus listener written.status).priorAddress
          pod.spec.nodeName with
      | error failure =>
        rw [prior] at handed
        cases handed
      | ok address =>
        rw [prior] at handed
        rw [← (Prod.mk.inj (Except.ok.inj handed)).2]
        rfl
    · rw [if_neg type] at nodePorts ⊢
      rw [getAddresses_run_cluster api pod found nodePorts] at handed
      split at handed
      · rw [← (Prod.mk.inj (Except.ok.inj handed)).2, List.map_map]
        rfl
      · cases handed

/-- `webListener` with a second port and one without a name. -/
def portedListener : Listener := { webListener with
  spec := { webListener.spec with ports := [
    { name := "http", port := 80 }, { name := "", port := 8080 },
    { name := "https", port := 443 }] } }

/-- The cluster of `portedListener`, with an endpoint on `webNode`, after its Service was created. -/
def portedCluster : Cluster :=
  ((reconcile .standard portedListener.metadata.key).run (serve (.filling ""))
    { webCluster .nodePort .hostname with
      listeners := .ofList [portedListener]
      services := ∅
      endpointSlices := [webSlice]
      nodes := .ofList [webNode] }).2

/-- The status of `portedListener` and its entry for `webNode` have the node ports of its named
ports. -/
theorem portedListener_carriesPorts :
    ∃ (after : Cluster) (service : Service) (written : Listener),
      (reconcile .standard portedListener.metadata.key).run (serve (.filling "")) portedCluster =
        (.ok {}, after) ∧
      after.services.get portedListener.metadata.key = some service ∧
      after.listeners.get portedListener.metadata.key = some written ∧
      written.status.ingressAddresses.length = 1 ∧
      (∀ entry ∈ written.status.ingressAddresses,
        portedListener.CarriesPorts service entry.ports) ∧
      portedListener.CarriesPorts service written.status.nodePorts := by
  have ended : ((reconcile .standard portedListener.metadata.key).run (serve (.filling ""))
      portedCluster).1 = .ok {} := by decide +kernel
  have typed : (((reconcile .standard portedListener.metadata.key).run (serve (.filling ""))
      portedCluster).2.services.get portedListener.metadata.key).map
        (fun service => service.spec.type) = some .nodePort := by decide +kernel
  have addressed : (((reconcile .standard portedListener.metadata.key).run (serve (.filling ""))
      portedCluster).2.listeners.get portedListener.metadata.key).map
        (fun listener => listener.status.ingressAddresses.length) = some 1 := by decide +kernel
  have numbered : (portedCluster.services.get portedListener.metadata.key).map
      (fun service => service.spec.ports.all fun port => port.nodePort ≠ 0) = some true := by
    decide +kernel
  rcases ran : (reconcile .standard portedListener.metadata.key).run (serve (.filling ""))
    portedCluster with ⟨outcome, after⟩
  rw [ran] at ended typed addressed
  obtain rfl : outcome = .ok {} := ended
  have allocated : ∀ service,
      portedCluster.services.get portedListener.metadata.key = some service →
      service.spec.type = .nodePort → ∀ port ∈ service.spec.ports, port.nodePort ≠ 0 := by
    intro service found _ port listed
    rw [found] at numbered
    simpa using List.all_eq_true.mp (Option.some.inj numbered) port listed
  obtain ⟨-, service, written, -, described, found, -, entries, nodePorts, -⟩ :=
    reconcile_carriesPorts .standard (.filling "") (rfl : portedCluster.listeners.get
      portedListener.metadata.key = some portedListener) (by decide) allocated ran
  rw [described] at typed
  rw [found] at addressed
  exact ⟨after, service, written, rfl, described, found, Option.some.inj addressed, entries,
    (nodePorts (Option.some.inj typed)).1⟩

end ListenerOperator
