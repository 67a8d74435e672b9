import ListenerOperator.Base.Outcome
import ListenerOperator.Csi.Node
import ListenerOperator.Verif.Server

/-!
# The status of a Listener

The status that the controller computes is a function of the stored Service, the class and the
nodes that the endpoints name. Each address of the status goes through `AddressInfo.pick`, which
has no result for an IP address when a hostname is preferred.
-/

namespace ListenerOperator

open Interaction Outcome MergePatch

/-- Nothing is picked for an address that is no hostname if no IP address is preferred. -/
theorem AddressInfo.pick_eq_none (address : AddressInfo) (preferred : AddressType) :
    address.pick preferred = none ↔ preferred ≠ .ip ∧ address.addressType ≠ .hostname := by
  rw [AddressInfo.pick]
  by_cases ip : preferred = .ip
  · simp only [ip, ↓reduceIte]
    split <;> simp
  · by_cases host : address.addressType = .hostname
    · simp only [ip, host, ↓reduceIte]
      split <;> simp
    · simp [ip, host]

/-- Picking an IP address relabels the address. -/
theorem AddressInfo.pick_ip (address : AddressInfo) :
    address.pick .ip = some { address with addressType := .ip } := by
  obtain ⟨text, type⟩ := address
  cases type <;> rfl

/-- A picked hostname is the address itself, if the class names a type. -/
theorem AddressInfo.pick_hostname (address : AddressInfo) (host : address.addressType = .hostname) :
    address.pick .hostname = some address := by
  simp [AddressInfo.pick, host]

/-- An entry is missing only because nothing was picked for its address. -/
theorem AddressInfo.statusEntry_error (address : AddressInfo) (preferred : AddressType)
    (ports : StringMap Int) (failure : Failure) :
    address.statusEntry preferred ports = .error failure ↔
      address.pick preferred = none ∧ failure = .nilDereference := by
  rw [AddressInfo.statusEntry]
  cases picked : address.pick preferred with
  | none => simp [deref, eq_comm]
  | some pickAddress => simp [deref]

/-- The entries of a status fail exactly if nothing is picked for one of the addresses. -/
theorem statusEntries_nil_iff (preferred : AddressType) (ports : StringMap Int)
    (addresses : List AddressInfo) :
    statusEntries preferred ports addresses = .error .nilDereference ↔
      ∃ address ∈ addresses, address.pick preferred = none := by
  constructor
  · intro failed
    obtain ⟨address, listed, found⟩ := mapM_eq_error failed
    exact ⟨address, listed, ((address.statusEntry_error _ _ _).mp found).1⟩
  · rintro ⟨address, listed, unpicked⟩
    cases outcome : statusEntries preferred ports addresses with
    | error failure =>
      obtain ⟨other, _, found⟩ := mapM_eq_error outcome
      rw [((other.statusEntry_error _ _ _).mp found).2]
    | ok entries =>
      obtain ⟨entry, _, found⟩ := mapM_ok_value outcome listed
      rw [(address.statusEntry_error preferred ports .nilDereference).mpr ⟨unpicked, rfl⟩] at found
      cases found

/-- A port map gives a name the number of its last port. -/
theorem portMap_get (number : ServicePort → Int) (ports : List ServicePort) (name : String) :
    (portMap number ports)[name]? = if name = "" then none
      else (ports.reverse.find? (·.name = name)).map number := by
  induction ports using List.reverseRecOn with
  | nil => simp [portMap]
  | append_singleton ports port ih =>
    have last : portMap number (ports ++ [port]) = if port.name = "" then portMap number ports
        else (portMap number ports).insert port.name (number port) := by
      simp only [portMap, List.foldl_append, List.foldl_cons, List.foldl_nil]
    rw [last, List.reverse_append, List.reverse_singleton, List.singleton_append, List.find?_cons]
    by_cases unnamed : port.name = ""
    · rw [if_pos unnamed, ih]
      by_cases empty : name = ""
      · simp [empty]
      · have other : ¬ port.name = name := by rw [unnamed]; exact Ne.symm empty
        simp [empty, other]
    · rw [if_neg unnamed, StringMap.get_insert, ih]
      by_cases same : port.name = name
      · subst same
        simp [unnamed]
      · simp [same]

/-- A port map is empty if no port has a name. -/
theorem portMap_eq_empty (number : ServicePort → Int) (ports : List ServicePort) :
    portMap number ports = ∅ ↔ ∀ port ∈ ports, port.name = "" := by
  constructor
  · intro empty port listed
    by_contra named
    have missing : (portMap number ports)[port.name]? = none := by rw [empty]; simp
    rw [portMap_get, if_neg named, Option.map_eq_none_iff, List.find?_eq_none] at missing
    exact missing port (List.mem_reverse.mpr listed) (by simp)
  · intro unnamed
    apply StringMap.ext
    intro name
    rw [portMap_get, Std.ExtTreeMap.getElem?_empty]
    split
    · rfl
    · rename_i named
      rw [Option.map_eq_none_iff, List.find?_eq_none]
      intro port listed
      rw [unnamed port (List.mem_reverse.mp listed)]
      simp [Ne.symm named]

/-- The address the controller finds for a node. -/
def Cluster.priorAddress (cluster : Cluster) (nodeName : String) : Except Failure AddressInfo := do
  let node ← (found (cluster.nodes.get nodeName)).mapError fun failure => .error (.call failure)
  getPriorNodeAddress node

/-- The nodes that the endpoints of a Service name. -/
def Cluster.endpointNodes (cluster : Cluster) (service : Service) : List String :=
  sliceNodeNames (cluster.slicesOf service.metadata.ns service.metadata.name)

/-- The loop over node names returns the addresses of the nodes. -/
theorem nodeAddresses_run (api : ApiServer) (cluster : Cluster) (nodeNames : List String) :
    (nodeAddresses nodeNames).run (serve api) cluster =
      (nodeNames.mapM cluster.priorAddress, cluster) := by
  induction nodeNames with
  | nil => rfl
  | cons nodeName nodeNames ih =>
    have read := run_ask (serve api) (.getNode { name := nodeName }) cluster
    rw [List.mapM_cons, nodeAddresses, Program.run_bind, read]
    simp only [serve, Cluster.priorAddress]
    cases cluster.nodes.get nodeName with
    | none => rfl
    | some node =>
      simp only [found_some, Except.mapError, ok_bind, Program.lift_eq]
      cases getPriorNodeAddress node with
      | error failure => rfl
      | ok address =>
        simp only [Program.done_ok_bind, ok_bind, Program.run_bind, ih]
        cases nodeNames.mapM cluster.priorAddress <;> rfl

/-- The addresses of a Service's nodes are those of the nodes its endpoints name. -/
theorem getNodesAddresses_run (api : ApiServer) (cluster : Cluster) (service : Service) :
    (getNodesAddresses service).run (serve api) cluster =
      ((cluster.endpointNodes service).mapM cluster.priorAddress, cluster) := by
  rw [getNodesAddresses, getNodeNames]
  exact nodeAddresses_run api cluster _

/-- The status of a Listener with a given Service and preferred address type. -/
def Cluster.statusFor (cluster : Cluster) (listener : Listener) (service : Service)
    (preferred : AddressType) : Except Failure ListenerStatus :=
  match service.spec.type with
  | .nodePort => do
    let addresses ← (cluster.endpointNodes service).mapM cluster.priorAddress
    let ports := portMap ServicePort.nodePort service.spec.ports
    let ingressAddresses ← statusEntries preferred ports addresses
    return { serviceName := listener.metadata.name, ingressAddresses, nodePorts := ports }
  | .loadBalancer => do
    let addresses ← getLbIngressAddresses service
    let ingressAddresses ← statusEntries preferred (getPorts service) addresses
    return { serviceName := listener.metadata.name, ingressAddresses }
  | .clusterIP =>
    if preferred = .ip then do
      let addresses := service.spec.clusterIPs.map fun clusterIP => ⟨clusterIP, .ip⟩
      let ingressAddresses ← statusEntries preferred (getPorts service) addresses
      return { serviceName := listener.metadata.name, ingressAddresses }
    else
      return {
        serviceName := listener.metadata.name
        ingressAddresses := [⟨getServiceFQDN service, .hostname, getPorts service⟩] }
  | .externalName => errorText (unsupportedTypeMessage .externalName listener)

/-- The status computation reads the Service, the class and the nodes, and writes nothing. -/
theorem listenerStatus_run (api : ApiServer) {cluster : Cluster} {listener : Listener}
    {service : Service} {listenerClass : ListenerClass}
    (described : cluster.services.get listener.metadata.key = some service)
    (classed : cluster.listenerClasses.get listener.spec.className = some listenerClass) :
    (listenerStatus listener).run (serve api) cluster =
      (listenerClass.preferredType >>= cluster.statusFor listener service, cluster) := by
  have read : (describe listener).run (serve api) cluster = (.ok service, cluster) :=
    run_ask_ok _ (by simp [serve, described])
  have classRead : (ask (.getListenerClass { name := listener.spec.className })).run (serve api)
      cluster = (.ok listenerClass, cluster) := run_ask_ok _ (by simp [serve, classed])
  rw [listenerStatus, Program.run_bind_ok _ read, preferredAddressType]
  simp only [bind_assoc]
  rw [Program.run_bind_ok _ classRead]
  cases listenerClass.preferredType with
  | error failure => rfl
  | ok preferred =>
    simp only [Program.lift_eq, Program.done_ok_bind, ok_bind, Cluster.statusFor]
    cases type : service.spec.type with
    | nodePort =>
      simp only [getNodePorts, type, ne_eq, not_true_eq_false, ↓reduceIte, Program.done_ok_bind]
      rw [Program.run_bind, getNodesAddresses_run]
      cases (cluster.endpointNodes service).mapM cluster.priorAddress with
      | error failure => rfl
      | ok addresses =>
        simp only [ok_bind]
        cases statusEntries preferred (portMap ServicePort.nodePort service.spec.ports) addresses <;>
          rfl
    | loadBalancer =>
      cases getLbIngressAddresses service with
      | error failure => rfl
      | ok addresses =>
        simp only [Program.done_ok_bind, ok_bind]
        cases statusEntries preferred (getPorts service) addresses <;> rfl
    | clusterIP =>
      by_cases ip : preferred = .ip
      · simp only [ip, ↓reduceIte, getClusterIpAddresses, type, ne_eq, not_true_eq_false,
          Program.done_ok_bind]
        cases statusEntries .ip (getPorts service)
          (service.spec.clusterIPs.map fun clusterIP => ⟨clusterIP, .ip⟩) <;> rfl
      · simp [ip]
    | externalName => rfl

/-- Without the Service or the class there is no status. -/
theorem listenerStatus_run_absent (api : ApiServer) {cluster : Cluster} {listener : Listener}
    (absent : cluster.services.get listener.metadata.key = none ∨
      cluster.listenerClasses.get listener.spec.className = none) :
    ∃ failure, (listenerStatus listener).run (serve api) cluster =
      (.error (.error (.call failure)), cluster) := by
  refine ⟨⟨.notFound, "not found"⟩, ?_⟩
  cases described : cluster.services.get listener.metadata.key with
  | none =>
    have read : (describe listener).run (serve api) cluster =
        (.error (.error (.call ⟨.notFound, "not found"⟩)), cluster) :=
      run_ask_error _ (by simp [serve, described])
    rw [listenerStatus, Program.run_bind_error _ read]
  | some service =>
    have unclassed : cluster.listenerClasses.get listener.spec.className = none := by
      simpa [described] using absent
    have read : (describe listener).run (serve api) cluster = (.ok service, cluster) :=
      run_ask_ok _ (by simp [serve, described])
    have classRead : (ask (.getListenerClass { name := listener.spec.className })).run (serve api)
        cluster = (.error (.error (.call ⟨.notFound, "not found"⟩)), cluster) :=
      run_ask_error _ (by simp [serve, unclassed])
    rw [listenerStatus, Program.run_bind_ok _ read, preferredAddressType]
    simp only [bind_assoc]
    rw [Program.run_bind_error _ classRead]

/-- The status computation leaves the cluster as it is. -/
theorem listenerStatus_run_state (api : ApiServer) (cluster : Cluster) (listener : Listener) :
    ((listenerStatus listener).run (serve api) cluster).2 = cluster := by
  cases described : cluster.services.get listener.metadata.key with
  | none =>
    obtain ⟨failure, ran⟩ := listenerStatus_run_absent api (Or.inl described)
    rw [ran]
  | some service =>
    cases classed : cluster.listenerClasses.get listener.spec.className with
    | none =>
      obtain ⟨failure, ran⟩ := listenerStatus_run_absent api (Or.inr classed)
      rw [ran]
    | some listenerClass => rw [listenerStatus_run api described classed]

/-- A computed status is written to the stored Listener. -/
theorem updateListenerStatus_run_ok (api : ApiServer) {cluster : Cluster}
    {listener current : Listener} {status : ListenerStatus}
    (computed : (listenerStatus listener).run (serve api) cluster = (.ok status, cluster))
    (stored : cluster.listeners.get listener.metadata.key = some current) :
    (updateListenerStatus listener).run (serve api) cluster =
      (.ok (), cluster.storeStatus current status) := by
  have write := writeStatus_run api status stored
  rw [updateListenerStatus, Program.run_bind_ok _ computed, run_retryOnConflict, write]
  intro failure failed
  rw [write] at failed
  cases failed

/-- The update of a Listener that is gone ends in an error. -/
theorem updateListenerStatus_run_gone (api : ApiServer) {cluster : Cluster}
    {listener : Listener} {status : ListenerStatus}
    (computed : (listenerStatus listener).run (serve api) cluster = (.ok status, cluster))
    (absent : cluster.listeners.get listener.metadata.key = none) :
    ∃ failure, (updateListenerStatus listener).run (serve api) cluster =
      (.error (.error (.call failure)), cluster) := by
  obtain ⟨failure, reason, write⟩ := writeStatus_run_absent api status absent
  refine ⟨failure, ?_⟩
  rw [updateListenerStatus, Program.run_bind_ok _ computed, run_retryOnConflict, write]
  intro other failed
  rw [write] at failed
  obtain rfl := Except.error.inj failed
  simp [Failure.isConflict, reason]

/-- An update that succeeds has written the status computed from the Service and the class. -/
theorem updateListenerStatus_ok (api : ApiServer) {cluster after : Cluster} {listener : Listener}
    (updated : (updateListenerStatus listener).run (serve api) cluster = (.ok (), after)) :
    ∃ service listenerClass preferred status current,
      cluster.services.get listener.metadata.key = some service ∧
      cluster.listenerClasses.get listener.spec.className = some listenerClass ∧
      listenerClass.preferredType = .ok preferred ∧
      cluster.statusFor listener service preferred = .ok status ∧
      cluster.listeners.get listener.metadata.key = some current ∧
      after = cluster.storeStatus current status := by
  rcases ran : (listenerStatus listener).run (serve api) cluster with ⟨outcome, middle⟩
  have unchanged := listenerStatus_run_state api cluster listener
  rw [ran] at unchanged
  subst unchanged
  cases outcome with
  | error failure =>
    rw [updateListenerStatus, Program.run_bind_error _ ran] at updated
    cases updated
  | ok status =>
    cases stored : middle.listeners.get listener.metadata.key with
    | none =>
      obtain ⟨failure, failed⟩ := updateListenerStatus_run_gone api ran stored
      rw [failed] at updated
      cases updated
    | some current =>
      rw [updateListenerStatus_run_ok api ran stored] at updated
      cases described : middle.services.get listener.metadata.key with
      | none =>
        obtain ⟨failure, failed⟩ := listenerStatus_run_absent api (Or.inl described)
        rw [failed] at ran
        cases ran
      | some service =>
        cases classed : middle.listenerClasses.get listener.spec.className with
        | none =>
          obtain ⟨failure, failed⟩ := listenerStatus_run_absent api (Or.inr classed)
          rw [failed] at ran
          cases ran
        | some listenerClass =>
          rw [listenerStatus_run api described classed] at ran
          obtain ⟨preferred, resolved, computed⟩ := bind_eq_ok.mp (Prod.mk.inj ran).1
          exact ⟨service, listenerClass, preferred, status, current, rfl, rfl, resolved, computed,
            rfl, (Prod.mk.inj updated).2.symm⟩

/-- Writing a status leaves the nodes and their addresses. -/
@[simp] theorem Cluster.storeStatus_priorAddress (cluster : Cluster) (current : Listener)
    (status : ListenerStatus) :
    (cluster.storeStatus current status).priorAddress = cluster.priorAddress := by
  rw [cluster.storeStatus_frame current status]
  rfl

/-- The ways to a status, one for each kind of address that a Service has. -/
inductive Cluster.Computes (cluster : Cluster) (listener : Listener) (service : Service)
    (preferred : AddressType) : ListenerStatus → Prop
  | nodePort {addresses ingressAddresses} (type : service.spec.type = .nodePort)
      (resolved : (cluster.endpointNodes service).mapM cluster.priorAddress = .ok addresses)
      (entered : statusEntries preferred (portMap ServicePort.nodePort service.spec.ports)
        addresses = .ok ingressAddresses) :
      Computes cluster listener service preferred
        { serviceName := listener.metadata.name, ingressAddresses
          nodePorts := portMap ServicePort.nodePort service.spec.ports }
  | loadBalancer {addresses ingressAddresses} (type : service.spec.type = .loadBalancer)
      (resolved : getLbIngressAddresses service = .ok addresses)
      (entered : statusEntries preferred (getPorts service) addresses = .ok ingressAddresses) :
      Computes cluster listener service preferred
        { serviceName := listener.metadata.name, ingressAddresses }
  | clusterIPs {ingressAddresses} (type : service.spec.type = .clusterIP) (ip : preferred = .ip)
      (entered : statusEntries preferred (getPorts service)
        (service.spec.clusterIPs.map fun clusterIP => ⟨clusterIP, .ip⟩) = .ok ingressAddresses) :
      Computes cluster listener service preferred
        { serviceName := listener.metadata.name, ingressAddresses }
  | serviceName (type : service.spec.type = .clusterIP) (hostname : preferred ≠ .ip) :
      Computes cluster listener service preferred
        { serviceName := listener.metadata.name
          ingressAddresses := [⟨getServiceFQDN service, .hostname, getPorts service⟩] }

section Computed

variable {cluster : Cluster} {listener : Listener} {service : Service} {preferred : AddressType}
  {status : ListenerStatus}

/-- A status is computed in one of the ways. -/
theorem Cluster.computes_of_statusFor
    (computed : cluster.statusFor listener service preferred = .ok status) :
    cluster.Computes listener service preferred status := by
  rw [Cluster.statusFor] at computed
  split at computed
  · rename_i type
    obtain ⟨addresses, resolved, rest⟩ := bind_eq_ok.mp computed
    obtain ⟨ingressAddresses, entered, same⟩ := bind_eq_ok.mp rest
    obtain rfl := Except.ok.inj same
    exact .nodePort type resolved entered
  · rename_i type
    obtain ⟨addresses, resolved, rest⟩ := bind_eq_ok.mp computed
    obtain ⟨ingressAddresses, entered, same⟩ := bind_eq_ok.mp rest
    obtain rfl := Except.ok.inj same
    exact .loadBalancer type resolved entered
  · rename_i type
    split at computed
    · rename_i ip
      obtain ⟨ingressAddresses, entered, same⟩ := bind_eq_ok.mp computed
      obtain rfl := Except.ok.inj same
      exact .clusterIPs type ip entered
    · rename_i hostname
      obtain rfl := Except.ok.inj computed
      exact .serviceName type hostname
  · cases computed

/-- A computed status names the Service. -/
theorem Cluster.statusFor_serviceName
    (computed : cluster.statusFor listener service preferred = .ok status) :
    status.serviceName = listener.metadata.name := by
  cases computes_of_statusFor computed <;> rfl

/-- The status of a NodePort Service has its node ports, and one entry for each address. -/
theorem Cluster.statusFor_nodePort (type : service.spec.type = .nodePort)
    (computed : cluster.statusFor listener service preferred = .ok status) :
    status.nodePorts = portMap ServicePort.nodePort service.spec.ports ∧
      ∃ addresses, (cluster.endpointNodes service).mapM cluster.priorAddress = .ok addresses ∧
        statusEntries preferred status.nodePorts addresses = .ok status.ingressAddresses := by
  cases computes_of_statusFor computed with
  | nodePort _ resolved entered => exact ⟨rfl, _, resolved, entered⟩
  | loadBalancer other => cases type.symm.trans other
  | clusterIPs other => cases type.symm.trans other
  | serviceName other => cases type.symm.trans other

/-- The status of any other Service has no node ports. -/
theorem Cluster.statusFor_other (type : service.spec.type ≠ .nodePort)
    (computed : cluster.statusFor listener service preferred = .ok status) :
    status.nodePorts = ∅ := by
  cases computes_of_statusFor computed with
  | nodePort other => exact absurd other type
  | loadBalancer => rfl
  | clusterIPs => rfl
  | serviceName => rfl

end Computed

/-- With node ports in the status, a pod gets the address of its node. -/
theorem getAddresses_run_node (api : ApiServer) {cluster : Cluster} {listener current : Listener}
    (pod : Pod) (stored : cluster.listeners.get listener.metadata.key = some current)
    (ported : current.status.nodePorts ≠ ∅) :
    (getAddresses listener pod).run (serve api) cluster =
      ((cluster.priorAddress pod.spec.nodeName).map fun address =>
        (current, [{ address with ports := current.status.nodePorts }]), cluster) := by
  have read : (ask (.getListener listener.metadata.key)).run (serve api) cluster =
      (.ok current, cluster) := run_ask_ok _ (by simp [serve, stored])
  have nodeRead : (ask (.getNode { name := pod.spec.nodeName })).run (serve api) cluster =
      ((found (cluster.nodes.get pod.spec.nodeName)).mapError fun failure => .error (.call failure),
        cluster) := run_ask _ _ _
  rw [getAddresses, Program.run_bind_ok _ read, if_pos (by simpa using ported),
    getNodeAddressByPod, bind_assoc, Program.run_bind, nodeRead, Cluster.priorAddress]
  cases cluster.nodes.get pod.spec.nodeName with
  | none => rfl
  | some node =>
    simp only [found_some, Except.mapError, ok_bind, Program.lift_eq]
    cases getPriorNodeAddress node <;> rfl

/-- Without node ports in the status, a pod gets the published addresses. -/
theorem getAddresses_run_cluster (api : ApiServer) {cluster : Cluster} {listener current : Listener}
    (pod : Pod) (stored : cluster.listeners.get listener.metadata.key = some current)
    (portless : current.status.nodePorts = ∅) :
    (getAddresses listener pod).run (serve api) cluster =
      (if current.status.ingressAddresses ≠ [] then
        .ok (current, current.status.ingressAddresses.map IngressAddressSpec.ingressAddress)
      else errorText notReadyMessage, cluster) := by
  have read : (ask (.getListener listener.metadata.key)).run (serve api) cluster =
      (.ok current, cluster) := run_ask_ok _ (by simp [serve, stored])
  rw [getAddresses, Program.run_bind_ok _ read, if_neg (by simp [portless])]
  split <;> rfl

/-- The addresses a pod gets from a stored Listener. -/
def Cluster.addressesFor (cluster : Cluster) (listener : Listener) (pod : Pod) :
    Except Failure (List IngressAddress) :=
  if ¬ listener.status.nodePorts.isEmpty then
    (cluster.priorAddress pod.spec.nodeName).map fun address =>
      [{ address with ports := listener.status.nodePorts }]
  else if listener.status.ingressAddresses ≠ [] then
    .ok (listener.status.ingressAddresses.map IngressAddressSpec.ingressAddress)
  else errorText notReadyMessage

/-- The addresses of a pod come from the stored Listener. -/
theorem getAddresses_run (api : ApiServer) {cluster : Cluster} {listener current : Listener}
    (pod : Pod) (stored : cluster.listeners.get listener.metadata.key = some current) :
    (getAddresses listener pod).run (serve api) cluster =
      ((cluster.addressesFor current pod).map (current, ·), cluster) := by
  by_cases portless : current.status.nodePorts = ∅
  · rw [Cluster.addressesFor, if_neg (by simp [portless]),
      getAddresses_run_cluster api pod stored portless]
    split <;> rfl
  · rw [Cluster.addressesFor, if_pos (by simpa using portless),
      getAddresses_run_node api pod stored portless]
    cases cluster.priorAddress pod.spec.nodeName <;> rfl

/-- The status computation reads, and returns a status that names the Service. -/
theorem listenerStatus_ensures (listener : Listener) :
    (listenerStatus listener).Ensures (fun request => request.kind = .read)
      (fun status => status.serviceName = listener.metadata.name) := by
  have lifted : ∀ {β : Type} {outcome : Except Failure β}, (Program.lift outcome : Prog β).Ensures
      (fun request => request.kind = .read) (fun _ => True) := ensures_lift fun _ _ => trivial
  have asked : ∀ {request : Call}, request.kind = .read → (ask request).Ensures
      (fun request => request.kind = .read) (fun _ => True) := fun reads => ensures_ask reads
  have addresses : ∀ nodeNames, (nodeAddresses nodeNames).Ensures
      (fun request => request.kind = .read) (fun _ => True) := by
    intro nodeNames
    induction nodeNames with
    | nil => trivial
    | cons nodeName nodeNames ih =>
      refine (asked rfl).bind fun node _ => lifted.bind fun address _ => ?_
      exact ih.bind fun _ _ => trivial
  refine (asked rfl).bind fun service _ => ?_
  have preferredType : (preferredAddressType listener).Ensures
      (fun request => request.kind = .read) (fun _ => True) :=
    (asked rfl).bind fun _ _ => lifted
  refine preferredType.bind fun preferred _ => ?_
  split
  · refine lifted.bind fun ports _ => ?_
    have names : (getNodeNames service).Ensures (fun request => request.kind = .read)
        (fun _ => True) := ⟨rfl, fun reply => by cases reply <;> trivial⟩
    exact (names.bind fun nodeNames _ => addresses nodeNames).bind fun _ _ =>
      lifted.bind fun _ _ => rfl
  · exact lifted.bind fun _ _ => lifted.bind fun _ _ => rfl
  · split
    · exact lifted.bind fun _ _ => lifted.bind fun _ _ => rfl
    · rfl
  · trivial

/-- A repeated program makes the calls of the program. -/
theorem retryOnConflict_ensures {α : Type} {allowed : Call → Prop} {post : α → Prop} {body : Prog α}
    (ensures : body.Ensures allowed post) (retries : Nat) :
    (retryOnConflict body retries).Ensures allowed post := by
  induction retries with
  | zero => exact ensures
  | succ retries ih =>
    refine ensures.attempt.bind fun outcome holds => ?_
    cases outcome with
    | ok value => exact holds value rfl
    | error failure =>
      dsimp only
      split
      · exact ih
      · trivial

/-- A status is computed by reads and written by writes of a status. -/
theorem updateListenerStatus_ensures (listener : Listener) :
    (updateListenerStatus listener).Ensures
      (fun call => call.kind = .read ∨ ∃ sent, call = .updateListenerStatus sent)
      fun _ => True := by
  refine ((listenerStatus_ensures listener).mono (fun _ reads => Or.inl reads)
    fun _ _ => trivial).bind fun status _ => retryOnConflict_ensures ?_ _
  refine (ensures_ask (Or.inl rfl)).bind fun current _ => ?_
  exact (ensures_ask (Or.inr ⟨_, rfl⟩)).bind fun _ _ => trivial

end ListenerOperator
