import ListenerOperator.Verif.NodePorts

/-!
# Specifications of the Service over whole histories

Some fields of a Service belong to one type of Services only. Whatever happened to the Listener,
its class and the stored Service before, what is sent next has no field that belongs to another
type, has the fields of the Listener and the class as they are now, and keeps all others.
-/

namespace ListenerOperator

open Interaction MergePatch Keyed

/-- A specification without fields that belong to another type. -/
structure ServiceSpec.Fits (spec : ServiceSpec) : Prop where
  clusterIP : spec.type = .clusterIP → (∀ port ∈ spec.ports, port.nodePort = 0) ∧
    spec.externalTrafficPolicy = none ∧ spec.healthCheckNodePort = 0
  loadBalancer : spec.type ≠ .loadBalancer →
    spec.allocateLoadBalancerNodePorts = none ∧ spec.loadBalancerClass = none
  healthCheck : spec.healthCheckNodePort ≠ 0 →
    spec.type = .loadBalancer ∧ spec.externalTrafficPolicy = some .local

/-- A specification has the fields that a Listener and its class ask for. The ports have the node
ports of the stored ports they stand for, if the type has any. -/
structure ServiceSpec.Reflects (spec : ServiceSpec) (listener : Listener)
    (listenerClass : ListenerClass) (stored : List ServicePort) : Prop where
  type : listenerClass.spec.serviceType = some spec.type
  ports : spec.ports = if spec.type.hasNodePorts then
    (servicePorts listener).map (·.adoptNodePort stored) else servicePorts listener
  selector : spec.selector = getPodSelectorLabels listener
  publishNotReadyAddresses :
    spec.publishNotReadyAddresses = listener.spec.getPublishNotReadyAddresses
  externalTrafficPolicy : spec.externalTrafficPolicy =
    if spec.type.hasNodePorts then listenerClass.spec.serviceExternalTrafficPolicy else none

/-- A Service has the other fields of the stored one, or none of them if none is stored. -/
structure Service.Retains (sent : Service) (stored : Option Service) : Prop where
  clusterIP : sent.spec.clusterIP = stored.elim "" fun old => old.spec.clusterIP
  clusterIPs : sent.spec.clusterIPs = stored.elim [] fun old => old.spec.clusterIPs
  ipFamilies : sent.spec.ipFamilies = stored.elim [] fun old => old.spec.ipFamilies
  ipFamilyPolicy : sent.spec.ipFamilyPolicy = stored.elim none fun old => old.spec.ipFamilyPolicy
  annotations : sent.metadata.annotations = stored.elim ∅ fun old => old.metadata.annotations
  labels : sent.metadata.labels = stored.elim ∅ fun old => old.metadata.labels

/-- Ports without node ports adopt none from each other. -/
theorem ServicePort.adoptNodePort_unset {ports : List ServicePort}
    (unset : ∀ port ∈ ports, port.nodePort = 0) {port : ServicePort} (listed : port ∈ ports) :
    port.adoptNodePort ports = port := by
  rw [adoptNodePort]
  cases found : ports.find? (·.sameIdentity port) with
  | none => rfl
  | some stored =>
    have zero := unset stored (List.mem_of_find?_eq_some found)
    have own := unset port listed
    show { port with nodePort := stored.nodePort } = port
    rw [zero, ← own]

/-- What is sent for a Listener fits its type, whatever is stored. -/
theorem mutateSpec_fits {listener : Listener} {listenerClass : ListenerClass} {desired : Service}
    (wanted : desiredService listener listenerClass = .ok desired) (base : ServiceSpec) :
    (mutateSpec desired.spec base).Fits := by
  obtain ⟨type, -, spec⟩ := desiredService_spec wanted
  rw [spec]
  refine ⟨fun isClusterIP => ?_, fun other => ?_, fun set => ?_⟩
  · obtain rfl : type = .clusterIP := isClusterIP
    exact ⟨servicePorts_unset listener, rfl, rfl⟩
  · have different : type ≠ .loadBalancer := other
    simp [mutateSpec, different]
  · show type = .loadBalancer ∧ _
    by_contra neither
    apply set
    show (if type ≠ .loadBalancer ∨ _ ≠ some ExternalTrafficPolicy.local then 0 else _) = (0 : Int)
    rw [if_pos]
    by_cases balanced : type = .loadBalancer
    · exact .inr fun policy => neither ⟨balanced, policy⟩
    · exact .inl balanced

/-- What is sent for a Listener has the fields it asks for. -/
theorem mutateSpec_reflects {listener : Listener} {listenerClass : ListenerClass}
    {desired : Service} (wanted : desiredService listener listenerClass = .ok desired)
    (base : ServiceSpec) :
    (mutateSpec desired.spec base).Reflects listener listenerClass base.ports := by
  obtain ⟨type, typed, spec⟩ := desiredService_spec wanted
  rw [spec]
  exact ⟨typed, rfl, rfl, rfl, rfl⟩

/-- The desired Service has nothing but a key in its metadata. -/
theorem desiredService_metadata {listener : Listener} {listenerClass : ListenerClass}
    {desired : Service} (wanted : desiredService listener listenerClass = .ok desired) :
    desired.metadata = { name := listener.metadata.name, ns := listener.metadata.ns } := by
  obtain ⟨type, -, rest⟩ := Outcome.bind_eq_ok.mp wanted
  obtain ⟨policy, -, same⟩ := Outcome.bind_eq_ok.mp rest
  rw [← Except.ok.inj same]

/-- What a reconciliation sends: a Service that fits its type, has what the Listener and its class
ask for, and keeps all else of the stored Service. -/
structure Cluster.Sends (cluster : Cluster) (listener : Listener) (sent : Service) : Prop where
  fits : sent.spec.Fits
  reflects : ∃ listenerClass,
    cluster.listenerClasses.get listener.spec.className = some listenerClass ∧
      sent.spec.Reflects listener listenerClass
        ((cluster.services.get listener.metadata.key).elim [] fun stored => stored.spec.ports)
  retains : sent.Retains (cluster.services.get listener.metadata.key)

/-- Every Service that `createService` sends is as it should be, in every cluster. -/
theorem createService_sends {runtime : ControllerRuntime} {api : ApiServer} {cluster : Cluster}
    {listener : Listener} {call : Call}
    (made : call ∈ (createService runtime listener).calls (serve api) cluster)
    (writes : call.kind = .write) :
    ∃ sent, (call = .createService sent ∨ call = .updateService sent) ∧
      cluster.Sends listener sent := by
  obtain ⟨listenerClass, desired, base, sent, wants, based, mutation, sends⟩ :=
    createService_writes made writes
  obtain ⟨references, -, rfl⟩ := mutateService_ok mutation
  have key := desiredService_key wants.wanted
  have reflects := mutateSpec_reflects wants.wanted base.spec
  refine ⟨_, sends, mutateSpec_fits wants.wanted base.spec, ⟨listenerClass, wants.classed, ?_⟩, ?_⟩
  · rw [← key]
    rcases based with present | ⟨absent, rfl⟩
    · rw [present]
      exact reflects
    · -- the desired ports have no node ports to adopt
      obtain ⟨type, -, spec⟩ := desiredService_spec wants.wanted
      have adopted : (servicePorts listener).map (·.adoptNodePort base.spec.ports) =
          (servicePorts listener).map (·.adoptNodePort []) := by
        refine List.map_congr_left fun port listed => ?_
        rw [spec]
        exact ServicePort.adoptNodePort_unset (servicePorts_unset listener) listed
      rw [absent, Option.elim_none]
      exact { reflects with ports := by rw [reflects.ports, adopted] }
  · rw [← key]
    rcases based with present | ⟨absent, rfl⟩
    · rw [present]
      exact ⟨rfl, rfl, rfl, rfl, rfl, rfl⟩
    · obtain ⟨type, -, spec⟩ := desiredService_spec wants.wanted
      have metadata := desiredService_metadata wants.wanted
      rw [absent, spec, metadata]
      exact ⟨rfl, rfl, rfl, rfl, rfl, rfl⟩

namespace ServiceState

/-- What happens between the reconciliations of a Service, and a reconciliation. -/
inductive Event where
  /-- The Listener is edited. -/
  | editListener (edited : Listener)
  /-- A class is created or replaced. -/
  | editClass (edited : ListenerClass)
  /-- The API server fills in fields of a Service, or somebody writes one. -/
  | writeService (written : Service)
  /-- The Service is reconciled with an API server. -/
  | reconcile (api : ApiServer)

/-- The state after an event. -/
def after (runtime : ControllerRuntime) (state : ServiceState) : Event → ServiceState
  | .editListener edited => { state with listener := edited }
  | .editClass edited => { state with cluster := { state.cluster with
      listenerClasses := state.cluster.listenerClasses.insert edited } }
  | .writeService written => { state with cluster := { state.cluster with
      services := state.cluster.services.insert written } }
  | .reconcile api => { state with
      cluster := ((createService runtime state.listener).run (serve api) state.cluster).2 }

/-- The calls of an event. -/
def calls (runtime : ControllerRuntime) (state : ServiceState) : Event → List Call
  | .reconcile api => (createService runtime state.listener).calls (serve api) state.cluster
  | _ => []

/-- The calls of a history, each with the state in which its reconciliation started. -/
def log (runtime : ControllerRuntime) : ServiceState → List Event → List (ServiceState × Call)
  | _, [] => []
  | state, event :: events =>
    (state.calls runtime event).map (fun call => (state, call)) ++
      log runtime (state.after runtime event) events

/-- A property of the calls of every event is one of the calls of every history. -/
theorem log_forall {runtime : ControllerRuntime} {good : ServiceState → Call → Prop}
    (step : ∀ state event, ∀ call ∈ calls runtime state event, good state call)
    (start : ServiceState) (events : List Event) :
    ∀ entry ∈ log runtime start events, good entry.1 entry.2 := by
  induction events generalizing start with
  | nil => exact fun _ listed => absurd listed List.not_mem_nil
  | cons event events ih =>
    intro entry listed
    rcases List.mem_append.mp listed with own | later
    · obtain ⟨call, made, rfl⟩ := List.mem_map.mp own
      exact step start event call made
    · exact ih _ entry later

/-- In every history of edits, writes and reconciliations, each Service that is sent fits its type,
has what the Listener and its class ask for at that time, and keeps all else of the Service that
was stored before the call. -/
theorem log_sends (runtime : ControllerRuntime) (start : ServiceState) (events : List Event)
    {state : ServiceState} {call : Call} (logged : (state, call) ∈ log runtime start events)
    (writes : call.kind = .write) :
    ∃ sent, (call = .createService sent ∨ call = .updateService sent) ∧
      state.cluster.Sends state.listener sent := by
  have step : ∀ state event, ∀ call ∈ calls runtime state event, call.kind = .write →
      ∃ sent, (call = .createService sent ∨ call = .updateService sent) ∧
        state.cluster.Sends state.listener sent := by
    intro state event call made writes
    cases event with
    | reconcile api => exact createService_sends made writes
    | _ => cases made
  exact log_forall step start events (state, call) logged writes

/-- A NodePort Service whose class changes to load balancers and to cluster addresses. -/
def retypings : List Event :=
  [.reconcile (.filling ""), .editClass (webClass .loadBalancer .ip), .reconcile (.filling ""),
    .editClass (webClass .clusterIP .ip), .reconcile (.filling "")]

/-- `webListener` before it has a Service. -/
def unserved : ServiceState := ⟨webListener, { webCluster .nodePort .ip with services := ∅ }⟩

/-- When the class no longer asks for a load balancer, what is sent fits the new type. -/
theorem retypings_send :
    ∃ state call sent, (state, call) ∈ log .standard unserved retypings ∧
      state.service.map (·.spec.type) = some .loadBalancer ∧
      (call = .createService sent ∨ call = .updateService sent) ∧
      state.cluster.Sends state.listener sent := by
  obtain ⟨entry, found⟩ : ∃ entry, (log .standard unserved retypings)[8]? = some entry := ⟨_, rfl⟩
  have typed : entry.1.service.map (·.spec.type) = some .loadBalancer := by
    obtain rfl := Option.some.inj found
    decide
  have writes : entry.2.kind = .write := by
    obtain rfl := Option.some.inj found
    decide
  have logged := List.mem_of_getElem? found
  obtain ⟨sent, sends, good⟩ := log_sends .standard unserved retypings logged writes
  exact ⟨entry.1, entry.2, sent, logged, typed, sends, good⟩

end ServiceState

end ListenerOperator
