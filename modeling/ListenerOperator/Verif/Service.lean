import ListenerOperator.Base.Outcome
import ListenerOperator.Verif.Instances
import ListenerOperator.Verif.Server

/-!
# The reconciliation of a Service

A run of `createService` fails without an effect, finds the stored Service as it should be, or
writes one Service. What is written keeps the allocations of the stored Service, so that after
the API server has filled the unset fields, the next run finds nothing to write.
-/

namespace ListenerOperator

open Interaction Outcome MergePatch Keyed

/-- The function of the update sets owner references and specification. -/
theorem mutateService_ok {runtime : ControllerRuntime} {listener : Listener}
    {desired service mutated : Service}
    (ok : mutateService runtime listener desired service = .ok mutated) :
    ∃ ownerReferences,
      runtime.setControllerReference "Listener" listener.metadata service.metadata =
        .ok ownerReferences ∧
      mutated = { service with
        metadata := { service.metadata with ownerReferences }
        spec := mutateSpec desired.spec service.spec } := by
  obtain ⟨ownerReferences, set, same⟩ := bind_eq_ok.mp ok
  exact ⟨ownerReferences, set, (Except.ok.inj same).symm⟩

/-- The key of a Service is not changed by the update. -/
theorem mutateService_key {runtime : ControllerRuntime} {listener : Listener}
    {desired service mutated : Service}
    (ok : mutateService runtime listener desired service = .ok mutated) :
    mutated.metadata.key = service.metadata.key := by
  obtain ⟨ownerReferences, -, rfl⟩ := mutateService_ok ok
  rfl

/-- The version of a Service is not changed by the update. -/
theorem mutateService_version {runtime : ControllerRuntime} {listener : Listener}
    {desired service mutated : Service}
    (ok : mutateService runtime listener desired service = .ok mutated) :
    mutated.metadata.resourceVersion = service.metadata.resourceVersion := by
  obtain ⟨ownerReferences, -, rfl⟩ := mutateService_ok ok
  rfl

/-- A class with a service type gives a desired Service. -/
theorem exists_desiredService (listener : Listener) {listenerClass : ListenerClass}
    {type : ServiceType} (typed : listenerClass.spec.serviceType = some type) :
    ∃ desired, desiredService listener listenerClass = .ok desired := by
  rw [desiredService, getExternalTrafficPolicyFromListenerClass, typed, deref, ok_bind, ok_bind]
  split <;> exact ⟨_, rfl⟩

/-- The desired Service has the key of the Listener. -/
theorem desiredService_key {listener : Listener} {listenerClass : ListenerClass} {desired : Service}
    (wanted : desiredService listener listenerClass = .ok desired) :
    desired.metadata.key = listener.metadata.key := by
  obtain ⟨type, -, rest⟩ := bind_eq_ok.mp wanted
  obtain ⟨policy, -, same⟩ := bind_eq_ok.mp rest
  rw [← Except.ok.inj same]
  rfl

/-- The desired Service selects the pods of the Listener. -/
theorem desiredService_selector {listener : Listener} {listenerClass : ListenerClass}
    {desired : Service} (wanted : desiredService listener listenerClass = .ok desired) :
    desired.spec.selector = getPodSelectorLabels listener := by
  obtain ⟨type, -, rest⟩ := bind_eq_ok.mp wanted
  obtain ⟨policy, -, same⟩ := bind_eq_ok.mp rest
  rw [← Except.ok.inj same]

/-- The desired Service has no owner references yet. -/
theorem desiredService_references {listener : Listener} {listenerClass : ListenerClass}
    {desired : Service} (wanted : desiredService listener listenerClass = .ok desired) :
    desired.metadata.ownerReferences = [] := by
  obtain ⟨type, -, rest⟩ := bind_eq_ok.mp wanted
  obtain ⟨policy, -, same⟩ := bind_eq_ok.mp rest
  rw [← Except.ok.inj same]

/-- A Service as it is stored: what was sent, with what the API server fills in. -/
structure Stored (api : ApiServer) (sent stored : Service) : Prop where
  admitted : api.admitService sent = .ok stored.spec
  metadata : ∃ uid resourceVersion,
    stored.metadata = { sent.metadata with uid, resourceVersion }
  loadBalancerIngress : stored.loadBalancerIngress = sent.loadBalancerIngress

/-- The key of a Service is stored as it was sent. -/
theorem Stored.key {api : ApiServer} {sent stored : Service} (kept : Stored api sent stored) :
    stored.metadata.key = sent.metadata.key := by
  obtain ⟨uid, resourceVersion, same⟩ := kept.metadata
  rw [same]
  rfl

/-- The cluster after a Service was written. -/
def Cluster.storeService (cluster : Cluster) (stored : Service) : Cluster :=
  { cluster with
    services := cluster.services.insert stored
    revision := cluster.nextRevision }

/-- A Service that did not exist is created, or the server refuses it. -/
theorem serve_createService (api : ApiServer) {cluster : Cluster} {sent : Service}
    (absent : cluster.services.get sent.metadata.key = none) :
    (∃ failure, api.admitService sent = .error failure ∧
        serve api (.createService sent) cluster = (.error failure, cluster)) ∨
      ∃ stored, Stored api sent stored ∧
        serve api (.createService sent) cluster = (.ok stored, cluster.storeService stored) := by
  cases admitted : api.admitService sent with
  | error failure => exact Or.inl ⟨failure, rfl, by simp only [serve, absent, admitted]⟩
  | ok spec =>
    refine Or.inr ⟨{ sent with metadata := api.newMeta cluster sent.metadata, spec },
      ⟨admitted, ⟨_, _, rfl⟩, rfl⟩, ?_⟩
    simp only [serve, absent, admitted]
    rfl

/-- A Service of the stored version is updated, or the server refuses it. -/
theorem serve_updateService (api : ApiServer) {cluster : Cluster} {sent existing : Service}
    (present : cluster.services.get sent.metadata.key = some existing)
    (version : existing.metadata.resourceVersion = sent.metadata.resourceVersion) :
    (∃ failure, api.admitService sent = .error failure ∧
        serve api (.updateService sent) cluster = (.error failure, cluster)) ∨
      ∃ stored, Stored api sent stored ∧
        serve api (.updateService sent) cluster = (.ok stored, cluster.storeService stored) := by
  cases admitted : api.admitService sent with
  | error failure =>
    exact Or.inl ⟨failure, rfl, by
      simp only [serve, present, version, admitted, ne_eq, not_true_eq_false, ↓reduceIte]⟩
  | ok spec =>
    refine Or.inr ⟨{ sent with
      metadata := { sent.metadata with resourceVersion := cluster.nextRevision }, spec },
      ⟨admitted, ⟨_, _, rfl⟩, rfl⟩, ?_⟩
    simp only [serve, present, version, admitted, ne_eq, not_true_eq_false, ↓reduceIte]
    rfl

/-- What an update starts from: the stored Service, or the given one if there is none. -/
def Cluster.UpdatesFrom (cluster : Cluster) (service base : Service) : Prop :=
  cluster.services.get service.metadata.key = some base ∨
    cluster.services.get service.metadata.key = none ∧ base = service

/-- What a run of `createOrUpdate` does: it fails without an effect because the Service cannot be
mutated or is refused, finds nothing to change, or stores the mutated Service. -/
theorem createOrUpdate_cases (api : ApiServer) (cluster : Cluster) (service : Service)
    {mutate : Service → Except Failure Service}
    (keyed : ∀ {base mutated}, mutate base = .ok mutated →
      mutated.metadata.key = base.metadata.key)
    (versioned : ∀ {base mutated}, mutate base = .ok mutated →
      mutated.metadata.resourceVersion = base.metadata.resourceVersion) :
    (∃ failure base, cluster.UpdatesFrom service base ∧
      (mutate base = .error failure ∨
        ∃ sent refused, mutate base = .ok sent ∧ api.admitService sent = .error refused) ∧
      (createOrUpdate service mutate).run (serve api) cluster = (.error failure, cluster)) ∨
    (∃ existing, cluster.services.get service.metadata.key = some existing ∧
      mutate existing = .ok existing ∧
      (createOrUpdate service mutate).run (serve api) cluster = (.ok .none, cluster)) ∨
    ∃ base sent stored operation, operation ≠ .none ∧ cluster.UpdatesFrom service base ∧
      mutate base = .ok sent ∧ Stored api sent stored ∧
      (createOrUpdate service mutate).run (serve api) cluster =
        (.ok operation, cluster.storeService stored) := by
  cases described : cluster.services.get service.metadata.key with
  | some existing =>
    have key : existing.metadata.key = service.metadata.key := cluster.services.keyed described
    have run : (createOrUpdate service mutate).run (serve api) cluster =
        ((do
          let mutated ← Program.lift (mutate existing)
          if mutated = existing then
            return .none
          let _ ← ask (.updateService mutated)
          return OperationResult.updated) : Prog OperationResult).run (serve api) cluster := by
      simp only [createOrUpdate, Program.run_call, serve, described, found_some]
    cases mutation : mutate existing with
    | error failure =>
      exact Or.inl ⟨failure, existing, Or.inl described, Or.inl mutation, by
        rw [run, mutation]; rfl⟩
    | ok mutated =>
      by_cases same : mutated = existing
      · subst same
        exact Or.inr (Or.inl ⟨mutated, rfl, mutation, by rw [run, mutation]; simp⟩)
      · have present : cluster.services.get mutated.metadata.key = some existing := by
          rw [keyed mutation, key]
          exact described
        rcases serve_updateService api present (versioned mutation).symm with
          ⟨failure, admission, refused⟩ | ⟨stored, kept, updated⟩
        · refine Or.inl ⟨.error (.call failure), existing, Or.inl described,
            Or.inr ⟨mutated, failure, mutation, admission⟩, ?_⟩
          rw [run, mutation, Program.lift_eq, Program.done_ok_bind, if_neg same]
          exact Program.run_bind_error _ (run_ask_error _ refused)
        · refine Or.inr (Or.inr ⟨existing, mutated, stored, .updated, by simp, Or.inl described,
            mutation, kept, ?_⟩)
          rw [run, mutation, Program.lift_eq, Program.done_ok_bind, if_neg same]
          exact Program.run_bind_ok _ (run_ask_ok _ updated)
  | none =>
    have run : (createOrUpdate service mutate).run (serve api) cluster =
        ((do
          let mutated ← Program.lift (mutate service)
          let _ ← ask (.createService mutated)
          return OperationResult.created) : Prog OperationResult).run (serve api) cluster := by
      simp only [createOrUpdate, Program.run_call, serve, described, found_none, ↓reduceIte]
    cases mutation : mutate service with
    | error failure =>
      exact Or.inl ⟨failure, service, Or.inr ⟨described, rfl⟩, Or.inl mutation, by
        rw [run, mutation]; rfl⟩
    | ok mutated =>
      have absent : cluster.services.get mutated.metadata.key = none := by
        rw [keyed mutation]
        exact described
      rcases serve_createService api absent with
        ⟨failure, admission, refused⟩ | ⟨stored, kept, created⟩
      · refine Or.inl ⟨.error (.call failure), service, Or.inr ⟨described, rfl⟩,
          Or.inr ⟨mutated, failure, mutation, admission⟩, ?_⟩
        rw [run, mutation, Program.lift_eq, Program.done_ok_bind]
        exact Program.run_bind_error _ (run_ask_error _ refused)
      · refine Or.inr (Or.inr ⟨service, mutated, stored, .created, by simp,
          Or.inr ⟨described, rfl⟩, mutation, kept, ?_⟩)
        rw [run, mutation, Program.lift_eq, Program.done_ok_bind]
        exact Program.run_bind_ok _ (run_ask_ok _ created)

/-- A run of `createOrUpdate` writes nothing but the mutated Service. -/
theorem createOrUpdate_writes {api : ApiServer} {cluster : Cluster} {service : Service}
    {mutate : Service → Except Failure Service} {call : Call}
    (made : call ∈ (createOrUpdate service mutate).calls (serve api) cluster)
    (writes : call.kind = .write) :
    ∃ base sent, cluster.UpdatesFrom service base ∧ mutate base = .ok sent ∧
      (call = .createService sent ∨ call = .updateService sent) := by
  rw [createOrUpdate, Program.calls_call] at made
  rcases List.mem_cons.mp made with rfl | made
  · cases writes
  · cases described : cluster.services.get service.metadata.key with
    | some existing =>
      simp only [serve, described, found_some] at made
      cases mutation : mutate existing with
      | error failure => simp [mutation] at made
      | ok mutated =>
        by_cases same : mutated = existing
        · simp [mutation, same] at made
        · rw [mutation, Program.lift_eq, Program.done_ok_bind, if_neg same] at made
          refine ⟨existing, mutated, Or.inl described, mutation, Or.inr ?_⟩
          rcases Program.mem_calls_bind _ made with first | ⟨_, _, _, later⟩
          · rw [calls_ask] at first
            exact List.mem_singleton.mp first
          · cases later
    | none =>
      simp only [serve, described, found_none, ↓reduceIte] at made
      cases mutation : mutate service with
      | error failure => simp [mutation] at made
      | ok mutated =>
        rw [mutation, Program.lift_eq, Program.done_ok_bind] at made
        refine ⟨service, mutated, Or.inr ⟨described, rfl⟩, mutation, Or.inl ?_⟩
        rcases Program.mem_calls_bind _ made with first | ⟨_, _, _, later⟩
        · rw [calls_ask] at first
          exact List.mem_singleton.mp first
        · cases later

/-- The Service that a Listener with named ports asks for, by its stored class. -/
structure Cluster.Wants (cluster : Cluster) (listener : Listener) (listenerClass : ListenerClass)
    (desired : Service) : Prop where
  classed : cluster.listenerClasses.get listener.spec.className = some listenerClass
  ported : servicePorts listener ≠ []
  wanted : desiredService listener listenerClass = .ok desired

/-- An update starts from a Service of the key of the Listener. -/
theorem Cluster.Wants.base_key {cluster : Cluster} {listener : Listener}
    {listenerClass : ListenerClass} {desired base : Service}
    (wants : cluster.Wants listener listenerClass desired)
    (based : cluster.UpdatesFrom desired base) : base.metadata.key = listener.metadata.key := by
  rw [← desiredService_key wants.wanted]
  rcases based with present | ⟨-, rfl⟩
  · exact cluster.services.keyed present
  · rfl

/-- A written Service is found under the key of the Listener. -/
theorem Cluster.Wants.stored_get {runtime : ControllerRuntime} {api : ApiServer} {cluster : Cluster}
    {listener : Listener} {listenerClass : ListenerClass} {desired base sent stored : Service}
    (wants : cluster.Wants listener listenerClass desired)
    (based : cluster.UpdatesFrom desired base)
    (mutation : mutateService runtime listener desired base = .ok sent)
    (kept : Stored api sent stored) :
    (cluster.storeService stored).services.get listener.metadata.key = some stored := by
  rw [← wants.base_key based, ← mutateService_key mutation, ← kept.key]
  exact Store.get_insert_self _ _

/-- With a Service to ask for, `createService` is the update of that Service. -/
theorem createService_run (runtime : ControllerRuntime) (api : ApiServer) {cluster : Cluster}
    {listener : Listener} {listenerClass : ListenerClass} {desired : Service}
    (wants : cluster.Wants listener listenerClass desired) :
    (createService runtime listener).run (serve api) cluster =
      ((createOrUpdate desired (mutateService runtime listener desired)) >>= fun operation =>
        if operation ≠ .none then return { requeue := true } else return {} : Prog Result).run
          (serve api) cluster := by
  have read : (getListenerClass listener).run (serve api) cluster = (.ok listenerClass, cluster) :=
    run_ask_ok _ (by simp [serve, wants.classed])
  rw [createService, Program.run_bind_ok _ read, if_neg wants.ported, wants.wanted]
  rfl

/-- What a run of `createService` does: it fails without an effect, finds the Service as it
should be, or stores it and asks to be run again. -/
theorem createService_cases (runtime : ControllerRuntime) (api : ApiServer) (cluster : Cluster)
    (listener : Listener) :
    (∃ failure, (∀ listenerClass desired, cluster.Wants listener listenerClass desired →
        ∃ base, cluster.UpdatesFrom desired base ∧
          (mutateService runtime listener desired base = .error failure ∨
            ∃ sent refused, mutateService runtime listener desired base = .ok sent ∧
              api.admitService sent = .error refused)) ∧
      (createService runtime listener).run (serve api) cluster = (.error failure, cluster)) ∨
    ∃ listenerClass desired, cluster.Wants listener listenerClass desired ∧
      ((∃ existing, cluster.services.get listener.metadata.key = some existing ∧
        mutateService runtime listener desired existing = .ok existing ∧
        (createService runtime listener).run (serve api) cluster = (.ok {}, cluster)) ∨
      ∃ base sent stored, cluster.UpdatesFrom desired base ∧
        mutateService runtime listener desired base = .ok sent ∧ Stored api sent stored ∧
        (createService runtime listener).run (serve api) cluster =
          (.ok { requeue := true }, cluster.storeService stored)) := by
  cases classed : cluster.listenerClasses.get listener.spec.className with
  | none =>
    have read : (getListenerClass listener).run (serve api) cluster =
        (.error (.error (.call ⟨.notFound, "not found"⟩)), cluster) :=
      run_ask_error _ (by simp [serve, classed])
    refine Or.inl ⟨_, ?_, by rw [createService, Program.run_bind_error _ read]⟩
    intro other desired wants
    rw [wants.classed] at classed
    cases classed
  | some listenerClass =>
    have read : (getListenerClass listener).run (serve api) cluster =
        (.ok listenerClass, cluster) := run_ask_ok _ (by simp [serve, classed])
    by_cases ported : servicePorts listener = []
    · refine Or.inl ⟨.error (.text (noPortsMessage listener)),
        fun _ _ wants => absurd ported wants.ported, ?_⟩
      rw [createService, Program.run_bind_ok _ read, if_pos ported]
      rfl
    · cases wanted : desiredService listener listenerClass with
      | error failure =>
        refine Or.inl ⟨failure, ?_, ?_⟩
        · intro other desired wants
          obtain rfl := Option.some.inj (classed.symm.trans wants.classed)
          rw [wants.wanted] at wanted
          cases wanted
        · rw [createService, Program.run_bind_ok _ read, if_neg ported, wanted]
          rfl
      | ok desired =>
        have wants : cluster.Wants listener listenerClass desired := ⟨classed, ported, wanted⟩
        have run := createService_run runtime api wants
        have key := desiredService_key wanted
        rcases createOrUpdate_cases api cluster desired mutateService_key
          mutateService_version with ⟨failure, base, based, cause, failed⟩ | ⟨existing, described, fixed, ran⟩ |
          ⟨base, sent, stored, operation, changed, based, mutation, kept, ran⟩
        · refine Or.inl ⟨failure, ?_, by rw [run, Program.run_bind_error _ failed]⟩
          intro otherClass other otherWants
          obtain rfl := Option.some.inj (classed.symm.trans otherWants.classed)
          obtain rfl := Except.ok.inj (wanted.symm.trans otherWants.wanted)
          exact ⟨base, based, cause⟩
        · rw [key] at described
          refine Or.inr ⟨listenerClass, desired, wants, Or.inl ⟨existing, described, fixed, ?_⟩⟩
          rw [run, Program.run_bind_ok _ ran]
          rfl
        · refine Or.inr ⟨listenerClass, desired, wants,
            Or.inr ⟨base, sent, stored, based, mutation, kept, ?_⟩⟩
          rw [run, Program.run_bind_ok _ ran, if_pos changed]
          rfl

/-- A run of `createService` writes nothing but the Service it sends. -/
theorem createService_writes {runtime : ControllerRuntime} {api : ApiServer} {cluster : Cluster}
    {listener : Listener} {call : Call}
    (made : call ∈ (createService runtime listener).calls (serve api) cluster)
    (writes : call.kind = .write) :
    ∃ listenerClass desired base sent, cluster.Wants listener listenerClass desired ∧
      cluster.UpdatesFrom desired base ∧ mutateService runtime listener desired base = .ok sent ∧
      (call = .createService sent ∨ call = .updateService sent) := by
  rcases Program.mem_calls_bind _ made with first | ⟨listenerClass, after, ran, later⟩
  · rw [getListenerClass, calls_ask, List.mem_singleton] at first
    rw [first] at writes
    cases writes
  · rw [getListenerClass, run_ask] at ran
    cases classed : cluster.listenerClasses.get listener.spec.className with
    | none => simp [serve, classed, Except.mapError] at ran
    | some found =>
      simp only [serve, classed, found_some, Except.mapError, Prod.mk.injEq,
        Except.ok.injEq] at ran
      obtain ⟨rfl, rfl⟩ := ran
      by_cases ported : servicePorts listener = []
      · rw [if_pos ported] at later
        cases later
      · rw [if_neg ported] at later
        cases wanted : desiredService listener found with
        | error failure =>
          rw [wanted] at later
          cases later
        | ok desired =>
          rw [wanted, Program.lift_eq, Program.done_ok_bind] at later
          rcases Program.mem_calls_bind _ later with update | ⟨operation, after, _, last⟩
          · obtain ⟨base, sent, based, mutation, sends⟩ := createOrUpdate_writes update writes
            exact ⟨found, desired, base, sent, ⟨classed, ported, wanted⟩, based, mutation, sends⟩
          · split at last <;> cases last

/-- A Service that the update leaves as it is is not written. -/
theorem createOrUpdate_settled (api : ApiServer) {cluster : Cluster} {service existing : Service}
    {mutate : Service → Except Failure Service}
    (described : cluster.services.get service.metadata.key = some existing)
    (fixed : mutate existing = .ok existing) :
    (createOrUpdate service mutate).run (serve api) cluster = (.ok .none, cluster) ∧
      (createOrUpdate service mutate).calls (serve api) cluster =
        [.getService service.metadata.key] := by
  simp [createOrUpdate, serve, described, fixed]

/-- A stored Service that the update leaves as it is ends the reconciliation of the Service: the
result is zero and nothing is written. -/
theorem createService_settled {runtime : ControllerRuntime} (api : ApiServer) {cluster : Cluster}
    {listener : Listener} {listenerClass : ListenerClass} {desired stored : Service}
    (wants : cluster.Wants listener listenerClass desired)
    (described : cluster.services.get listener.metadata.key = some stored)
    (fixed : mutateService runtime listener desired stored = .ok stored) :
    (createService runtime listener).run (serve api) cluster = (.ok {}, cluster) ∧
      ∀ call ∈ (createService runtime listener).calls (serve api) cluster, call.kind ≠ .write := by
  rw [← desiredService_key wants.wanted] at described
  obtain ⟨ran, made⟩ := createOrUpdate_settled api described fixed
  constructor
  · rw [createService_run runtime api wants, Program.run_bind_ok _ ran]
    rfl
  · have read : (getListenerClass listener).run (serve api) cluster =
        (.ok listenerClass, cluster) := run_ask_ok _ (by simp [serve, wants.classed])
    intro call listed
    rw [createService, Program.calls_bind_ok _ read, if_neg wants.ported, wants.wanted,
      Program.lift_eq, Program.done_ok_bind, Program.calls_bind_ok _ ran, made, getListenerClass,
      calls_ask] at listed
    have reads : call = .getListenerClass { name := listener.spec.className } ∨
        call = .getService desired.metadata.key := by simpa using listed
    rcases reads with rfl | rfl <;> simp [Call.kind]

/-- The specification that a Listener and its class ask for. -/
theorem desiredService_spec {listener : Listener} {listenerClass : ListenerClass}
    {desired : Service} (wanted : desiredService listener listenerClass = .ok desired) :
    ∃ type, listenerClass.spec.serviceType = some type ∧ desired.spec = {
      ports := servicePorts listener
      selector := getPodSelectorLabels listener
      type
      publishNotReadyAddresses := listener.spec.getPublishNotReadyAddresses
      externalTrafficPolicy :=
        if type.hasNodePorts then listenerClass.spec.serviceExternalTrafficPolicy else none } := by
  obtain ⟨type, typed, rest⟩ := bind_eq_ok.mp wanted
  obtain ⟨policy, chosen, same⟩ := bind_eq_ok.mp rest
  have found : listenerClass.spec.serviceType = some type := by
    cases present : listenerClass.spec.serviceType with
    | none => simp [present, deref] at typed
    | some other => simpa [present, deref] using typed
  refine ⟨type, found, ?_⟩
  rw [← Except.ok.inj same]
  rw [getExternalTrafficPolicyFromListenerClass, found] at chosen
  cases type <;> cases chosen <;> rfl

/-- The port of a Service for a port of a Listener has a name, and no node port yet. -/
theorem PortSpec.servicePort_some {source : PortSpec} {port : ServicePort}
    (made : source.servicePort = some port) : port.name ≠ "" ∧ port.nodePort = 0 := by
  rw [PortSpec.servicePort] at made
  split at made
  · rename_i named
    rw [← Option.some.inj made]
    exact ⟨named, rfl⟩
  · cases made

/-- The ports of a Service have names. -/
theorem servicePorts_named (listener : Listener) :
    ∀ port ∈ servicePorts listener, port.name ≠ "" := by
  intro port listed
  obtain ⟨source, _, made⟩ := List.mem_filterMap.mp listed
  exact (PortSpec.servicePort_some made).1

/-- The ports of a desired Service have no node port yet. -/
theorem servicePorts_unset (listener : Listener) :
    ∀ port ∈ servicePorts listener, port.nodePort = 0 := by
  intro port listed
  obtain ⟨source, _, made⟩ := List.mem_filterMap.mp listed
  exact (PortSpec.servicePort_some made).2

/-- Ports of different names or protocols. -/
def DistinctPorts (ports : List ServicePort) : Prop :=
  ports.Pairwise fun first second => first.sameIdentity second = false

/-- Two ports are the same but for their node ports. -/
def ServicePort.SameButNodePort (first second : ServicePort) : Prop :=
  second = { first with nodePort := second.nodePort }

/-- Adopting a node port changes nothing else. -/
theorem ServicePort.adoptNodePort_same (existing : List ServicePort) (port : ServicePort) :
    port.SameButNodePort (port.adoptNodePort existing) := by
  rw [ServicePort.adoptNodePort]
  cases existing.find? (·.sameIdentity port) <;> rfl

/-- A port has the identity of a port that is the same but for the node port. -/
theorem ServicePort.SameButNodePort.sameIdentity {first second : ServicePort}
    (same : first.SameButNodePort second) (other : ServicePort) :
    second.sameIdentity other = first.sameIdentity other := by
  rw [same]
  rfl

/-- Ports that were stored for distinct ports are found again by their identities. -/
theorem adoptNodePorts_stored {wanted stored : List ServicePort}
    (same : List.Forall₂ ServicePort.SameButNodePort wanted stored)
    (distinct : DistinctPorts wanted) (before : List ServicePort)
    (apart : ∀ earlier ∈ before, ∀ port ∈ wanted, earlier.sameIdentity port = false) :
    wanted.map (·.adoptNodePort (before ++ stored)) = stored := by
  induction same generalizing before with
  | nil => rfl
  | @cons port kept wanted stored first others ih =>
    obtain ⟨different, rest⟩ := List.pairwise_cons.mp distinct
    have skipped : before.find? (·.sameIdentity port) = none := by
      rw [List.find?_eq_none]
      intro earlier listed
      simp [apart earlier listed port List.mem_cons_self]
    have matched : kept.sameIdentity port = true := by
      rw [first.sameIdentity]
      simp [ServicePort.sameIdentity]
    have head : port.adoptNodePort (before ++ kept :: stored) = kept := by
      rw [ServicePort.adoptNodePort, List.find?_append, skipped, Option.none_or, List.find?_cons,
        matched]
      exact first.symm
    have tail := ih rest (before ++ [kept]) (by
      intro earlier listed other wantedLater
      rcases List.mem_append.mp listed with among | last
      · exact apart earlier among other (List.mem_cons_of_mem _ wantedLater)
      · rw [List.mem_singleton.mp last, first.sameIdentity]
        exact different other wantedLater)
    rw [List.append_assoc, List.singleton_append] at tail
    rw [List.map_cons, head, tail]

/-- The ports that are sent are the wanted ones but for their node ports. -/
theorem mutateSpec_ports_same (desired base : ServiceSpec) :
    List.Forall₂ ServicePort.SameButNodePort desired.ports (mutateSpec desired base).ports := by
  by_cases typed : desired.type.hasNodePorts = true
  · simp only [mutateSpec, typed, ↓reduceIte, List.forall₂_map_right_iff]
    exact List.forall₂_same.mpr fun port _ => port.adoptNodePort_same base.ports
  · simp only [mutateSpec, typed]
    exact List.forall₂_same.mpr fun port _ => rfl

/-- The ports that are stored are those that were wanted but for their node ports. -/
theorem ServicePort.Normalises.same_wanted {type : ServiceType} {wanted sent stored : List ServicePort}
    (same : List.Forall₂ ServicePort.SameButNodePort wanted sent)
    (normalised : List.Forall₂ (ServicePort.Normalises type) sent stored) :
    List.Forall₂ ServicePort.SameButNodePort wanted stored := by
  induction same generalizing stored with
  | nil =>
    cases normalised
    exact .nil
  | cons first _ ih =>
    cases normalised with
    | cons normal others =>
      refine .cons ?_ (ih others)
      rw [ServicePort.SameButNodePort] at first ⊢
      rw [normal.same, first]

/-- Without node ports, ports are stored as they were sent. -/
theorem ServicePort.Normalises.eq_of_untyped {type : ServiceType} {sent stored : List ServicePort}
    (untyped : type.hasNodePorts = false)
    (normalised : List.Forall₂ (ServicePort.Normalises type) sent stored) : stored = sent := by
  have equal : List.Forall₂ Eq sent stored := normalised.imp fun first second normal => by
    rw [normal.same, normal.nodePort (Or.inr untyped)]
  rw [List.forall₂_eq_eq_eq] at equal
  exact equal.symm

/-- Whatever was stored before, the specification that the API server stores for the one that
was sent is left as it is by the next update. -/
theorem mutateSpec_settled {desired base stored : ServiceSpec}
    (distinct : DistinctPorts desired.ports)
    (policy : desired.externalTrafficPolicy.isSome ∨ desired.type.hasNodePorts = false)
    (normalised : (mutateSpec desired base).Normalises stored) :
    mutateSpec desired stored = stored := by
  have ports : (mutateSpec desired stored).ports = stored.ports := by
    by_cases typed : desired.type.hasNodePorts = true
    · have same := ServicePort.Normalises.same_wanted (mutateSpec_ports_same desired base)
        normalised.ports
      simpa [mutateSpec, typed] using adoptNodePorts_stored same distinct [] (by simp)
    · have untyped : desired.type.hasNodePorts = false := by simpa using typed
      rw [ServicePort.Normalises.eq_of_untyped untyped normalised.ports]
      simp [mutateSpec, untyped]
  have allocate : (mutateSpec desired stored).allocateLoadBalancerNodePorts =
      stored.allocateLoadBalancerNodePorts := by
    by_cases balanced : desired.type = .loadBalancer
    · simp [mutateSpec, balanced]
    · rw [normalised.allocateLoadBalancerNodePorts (Or.inr balanced)]
      simp [mutateSpec, balanced]
  have balancerClass : (mutateSpec desired stored).loadBalancerClass =
      stored.loadBalancerClass := by
    by_cases balanced : desired.type = .loadBalancer
    · simp [mutateSpec, balanced]
    · rw [normalised.loadBalancerClass]
      simp [mutateSpec, balanced]
  have health : (mutateSpec desired stored).healthCheckNodePort = stored.healthCheckNodePort := by
    by_cases reset : desired.type ≠ .loadBalancer ∨ desired.externalTrafficPolicy ≠ some .local
    · rw [normalised.healthCheckNodePort (Or.inr reset)]
      simp [mutateSpec, reset]
    · simp only [mutateSpec, if_neg reset]
  have traffic : desired.externalTrafficPolicy = stored.externalTrafficPolicy :=
    (normalised.externalTrafficPolicy policy).symm
  have selector : desired.selector = stored.selector := normalised.selector.symm
  have type : desired.type = stored.type := normalised.type.symm
  have publish : desired.publishNotReadyAddresses = stored.publishNotReadyAddresses :=
    normalised.publishNotReadyAddresses.symm
  calc mutateSpec desired stored
      = { stored with
          ports := (mutateSpec desired stored).ports
          selector := desired.selector
          type := desired.type
          publishNotReadyAddresses := desired.publishNotReadyAddresses
          externalTrafficPolicy := desired.externalTrafficPolicy
          allocateLoadBalancerNodePorts :=
            (mutateSpec desired stored).allocateLoadBalancerNodePorts
          loadBalancerClass := (mutateSpec desired stored).loadBalancerClass
          healthCheckNodePort := (mutateSpec desired stored).healthCheckNodePort } := rfl
    _ = stored := by
        rw [ports, allocate, balancerClass, health, traffic, selector, type, publish]

/-- The fields that the controller sets in a Service have the desired values. -/
structure Service.Carries (service desired : Service) : Prop where
  ports : service.spec.ports.map (fun port => { port with nodePort := 0 }) = desired.spec.ports
  selector : service.spec.selector = desired.spec.selector
  type : service.spec.type = desired.spec.type
  publishNotReadyAddresses :
    service.spec.publishNotReadyAddresses = desired.spec.publishNotReadyAddresses
  externalTrafficPolicy : service.spec.externalTrafficPolicy = desired.spec.externalTrafficPolicy

/-- The desired ports ask for no node ports. -/
theorem desiredService_nodePort {listener : Listener} {listenerClass : ListenerClass}
    {desired : Service} (wanted : desiredService listener listenerClass = .ok desired) :
    ∀ port ∈ desired.spec.ports, port.nodePort = 0 := by
  obtain ⟨type, -, spec⟩ := desiredService_spec wanted
  rw [spec]
  exact servicePorts_unset listener

/-- Ports that are the desired ones but for their node ports are these without node ports. -/
theorem ports_without_nodePorts {wanted stored : List ServicePort}
    (same : List.Forall₂ ServicePort.SameButNodePort wanted stored)
    (unset : ∀ port ∈ wanted, port.nodePort = 0) :
    stored.map (fun port => { port with nodePort := 0 }) = wanted := by
  induction same with
  | nil => rfl
  | @cons port kept wanted stored first others ih =>
    have head : { kept with nodePort := 0 } = port := by
      rw [first, ← unset port List.mem_cons_self]
    rw [List.map_cons, head, ih fun other listed => unset other (List.mem_cons_of_mem _ listed)]

/-- A Service that an update leaves as it is carries the desired fields. -/
theorem Service.carries_of_fixed {runtime : ControllerRuntime} {listener : Listener}
    {listenerClass : ListenerClass} {desired service : Service}
    (wanted : desiredService listener listenerClass = .ok desired)
    (fixed : mutateService runtime listener desired service = .ok service) :
    service.Carries desired := by
  obtain ⟨ownerReferences, -, same⟩ := mutateService_ok fixed
  have spec : service.spec = mutateSpec desired.spec service.spec := congrArg Service.spec same
  refine ⟨?_, by rw [spec]; rfl, by rw [spec]; rfl, by rw [spec]; rfl, by rw [spec]; rfl⟩
  rw [spec]
  exact ports_without_nodePorts (mutateSpec_ports_same _ _) (desiredService_nodePort wanted)

/-- The ports of a Service that an update leaves as it is are the desired ones but for their node
ports. -/
theorem settled_ports {runtime : ControllerRuntime} {listener : Listener}
    {listenerClass : ListenerClass} {desired service : Service}
    (wanted : desiredService listener listenerClass = .ok desired)
    (fixed : mutateService runtime listener desired service = .ok service) :
    service.spec.ports.map (fun port => { port with nodePort := 0 }) = servicePorts listener := by
  obtain ⟨type, -, spec⟩ := desiredService_spec wanted
  rw [(Service.carries_of_fixed wanted fixed).ports, spec]

/-- The traffic policy of a class is one for every Service that has node ports. -/
theorem desiredService_policy {listener : Listener} {listenerClass : ListenerClass}
    {desired : Service} (wanted : desiredService listener listenerClass = .ok desired)
    (policy : listenerClass.spec.serviceExternalTrafficPolicy.isSome) :
    desired.spec.externalTrafficPolicy.isSome ∨ desired.spec.type.hasNodePorts = false := by
  obtain ⟨type, -, spec⟩ := desiredService_spec wanted
  rw [spec]
  by_cases typed : type.hasNodePorts = true
  · exact Or.inl (by simpa [typed] using policy)
  · exact Or.inr (by simpa using typed)

/-- A Service that was stored for an update carries the desired fields. -/
theorem Service.carries_of_stored {runtime : ControllerRuntime} {api : ApiServer}
    {listener : Listener} {listenerClass : ListenerClass} {desired base sent stored : Service}
    (wanted : desiredService listener listenerClass = .ok desired)
    (policy : listenerClass.spec.serviceExternalTrafficPolicy.isSome)
    (mutation : mutateService runtime listener desired base = .ok sent)
    (kept : Stored api sent stored) : stored.Carries desired := by
  obtain ⟨references, -, rfl⟩ := mutateService_ok mutation
  have normalised := api.normalises kept.admitted
  have traffic := desiredService_policy wanted policy
  refine ⟨?_, normalised.selector, normalised.type, normalised.publishNotReadyAddresses,
    normalised.externalTrafficPolicy traffic⟩
  exact ports_without_nodePorts (ServicePort.Normalises.same_wanted (mutateSpec_ports_same _ _)
    normalised.ports) (desiredService_nodePort wanted)

/-- Distinct names make distinct ports. -/
theorem distinctPorts_of_names {ports : List ServicePort}
    (distinct : (ports.map ServicePort.name).Nodup) : DistinctPorts ports := by
  rw [List.Nodup, List.pairwise_map] at distinct
  refine distinct.imp fun different => ?_
  simp [ServicePort.sameIdentity, different]

/-- Every Service that was stored for an update is left as it is by the next one. -/
theorem mutateService_settled {runtime : ControllerRuntime} {api : ApiServer} {listener : Listener}
    {listenerClass : ListenerClass} {desired base sent stored : Service}
    (wanted : desiredService listener listenerClass = .ok desired)
    (policy : listenerClass.spec.serviceExternalTrafficPolicy.isSome)
    (distinct : DistinctPorts (servicePorts listener))
    (mutation : mutateService runtime listener desired base = .ok sent)
    (kept : Stored api sent stored) :
    mutateService runtime listener desired stored = .ok stored := by
  obtain ⟨ownerReferences, set, rfl⟩ := mutateService_ok mutation
  obtain ⟨type, -, spec⟩ := desiredService_spec wanted
  obtain ⟨uid, resourceVersion, metadata⟩ := kept.metadata
  have again : runtime.setControllerReference "Listener" listener.metadata stored.metadata =
      .ok ownerReferences := runtime.settled set _ (by rw [metadata]) (by rw [metadata])
  have settled : mutateSpec desired.spec stored.spec = stored.spec := by
    refine mutateSpec_settled ?_ ?_ (api.normalises kept.admitted)
    · rw [spec]
      exact distinct
    · exact desiredService_policy wanted policy
  have references : stored.metadata.ownerReferences = ownerReferences := by rw [metadata]
  rw [mutateService, again, ok_bind, settled, ← references]
  rfl

/-- After a successful run of `createService` the next one, with any API server, computes the
stored Service, writes nothing and returns the zero result. -/
theorem createService_converges (runtime : ControllerRuntime) (api next : ApiServer)
    {cluster after : Cluster} {listener : Listener} {listenerClass : ListenerClass} {result : Result}
    (classed : cluster.listenerClasses.get listener.spec.className = some listenerClass)
    (policy : listenerClass.spec.serviceExternalTrafficPolicy.isSome)
    (distinct : ((servicePorts listener).map ServicePort.name).Nodup)
    (first : (createService runtime listener).run (serve api) cluster = (.ok result, after)) :
    ∃ desired stored, desiredService listener listenerClass = .ok desired ∧
      after.services.get listener.metadata.key = some stored ∧
      mutateService runtime listener desired stored = .ok stored ∧
      (createService runtime listener).run (serve next) after = (.ok {}, after) ∧
      ∀ call ∈ (createService runtime listener).calls (serve next) after, call.kind ≠ .write := by
  rcases createService_cases runtime api cluster listener with
    ⟨failure, -, failed⟩ | ⟨found, desired, wants, outcome⟩
  · rw [failed] at first
    cases first
  · obtain rfl := Option.some.inj (classed.symm.trans wants.classed)
    rcases outcome with ⟨existing, described, fixed, ran⟩ |
      ⟨base, sent, stored, based, mutation, kept, ran⟩
    · rw [ran] at first
      obtain ⟨-, rfl⟩ := Prod.mk.inj first
      exact ⟨desired, existing, wants.wanted, described, fixed,
        createService_settled next wants described fixed⟩
    · rw [ran] at first
      obtain ⟨-, rfl⟩ := Prod.mk.inj first
      have fixed := mutateService_settled wants.wanted policy (distinctPorts_of_names distinct)
        mutation kept
      have found := wants.stored_get based mutation kept
      exact ⟨desired, stored, wants.wanted, found, fixed,
        createService_settled next ⟨wants.classed, wants.ported, wants.wanted⟩ found fixed⟩

/-- The cluster of `webListener` with a NodePort Service, whose class now asks for load
balancers. -/
def retypedCluster : Cluster :=
  { webCluster .loadBalancer .ip with services := .ofList [webService .nodePort] }

/-- The Service of a class that changed its type is written once. -/
theorem createService_converges_retyped :
    ((createService .standard webListener).run (serve (.filling ""))
      ((createService .standard webListener).run (serve (.filling "")) retypedCluster).2).1 =
        .ok {} := by
  have first : (createService .standard webListener).run (serve (.filling "")) retypedCluster =
      (.ok { requeue := true },
        ((createService .standard webListener).run (serve (.filling "")) retypedCluster).2) :=
    Prod.ext (by decide) rfl
  obtain ⟨desired, stored, -, -, -, ran, -⟩ :=
    createService_converges .standard (.filling "") (.filling "") rfl rfl (by decide) first
  rw [ran]

end ListenerOperator
