import ListenerOperator.Verif.Publication

/-!
# Reconciliations come to rest

The reconciliations of all Listeners, one after the other in any order. Each reads and writes the
objects of its own Listener only, so that the others do not disturb it. It writes the Service, then
the status, and then nothing any more: the events of its own writes do not keep the controller busy.
-/

namespace ListenerOperator

open Interaction Outcome Keyed

/-- Clusters that look the same to the reconciliation of a Listener. -/
structure Cluster.AgreeFor (key : ObjectKey) (before after : Cluster) : Prop where
  listener : after.listeners.get key = before.listeners.get key
  service : after.services.get key = before.services.get key
  classes : after.listenerClasses = before.listenerClasses
  slices : after.endpointSlices = before.endpointSlices
  nodes : after.nodes = before.nodes

/-- A cluster looks like itself. -/
theorem Cluster.AgreeFor.refl (key : ObjectKey) (cluster : Cluster) : cluster.AgreeFor key cluster :=
  ⟨rfl, rfl, rfl, rfl, rfl⟩

/-- Looking the same goes in both directions. -/
theorem Cluster.AgreeFor.symm {key : ObjectKey} {before after : Cluster}
    (same : before.AgreeFor key after) : after.AgreeFor key before :=
  ⟨same.listener.symm, same.service.symm, same.classes.symm, same.slices.symm, same.nodes.symm⟩

/-- The status of a Listener is computed from the slices and the nodes. -/
theorem Cluster.statusFor_congr {before after : Cluster}
    (slices : after.endpointSlices = before.endpointSlices) (nodes : after.nodes = before.nodes) :
    after.statusFor = before.statusFor := by
  have addresses : after.priorAddress = before.priorAddress := by
    funext nodeName
    rw [Cluster.priorAddress, Cluster.priorAddress, nodes]
  have endpoints : after.endpointNodes = before.endpointNodes := by
    funext service
    rw [Cluster.endpointNodes, Cluster.endpointNodes, Cluster.slicesOf, Cluster.slicesOf, slices]
  funext listener service preferred
  rw [Cluster.statusFor, Cluster.statusFor, addresses, endpoints]

/-- The status of a Listener depends on its name and namespace only. -/
theorem Cluster.statusFor_listener (cluster : Cluster) {listener other : Listener}
    (name : other.metadata.name = listener.metadata.name)
    (ns : other.metadata.ns = listener.metadata.ns) :
    cluster.statusFor other = cluster.statusFor listener := by
  have message : ∀ type, unsupportedTypeMessage type other =
      unsupportedTypeMessage type listener := by
    intro type
    unfold unsupportedTypeMessage
    rw [name, ns]
  funext service preferred
  unfold Cluster.statusFor
  rw [name, message]

/-- The stored Service of a Listener is as it should be. -/
def Cluster.Settled (runtime : ControllerRuntime) (cluster : Cluster) (listener : Listener) : Prop :=
  ∃ listenerClass desired existing, cluster.Wants listener listenerClass desired ∧
    cluster.services.get listener.metadata.key = some existing ∧
      mutateService runtime listener desired existing = .ok existing

/-- A Service that is as it should be is so where everything looks the same. -/
theorem Cluster.Settled.same {runtime : ControllerRuntime} {before after : Cluster}
    {listener : Listener} (settled : before.Settled runtime listener)
    (same : before.AgreeFor listener.metadata.key after) : after.Settled runtime listener := by
  obtain ⟨listenerClass, desired, existing, wants, described, fixed⟩ := settled
  refine ⟨listenerClass, desired, existing, ⟨?_, wants.ported, wants.wanted⟩, ?_, fixed⟩
  · rw [same.classes]
    exact wants.classed
  · rw [same.service]
    exact described

/-- The reconciliation of a Listener fails: its Service cannot be written, or the Service is as it
should be and the status cannot be computed. -/
def Cluster.Fails (runtime : ControllerRuntime) (api : ApiServer) (key : ObjectKey)
    (cluster : Cluster) (failure : Failure) : Prop :=
  ∃ listener, cluster.listeners.get key = some listener ∧
    ((createService runtime listener).run (serve api) cluster = (.error failure, cluster) ∨
      cluster.Settled runtime listener ∧
        (listenerStatus listener).run (serve api) cluster = (.error failure, cluster))

/-- The reconciliation of a Listener changes nothing and does not ask to be run again, unless it
fails. -/
def Cluster.Quiet (runtime : ControllerRuntime) (api : ApiServer) (key : ObjectKey)
    (cluster : Cluster) : Prop :=
  ∃ outcome, (outcome = .ok {} ∨
      ∃ failure, outcome = .error failure ∧ cluster.Fails runtime api key failure) ∧
    (reconcile runtime key).run (serve api) cluster = (outcome, cluster)

/-- What the reconciliation of a Listener does: it changes nothing, it stores the Service, or it
finds the Service as it should be and stores another status. -/
theorem reconcile_cases (runtime : ControllerRuntime) (api : ApiServer) (cluster : Cluster)
    (key : ObjectKey) :
    cluster.Quiet runtime api key ∨
    (∃ listener listenerClass desired base sent stored,
      cluster.listeners.get key = some listener ∧ cluster.Wants listener listenerClass desired ∧
      cluster.UpdatesFrom desired base ∧ mutateService runtime listener desired base = .ok sent ∧
      Stored api sent stored ∧
      (createService runtime listener).run (serve api) cluster =
        (.ok { requeue := true }, cluster.storeService stored) ∧
      (reconcile runtime key).run (serve api) cluster =
        (.ok { requeue := true }, cluster.storeService stored)) ∨
    ∃ listener status, cluster.listeners.get key = some listener ∧
      cluster.Settled runtime listener ∧
      (listenerStatus listener).run (serve api) cluster = (.ok status, cluster) ∧
      listener.status ≠ status ∧
      (reconcile runtime key).run (serve api) cluster =
        (.ok {}, cluster.storeStatus listener status) := by
  cases stored : cluster.listeners.get key with
  | none =>
    refine Or.inl ⟨.ok {}, Or.inl rfl, ?_⟩
    simp [reconcile, serve, stored]
  | some listener =>
    obtain rfl : listener.metadata.key = key := cluster.listeners.keyed stored
    have opens : (reconcile runtime listener.metadata.key).run (serve api) cluster =
        (createService runtime listener >>= fun result =>
          if !result.isZero then return result
          else do
            updateListenerStatus listener
            return {} : Prog Result).run (serve api) cluster := by
      simp only [reconcile, Program.run_call, serve, stored, found_some]
    rcases createService_cases runtime api cluster listener with ⟨failure, -, failed⟩ |
      ⟨listenerClass, desired, wants, settled | written⟩
    · refine Or.inl ⟨.error failure, Or.inr ⟨failure, rfl, listener, stored, Or.inl failed⟩, ?_⟩
      rw [opens, Program.run_bind_error _ failed]
    · obtain ⟨existing, described, fixed, ran⟩ := settled
      have settled : cluster.Settled runtime listener :=
        ⟨listenerClass, desired, existing, wants, described, fixed⟩
      have unchanged := listenerStatus_run_state api cluster listener
      rcases computed : (listenerStatus listener).run (serve api) cluster with ⟨outcome, after⟩
      rw [computed] at unchanged
      subst unchanged
      cases outcome with
      | error failure =>
        refine Or.inl ⟨.error failure,
          Or.inr ⟨failure, rfl, listener, stored, Or.inr ⟨settled, computed⟩⟩, ?_⟩
        have failed : (updateListenerStatus listener).run (serve api) after =
            (.error failure, after) := by
          rw [updateListenerStatus, Program.run_bind_error _ computed]
        rw [opens, Program.run_bind_ok _ ran, if_neg (by simp [Result.isZero]),
          Program.run_bind_error _ failed]
      | ok status =>
        have reconciled := reconcile_run_settled stored ran computed
        by_cases same : listener.status = status
        · refine Or.inl ⟨.ok {}, Or.inl rfl, ?_⟩
          rw [reconciled, Cluster.storeStatus, if_pos same]
        · exact Or.inr (Or.inr ⟨listener, status, rfl, settled, computed, same, reconciled⟩)
    · obtain ⟨base, sent, kept, based, mutation, admitted, ran⟩ := written
      exact Or.inr (Or.inl ⟨listener, listenerClass, desired, base, sent, kept, rfl, wants, based,
        mutation, admitted, ran, reconcile_run_written stored ran⟩)

/-- A reconciliation that changes nothing does not ask to be run again. -/
theorem Cluster.Quiet.run {runtime : ControllerRuntime} {api : ApiServer} {key : ObjectKey}
    {cluster : Cluster} (quiet : cluster.Quiet runtime api key) :
    ∃ outcome, outcome ≠ .ok { requeue := true } ∧
      (reconcile runtime key).run (serve api) cluster = (outcome, cluster) := by
  obtain ⟨outcome, ends, ran⟩ := quiet
  refine ⟨outcome, ?_, ran⟩
  rcases ends with rfl | ⟨failure, rfl, -⟩
  · simp
  · simp

/-- API servers that admit Services in the same way; each may give new objects its own
identifier. -/
def ApiServer.Alike (first second : ApiServer) : Prop := first.admitService = second.admitService

/-- A stored status is another version of the cluster, unless it is the one that is there. -/
theorem Cluster.storeStatus_ne {cluster : Cluster} {listener : Listener} {status : ListenerStatus}
    (other : listener.status ≠ status) : cluster.storeStatus listener status ≠ cluster := by
  intro same
  have revision := congrArg Cluster.revision same
  rw [Cluster.storeStatus, if_neg other] at revision
  have next : cluster.revision + 1 = cluster.revision := revision
  omega

/-- An update of a Service starts from the same Service where everything looks the same. -/
theorem Cluster.AgreeFor.base {listener : Listener} {listenerClass : ListenerClass}
    {desired base other : Service} {before after : Cluster}
    (same : before.AgreeFor listener.metadata.key after)
    (wanted : desiredService listener listenerClass = .ok desired)
    (first : before.UpdatesFrom desired base) (second : after.UpdatesFrom desired other) :
    base = other := by
  have key := desiredService_key wanted
  rw [Cluster.UpdatesFrom, key, ← same.service, ← key] at first
  rcases first with found | ⟨none, rfl⟩
  · rcases second with present | ⟨absent, -⟩
    · exact Option.some.inj (found.symm.trans present)
    · rw [absent] at found
      cases found
  · rcases second with present | ⟨-, rfl⟩
    · rw [none] at present
      cases present
    · rfl

/-- A Service that is written is written where everything looks the same. -/
theorem Cluster.AgreeFor.written {runtime : ControllerRuntime} {first second : ApiServer}
    (alike : first.Alike second) {listener : Listener} {listenerClass : ListenerClass}
    {desired base sent kept : Service} {before after result : Cluster}
    (same : before.AgreeFor listener.metadata.key after)
    (wants : after.Wants listener listenerClass desired) (based : after.UpdatesFrom desired base)
    (mutation : mutateService runtime listener desired base = .ok sent)
    (admitted : Stored second sent kept)
    (created : (createService runtime listener).run (serve second) after =
      (.ok { requeue := true }, result)) :
    ∃ other, (createService runtime listener).run (serve first) before =
      (.ok { requeue := true }, other) := by
  have wantsBefore : before.Wants listener listenerClass desired :=
    ⟨by rw [← same.classes]; exact wants.classed, wants.ported, wants.wanted⟩
  rcases createService_cases runtime first before listener with ⟨failure, causes, -⟩ |
    ⟨otherClass, otherDesired, otherWants, settled | ⟨_, _, stored, _, _, _, ran⟩⟩
  · -- what was sent is accepted
    obtain ⟨other, basedBefore, cause⟩ := causes listenerClass desired wantsBefore
    rw [same.base wants.wanted basedBefore based, mutation] at cause
    rcases cause with failed | ⟨again, refusal, sends, refused⟩
    · cases failed
    · rw [← Except.ok.inj sends, show first.admitService = second.admitService from alike,
        admitted.admitted] at refused
      cases refused
  · obtain ⟨existing, described, fixed, -⟩ := settled
    have settled : before.Settled runtime listener :=
      ⟨otherClass, otherDesired, existing, otherWants, described, fixed⟩
    obtain ⟨_, _, _, wantsAfter, describedAfter, fixedAfter⟩ := settled.same same
    rw [(createService_settled second wantsAfter describedAfter fixedAfter).1] at created
    cases created
  · exact ⟨_, ran⟩

/-- A status is computed in the same way where everything looks the same. -/
theorem Cluster.AgreeFor.status {runtime : ControllerRuntime} (first : ApiServer)
    {second : ApiServer} {listener : Listener} {status : ListenerStatus} {before after : Cluster}
    (same : before.AgreeFor listener.metadata.key after) (settled : after.Settled runtime listener)
    (computed : (listenerStatus listener).run (serve second) after = (.ok status, after)) :
    (listenerStatus listener).run (serve first) before = (.ok status, before) := by
  obtain ⟨listenerClass, _, existing, wants, described, -⟩ := settled
  have classed := wants.classed
  rw [listenerStatus_run second described classed] at computed
  rw [same.service] at described
  rw [same.classes] at classed
  rw [listenerStatus_run first described classed, ← Cluster.statusFor_congr same.slices same.nodes]
  exact Prod.ext (Prod.mk.inj computed).1 rfl

/-- A Listener whose reconciliation changes nothing stays so where everything looks the same. -/
theorem Cluster.Quiet.same {runtime : ControllerRuntime} {first second : ApiServer}
    (alike : first.Alike second) {key : ObjectKey} {before after : Cluster}
    (quiet : before.Quiet runtime first key) (same : before.AgreeFor key after) :
    after.Quiet runtime second key := by
  rcases reconcile_cases runtime second after key with rest |
    ⟨listener, listenerClass, desired, base, sent, kept, stored, wants, based, mutation, admitted,
      created, -⟩ | ⟨listener, status, stored, settled, computed, other, -⟩
  · exact rest
  · obtain rfl : listener.metadata.key = key := after.listeners.keyed stored
    rw [same.listener] at stored
    obtain ⟨result, written⟩ := same.written alike wants based mutation admitted created
    obtain ⟨outcome, different, ran⟩ := quiet.run
    rw [reconcile_run_written stored written] at ran
    exact absurd (Prod.mk.inj ran).1.symm different
  · obtain rfl : listener.metadata.key = key := after.listeners.keyed stored
    rw [same.listener] at stored
    have computedBefore := same.status first settled computed
    obtain ⟨_, _, _, wants, described, fixed⟩ := settled.same same.symm
    have created := (createService_settled first wants described fixed).1
    obtain ⟨outcome, -, ran⟩ := quiet.run
    rw [reconcile_run_settled stored created computedBefore] at ran
    exact absurd (Prod.mk.inj ran).2 (Cluster.storeStatus_ne other)

/-- What is asked of a Listener: the names of its ports differ, and its class names a traffic
policy, as the schema has it by default. -/
def Cluster.Regular (cluster : Cluster) (key : ObjectKey) : Prop :=
  ∀ listener, cluster.listeners.get key = some listener →
    ((servicePorts listener).map ServicePort.name).Nodup ∧
      ∀ listenerClass, cluster.listenerClasses.get listener.spec.className = some listenerClass →
        listenerClass.spec.serviceExternalTrafficPolicy.isSome

/-- How far the reconciliation of a Listener has come: nothing is known, the Service is as it should
be, or nothing is left to do. -/
def Cluster.Phase (runtime : ControllerRuntime) (api : ApiServer) (key : ObjectKey)
    (cluster : Cluster) : Nat → Prop
  | 0 => True
  | 1 => cluster.Quiet runtime api key ∨
      ∃ listener, cluster.listeners.get key = some listener ∧ cluster.Settled runtime listener
  | _ => cluster.Quiet runtime api key

/-- After a write the Service is as it should be. -/
theorem Cluster.Settled.of_stored {runtime : ControllerRuntime} {api : ApiServer}
    {listener : Listener}
    {listenerClass : ListenerClass} {desired base sent kept : Service} {cluster : Cluster}
    (regular : cluster.Regular listener.metadata.key)
    (stored : cluster.listeners.get listener.metadata.key = some listener)
    (wants : cluster.Wants listener listenerClass desired) (based : cluster.UpdatesFrom desired base)
    (mutation : mutateService runtime listener desired base = .ok sent)
    (admitted : Stored api sent kept) : (cluster.storeService kept).Settled runtime listener := by
  obtain ⟨distinct, policy⟩ := regular listener stored
  have fixed := mutateService_settled wants.wanted (policy listenerClass wants.classed)
    (distinctPorts_of_names distinct) mutation admitted
  exact ⟨listenerClass, desired, kept, ⟨wants.classed, wants.ported, wants.wanted⟩,
    wants.stored_get based mutation admitted, fixed⟩

/-- A Service that is as it should be does not depend on the version and the status of the
Listener. -/
theorem Cluster.Settled.written {runtime : ControllerRuntime} (documented : runtime.Documented)
    {listener written : Listener} {cluster : Cluster} (settled : cluster.Settled runtime listener)
    (spec : written.spec = listener.spec)
    (metadata : written.metadata = { listener.metadata with
      resourceVersion := written.metadata.resourceVersion }) :
    cluster.Settled runtime written := by
  obtain ⟨listenerClass, desired, existing, wants, described, fixed⟩ := settled
  have ports : servicePorts written = servicePorts listener := by
    rw [servicePorts, servicePorts, spec]
  have labels : getPodSelectorLabels written = getPodSelectorLabels listener := by
    rw [getPodSelectorLabels, getPodSelectorLabels, spec, listenerMountPodLabels,
      listenerMountPodLabels, metadata]
  have wanted : desiredService written listenerClass = desiredService listener listenerClass := by
    rw [desiredService, desiredService, ports, labels, spec, metadata]
  have key : written.metadata.key = listener.metadata.key := by
    rw [metadata]
    rfl
  have identity : runtime.setControllerReference "Listener" written.metadata existing.metadata =
      runtime.setControllerReference "Listener" listener.metadata existing.metadata := by
    apply documented.identity
    · rw [metadata]
    · rw [metadata]
    · rw [metadata]
  refine ⟨listenerClass, desired, existing, ⟨?_, ?_, ?_⟩, ?_, ?_⟩
  · rw [spec]
    exact wants.classed
  · rw [ports]
    exact wants.ported
  · rw [wanted]
    exact wants.wanted
  · rw [key]
    exact described
  · rw [mutateService, identity]
    exact fixed

/-- After the status was written nothing is left to do. -/
theorem Cluster.Quiet.of_status {runtime : ControllerRuntime} (documented : runtime.Documented)
    (api : ApiServer) {server : ApiServer} {listener : Listener} {status : ListenerStatus}
    {cluster : Cluster}
    (stored : cluster.listeners.get listener.metadata.key = some listener)
    (settled : cluster.Settled runtime listener)
    (computed : (listenerStatus listener).run (serve server) cluster = (.ok status, cluster)) :
    (cluster.storeStatus listener status).Quiet runtime api listener.metadata.key := by
  obtain ⟨written, found, rfl, spec, metadata⟩ := cluster.storeStatus_get listener status stored
  have key : written.metadata.key = listener.metadata.key := by
    rw [metadata]
    rfl
  -- the Service of the written Listener is as it should be in both clusters
  have before : cluster.Settled runtime written := settled.written documented spec metadata
  have after : (cluster.storeStatus listener written.status).Settled runtime written := by
    obtain ⟨listenerClass, desired, existing, wants, described, fixed⟩ := before
    rw [cluster.storeStatus_frame]
    exact ⟨listenerClass, desired, existing, ⟨wants.classed, wants.ported, wants.wanted⟩, described,
      fixed⟩
  -- and the status is computed as before
  have again : (listenerStatus written).run (serve api) (cluster.storeStatus listener written.status) =
      (.ok written.status, cluster.storeStatus listener written.status) := by
    obtain ⟨listenerClass, _, existing, wants, described, -⟩ := settled
    rw [listenerStatus_run server described wants.classed] at computed
    have frame := cluster.storeStatus_frame listener written.status
    have describedAfter : (cluster.storeStatus listener written.status).services.get
        written.metadata.key = some existing := by
      rw [key, frame]
      exact described
    have classedAfter : (cluster.storeStatus listener written.status).listenerClasses.get
        written.spec.className = some listenerClass := by
      rw [spec, frame]
      exact wants.classed
    have status : (cluster.storeStatus listener written.status).statusFor written =
        cluster.statusFor listener := by
      have slices : (cluster.storeStatus listener written.status).endpointSlices =
          cluster.endpointSlices := by rw [frame]
      have nodes : (cluster.storeStatus listener written.status).nodes = cluster.nodes := by
        rw [frame]
      rw [Cluster.statusFor_congr slices nodes]
      exact cluster.statusFor_listener (by rw [metadata]) (by rw [metadata])
    rw [listenerStatus_run api describedAfter classedAfter, status]
    exact Prod.ext (Prod.mk.inj computed).1 rfl
  obtain ⟨_, _, _, wants, described, fixed⟩ := after
  have created := (createService_settled api wants described fixed).1
  refine ⟨.ok {}, Or.inl rfl, ?_⟩
  rw [← key] at found ⊢
  rw [reconcile_run_settled found created again, Cluster.storeStatus, if_pos rfl]

/-- Reconciliations of other Listeners leave what this one depends on. -/
theorem reconcile_agreeFor (runtime : ControllerRuntime) (api : ApiServer) (cluster : Cluster)
    {key other : ObjectKey} (different : other ≠ key) :
    cluster.AgreeFor key ((reconcile runtime other).run (serve api) cluster).2 := by
  rcases reconcile_cases runtime api cluster other with ⟨outcome, -, ran⟩ |
    ⟨listener, listenerClass, desired, base, sent, kept, stored, wants, based, mutation, admitted,
      -, ran⟩ | ⟨listener, status, stored, -, -, differs, ran⟩
  · rw [ran]
    exact .refl key cluster
  · obtain rfl : listener.metadata.key = other := cluster.listeners.keyed stored
    have written : kept.metadata.key = listener.metadata.key := by
      rw [admitted.key, mutateService_key mutation, wants.base_key based]
    rw [ran]
    refine ⟨rfl, ?_, rfl, rfl, rfl⟩
    show (cluster.services.insert kept).get key = cluster.services.get key
    rw [Store.get_insert, if_neg]
    rw [written]
    exact different.symm
  · obtain rfl : listener.metadata.key = other := cluster.listeners.keyed stored
    rw [ran, Cluster.storeStatus, if_neg differs]
    refine ⟨?_, rfl, rfl, rfl, rfl⟩
    show (cluster.listeners.insert _).get key = cluster.listeners.get key
    rw [Store.get_insert, if_neg]
    exact different.symm

/-- Reconciliations leave what is asked of a Listener. -/
theorem Cluster.Regular.reconcile {runtime : ControllerRuntime} {api : ApiServer} {cluster : Cluster}
    {key : ObjectKey} (regular : cluster.Regular key) (other : ObjectKey) :
    ((ListenerOperator.reconcile runtime other).run (serve api) cluster).2.Regular key := by
  rcases reconcile_cases runtime api cluster other with ⟨outcome, -, ran⟩ |
    ⟨_, _, _, _, _, _, _, _, _, _, _, _, ran⟩ | ⟨changed, status, stored, -, -, differs, ran⟩
  · rw [ran]
    exact regular
  · rw [ran]
    exact regular
  · obtain rfl : changed.metadata.key = other := cluster.listeners.keyed stored
    rw [ran, Cluster.storeStatus, if_neg differs]
    intro listener found
    have lookup : (cluster.listeners.insert { changed with
        metadata := { changed.metadata with resourceVersion := cluster.nextRevision }
        status }).get key = some listener := found
    rw [Store.get_insert] at lookup
    split at lookup
    · -- the specification of the Listener is the stored one
      rename_i same
      obtain rfl := Option.some.inj lookup
      have known := regular changed (by rw [same]; exact stored)
      exact known
    · exact regular listener lookup

section Phase

variable {runtime : ControllerRuntime} {api server : ApiServer} {key : ObjectKey} {phase : Nat}

/-- One more reconciliation of a Listener brings it one step further. -/
theorem Cluster.Phase.reconcile (documented : runtime.Documented) (alike : server.Alike api)
    {cluster : Cluster} (regular : cluster.Regular key)
    (reached : cluster.Phase runtime api key phase) :
    ((ListenerOperator.reconcile runtime key).run (serve server) cluster).2.Phase runtime api key
      (phase + 1) := by
  have rests : cluster.Quiet runtime server key →
      ((ListenerOperator.reconcile runtime key).run (serve server) cluster).2.Quiet runtime api
        key := by
    intro quiet
    obtain ⟨outcome, -, ran⟩ := quiet.run
    rw [ran]
    exact quiet.same alike (.refl key cluster)
  have still : cluster.Quiet runtime api key → cluster.Quiet runtime server key :=
    fun quiet => quiet.same alike.symm (.refl key cluster)
  match phase with
  | 0 =>
    rcases reconcile_cases runtime server cluster key with quiet |
      ⟨listener, listenerClass, desired, base, sent, kept, stored, wants, based, mutation, admitted,
        -, ran⟩ | ⟨listener, status, stored, settled, computed, -, ran⟩
    · exact Or.inl (rests quiet)
    · obtain rfl : listener.metadata.key = key := cluster.listeners.keyed stored
      rw [ran]
      exact Or.inr ⟨listener, stored, .of_stored regular stored wants based mutation admitted⟩
    · obtain rfl : listener.metadata.key = key := cluster.listeners.keyed stored
      rw [ran]
      exact Or.inl (.of_status documented api stored settled computed)
  | 1 =>
    rcases reached with quiet | ⟨known, found, settled⟩
    · exact rests (still quiet)
    · rcases reconcile_cases runtime server cluster key with quiet |
        ⟨listener, _, _, _, _, _, stored, _, _, _, _, created, _⟩ |
        ⟨listener, status, stored, settled, computed, -, ran⟩
      · exact rests quiet
      · -- the Service was as it should be
        obtain rfl := Option.some.inj (found.symm.trans stored)
        obtain ⟨_, _, _, wants, described, fixed⟩ := settled
        rw [(createService_settled server wants described fixed).1] at created
        cases created
      · obtain rfl : listener.metadata.key = key := cluster.listeners.keyed stored
        rw [ran]
        exact .of_status documented api stored settled computed
  | _ + 2 => exact rests (still reached)

/-- Reconciliations of other Listeners do not set it back. -/
theorem Cluster.Phase.same {before after : Cluster} (reached : before.Phase runtime api key phase)
    (same : before.AgreeFor key after) : after.Phase runtime api key phase := by
  match phase with
  | 0 => trivial
  | 1 =>
    rcases reached with quiet | ⟨listener, stored, settled⟩
    · exact Or.inl (quiet.same rfl same)
    · obtain rfl : listener.metadata.key = key := before.listeners.keyed stored
      exact Or.inr ⟨listener, by rw [same.listener]; exact stored, settled.same same⟩
  | _ + 2 => exact Cluster.Quiet.same rfl reached same

/-- The cluster after some reconciliations, one after the other, each with the API server that
answers it. -/
def Cluster.reconciled (runtime : ControllerRuntime) :
    List (ApiServer × ObjectKey) → Cluster → Cluster
  | [], cluster => cluster
  | (server, key) :: events, cluster =>
    reconciled runtime events ((reconcile runtime key).run (serve server) cluster).2

/-- Each reconciliation of a Listener among others brings it one step further. -/
theorem Cluster.Phase.reconciled (documented : runtime.Documented)
    {events : List (ApiServer × ObjectKey)} (alike : ∀ event ∈ events, event.1.Alike api)
    {cluster : Cluster} (regular : cluster.Regular key)
    (reached : cluster.Phase runtime api key phase) :
    (cluster.reconciled runtime events).Phase runtime api key
      (phase + (events.map Prod.snd).count key) := by
  induction events generalizing cluster phase with
  | nil => exact reached
  | cons event events ih =>
    obtain ⟨server, first⟩ := event
    have rest : ∀ event ∈ events, event.1.Alike api :=
      fun event listed => alike event (List.mem_cons_of_mem _ listed)
    rw [List.map_cons]
    by_cases same : first = key
    · subst same
      have next := reached.reconcile documented (alike _ List.mem_cons_self) regular
      have onward := ih rest (regular.reconcile first) next
      rw [List.count_cons_self]
      have sum : phase + ((events.map Prod.snd).count first + 1) =
          phase + 1 + (events.map Prod.snd).count first := by omega
      rw [sum]
      exact onward
    · rw [List.count_cons_of_ne same]
      exact ih rest (regular.reconcile first)
        (reached.same (reconcile_agreeFor runtime server cluster same))

end Phase

/-- Reconcile Listeners one after the other in any order: after two reconciliations of a Listener,
whatever the others are, the next one changes nothing, and it does not ask to be run again unless the
Service cannot be written or the status cannot be computed, and then it fails with that error. -/
theorem reconciled_quiet (runtime : ControllerRuntime) (documented : runtime.Documented)
    (api : ApiServer) (cluster : Cluster) (key : ObjectKey) (regular : cluster.Regular key)
    (events : List (ApiServer × ObjectKey)) (alike : ∀ event ∈ events, event.1.Alike api)
    (twice : 2 ≤ (events.map Prod.snd).count key) :
    ∃ outcome, (outcome = .ok {} ∨
        ∃ failure, outcome = .error failure ∧
          (cluster.reconciled runtime events).Fails runtime api key failure) ∧
      (reconcile runtime key).run (serve api) (cluster.reconciled runtime events) =
        (outcome, cluster.reconciled runtime events) := by
  have start : cluster.Phase runtime api key 0 := trivial
  have reached := start.reconciled documented alike regular
  obtain ⟨more, count⟩ := Nat.exists_eq_add_of_le twice
  rw [count, show 0 + (2 + more) = more + 2 by omega] at reached
  exact reached

/-- Reconciliations of `webListener` with one of another Listener between them, each with another
identifier for what it creates. -/
def quietEvents : List (ApiServer × ObjectKey) :=
  [(.filling "first", webListener.metadata.key), (.filling "second", ⟨"default", "other"⟩),
    (.filling "third", webListener.metadata.key)]

/-- In the new cluster of `webListener` the first reconciliation stores the Service, the second one
the status, and the third one changes nothing and does not ask to be run again. -/
theorem newCluster_quiet :
    ((reconcile .standard webListener.metadata.key).run (serve (.filling "")) newCluster).1 =
      .ok { requeue := true } ∧
    newCluster.Regular webListener.metadata.key ∧
      (reconcile .standard webListener.metadata.key).run (serve (.filling ""))
        (newCluster.reconciled .standard quietEvents) =
          (.ok {}, newCluster.reconciled .standard quietEvents) := by
  have regular : newCluster.Regular webListener.metadata.key := by
    intro listener stored
    obtain rfl : webListener = listener := Option.some.inj stored
    refine ⟨by decide, fun listenerClass classed => ?_⟩
    obtain rfl : webClass .nodePort .hostname = listenerClass := Option.some.inj classed
    rfl
  have alike : ∀ event ∈ quietEvents, event.1.Alike (.filling "") := by
    intro event listed
    simp only [quietEvents, List.mem_cons, List.not_mem_nil, or_false] at listed
    rcases listed with rfl | rfl | rfl <;> rfl
  obtain ⟨outcome, -, ran⟩ := reconciled_quiet .standard ControllerRuntime.standard_documented
    (.filling "") newCluster webListener.metadata.key regular quietEvents alike (by decide)
  have zero : outcome = .ok {} := by
    rw [show outcome = _ from (congrArg Prod.fst ran).symm]
    decide +kernel
  rw [zero] at ran
  exact ⟨by decide +kernel, regular, ran⟩

end ListenerOperator
