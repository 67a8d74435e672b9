import ListenerOperator.Base.Progress
import ListenerOperator.Verif.Convergence
import ListenerOperator.Verif.Lifetimes
import ListenerOperator.Verif.Retry

/-!
# From a new claim to a published volume

A volume of a class is published by attempts on the node and by reconciliations that know nothing of
each other. The first attempt creates the Listener and fails, since there is no address yet; the
next reconciliations write the Service and the status; the attempt after them finds the addresses.
Whatever other attempts and reconciliations happen between, they take nothing back.
-/

namespace ListenerOperator

open Interaction Outcome MergePatch Keyed FilePath

/-- What there is in the cluster for a volume: the volume and the pod that a request names, the
class and the claim from which its Listener is made, an addressable node, and no endpoints yet. -/
structure Cluster.Furnished (cluster : Cluster) (n : NodeServer) (request : NodePublishVolumeRequest)
    (sent : Listener) (type : ServiceType) (volumeName : String) (pv : PersistentVolume)
    (pod : Pod) : Prop extends cluster.Binds request pv pod where
  asked : cluster.askedListener n request.context pv pod = .ok sent
  named : pod.NamesVolume pv volumeName
  node : ∃ node, cluster.nodes.get pod.spec.nodeName = some node ∧ node.Addressable
  classed : ∃ listenerClass,
    cluster.listenerClasses.get sent.spec.className = some listenerClass ∧
      listenerClass.spec.serviceType = some type ∧
        listenerClass.spec.serviceExternalTrafficPolicy.isSome
  unready : cluster.NoEndpoints sent

section Furnished

variable {n : NodeServer} {request : NodePublishVolumeRequest} {sent : Listener}
  {type : ServiceType} {volumeName : String}

/-- The surroundings are the same in a cluster with the same volume and pod, up to labels and
versions, and the same classes, claims, nodes and slices. -/
theorem Cluster.Furnished.alike (documented : n.runtime.Documented) {before after : Cluster}
    {pv other : PersistentVolume} {pod copy : Pod}
    (furnished : before.Furnished n request sent type volumeName pv pod)
    (binds : after.Binds request other copy) (volumes : pv.Alike other) (pods : pod.Alike copy)
    (classes : after.listenerClasses = before.listenerClasses) (claims : after.pvcs = before.pvcs)
    (nodes : after.nodes = before.nodes) (slices : after.endpointSlices = before.endpointSlices) :
    after.Furnished n request sent type volumeName other copy where
  toBinds := binds
  asked := by
    rw [Cluster.askedListener_congr documented classes claims volumes pods]
    exact furnished.asked
  named := (pods.namesVolume volumes volumeName).mpr furnished.named
  node := by
    rw [nodes, pods.spec]
    exact furnished.node
  classed := by
    rw [classes]
    exact furnished.classed
  unready := by
    have slicesOf : after.slicesOf = before.slicesOf := by
      funext ns name
      rw [Cluster.slicesOf, Cluster.slicesOf, slices]
    have unready := furnished.unready
    rw [Cluster.NoEndpoints, ← slicesOf] at unready
    exact unready

/-- A change of an attempt leaves the surroundings. -/
theorem Cluster.Furnished.change (documented : n.runtime.Documented) {before after : Cluster}
    {pv : PersistentVolume} {pod : Pod}
    (furnished : before.Furnished n request sent type volumeName pv pod)
    (change : before.Change n request after) :
    ∃ other copy, after.Furnished n request sent type volumeName other copy := by
  have same := furnished.toBinds
  cases change with
  | created uid version binds unnamed asked absent =>
    exact ⟨pv, pod, furnished.alike documented (same.congr rfl rfl) (.refl pv) (.refl pod) rfl rfl
      rfl rfl⟩
  | @tied tied pod' listener version resolves =>
    obtain ⟨rfl, rfl⟩ := resolves.toBinds.unique same
    have there := (resolves.tie documented version).toBinds
    exact ⟨_, _, furnished.alike documented there (PersistentVolume.alike_tied _ listener version)
      (.refl _) rfl rfl rfl rfl⟩
  | @mounted tied pod' listener version resolves =>
    obtain ⟨rfl, rfl⟩ := resolves.toBinds.unique same
    have there := (resolves.mount documented version).toBinds
    exact ⟨_, _, furnished.alike documented there (.refl _)
      (Pod.alike_mounting _ listener version) rfl rfl rfl rfl⟩
  | opened scope data uid version resolves named absent =>
    exact ⟨pv, pod, furnished.alike documented (same.congr rfl rfl) (.refl pv) (.refl pod) rfl rfl
      rfl rfl⟩
  | entered scope data version resolves named present =>
    exact ⟨pv, pod, furnished.alike documented (same.congr rfl rfl) (.refl pv) (.refl pod) rfl rfl
      rfl rfl⟩

/-- Clusters that look the same one after the other look the same. -/
theorem Cluster.AgreeFor.trans {key : ObjectKey} {first second third : Cluster}
    (left : first.AgreeFor key second) (right : second.AgreeFor key third) :
    first.AgreeFor key third :=
  ⟨right.listener.trans left.listener, right.service.trans left.service,
    right.classes.trans left.classes, right.slices.trans left.slices, right.nodes.trans left.nodes⟩

/-- When the Listener is there, a change of an attempt leaves all that its reconciliation depends
on. -/
theorem Cluster.Change.agreeFor {before after : Cluster} {pv : PersistentVolume} {pod : Pod}
    (change : before.Change n request after)
    (furnished : before.Furnished n request sent type volumeName pv pod)
    (present : before.listeners.get sent.metadata.key ≠ none) :
    before.AgreeFor sent.metadata.key after := by
  cases change with
  | created uid version binds unnamed asked absent =>
    obtain ⟨rfl, rfl⟩ := binds.unique furnished.toBinds
    obtain rfl := Except.ok.inj (asked.symm.trans furnished.asked)
    exact absurd absent present
  | tied version resolves => exact ⟨rfl, rfl, rfl, rfl, rfl⟩
  | mounted version resolves => exact ⟨rfl, rfl, rfl, rfl, rfl⟩
  | opened scope data uid version resolves named absent => exact ⟨rfl, rfl, rfl, rfl, rfl⟩
  | entered scope data version resolves named present => exact ⟨rfl, rfl, rfl, rfl, rfl⟩

/-- When the Listener is there, the changes of an attempt leave the surroundings and all that its
reconciliation depends on. -/
theorem Cluster.Furnished.changes (documented : n.runtime.Documented) {before after : Cluster}
    {pv : PersistentVolume} {pod : Pod}
    (furnished : before.Furnished n request sent type volumeName pv pod)
    (present : before.listeners.get sent.metadata.key ≠ none)
    (changes : Relation.ReflTransGen (Cluster.Change n request) before after) :
    (∃ other copy, after.Furnished n request sent type volumeName other copy) ∧
      before.AgreeFor sent.metadata.key after := by
  induction changes with
  | refl => exact ⟨⟨pv, pod, furnished⟩, .refl _ _⟩
  | @tail middle last _ change ih =>
    obtain ⟨⟨other, copy, still⟩, same⟩ := ih
    have stays : middle.listeners.get sent.metadata.key ≠ none := by
      rw [same.listener]
      exact present
    exact ⟨still.change documented change, same.trans (change.agreeFor still stays)⟩

end Furnished

/-- A Service under the name of a Listener that does not stand in its way: no other object controls
it, and it has a cluster IP if it is of the wanted type. -/
def Cluster.Vacant (sent : Listener) (type : ServiceType) (cluster : Cluster) : Prop :=
  ∀ service, cluster.services.get sent.metadata.key = some service →
    (∀ reference ∈ service.metadata.ownerReferences,
      ¬ reference.ControlledByOther "Listener" sent.metadata) ∧
    (service.spec.type = type → service.spec.clusterIPs ≠ [])

/-- The stored Service of a Listener is as it should be, and has a cluster IP. -/
structure Cluster.Equipped (runtime : ControllerRuntime) (listener : Listener)
    (cluster : Cluster) : Prop where
  settled : cluster.Settled runtime listener
  addressed : ∀ service, cluster.services.get listener.metadata.key = some service →
    service.spec.clusterIPs ≠ []

/-- The Listener that was asked for is there. -/
structure Cluster.Underway (sent listener : Listener) (cluster : Cluster) : Prop where
  stored : cluster.listeners.get sent.metadata.key = some listener
  spec : listener.spec = sent.spec

/-- How far a volume has come: nothing has happened yet, its Listener is there, the Service is as
it should be, or the status has addresses. Each stage includes the later ones. -/
def Cluster.Stage (runtime : ControllerRuntime) (sent : Listener) (type : ServiceType)
    (cluster : Cluster) : Nat → Prop
  | 0 => (cluster.listeners.get sent.metadata.key = none ∧ cluster.Vacant sent type) ∨
      ∃ listener, cluster.Underway sent listener ∧
        (cluster.Vacant sent type ∨ cluster.Equipped runtime listener)
  | 1 => ∃ listener, cluster.Underway sent listener ∧
      (cluster.Vacant sent type ∨ cluster.Equipped runtime listener)
  | 2 => ∃ listener, cluster.Underway sent listener ∧ cluster.Equipped runtime listener
  | _ => ∃ listener, cluster.Underway sent listener ∧ cluster.Equipped runtime listener ∧
      listener.status.Publishes type

section Stage

variable {runtime : ControllerRuntime} {sent : Listener} {type : ServiceType}

/-- A later stage includes the one before it. -/
theorem Cluster.Stage.earlier {cluster : Cluster} {stage : Nat}
    (reached : cluster.Stage runtime sent type (stage + 1)) :
    cluster.Stage runtime sent type stage := by
  match stage with
  | 0 => exact Or.inr reached
  | 1 =>
    obtain ⟨listener, underway, equipped⟩ := reached
    exact ⟨listener, underway, Or.inr equipped⟩
  | 2 =>
    obtain ⟨listener, underway, equipped, -⟩ := reached
    exact ⟨listener, underway, equipped⟩
  | _ + 3 => exact reached

/-- A later stage includes all before it. -/
theorem Cluster.Stage.mono {cluster : Cluster} {low high : Nat} (order : low ≤ high)
    (reached : cluster.Stage runtime sent type high) : cluster.Stage runtime sent type low := by
  induction order with
  | refl => exact reached
  | step _ ih => exact ih reached.earlier

/-- The Listener that is there has the key that was asked for. -/
theorem Cluster.Underway.key {cluster : Cluster} {listener : Listener}
    (underway : cluster.Underway sent listener) : listener.metadata.key = sent.metadata.key :=
  cluster.listeners.keyed underway.stored

/-- Where everything looks the same, the volume has come as far. -/
theorem Cluster.Stage.same {before after : Cluster} {stage : Nat}
    (same : before.AgreeFor sent.metadata.key after)
    (reached : before.Stage runtime sent type stage) : after.Stage runtime sent type stage := by
  have underway : ∀ {listener}, before.Underway sent listener → after.Underway sent listener :=
    fun there => ⟨by rw [same.listener]; exact there.stored, there.spec⟩
  have vacant : before.Vacant sent type → after.Vacant sent type := by
    intro free service described
    rw [same.service] at described
    exact free service described
  have equipped : ∀ {listener}, before.Underway sent listener →
      before.Equipped runtime listener → after.Equipped runtime listener := by
    intro listener there ready
    have key := there.key
    rw [← key] at same
    refine ⟨ready.settled.same same, fun service described => ?_⟩
    rw [same.service] at described
    exact ready.addressed service described
  have either : ∀ {listener}, before.Underway sent listener →
      before.Vacant sent type ∨ before.Equipped runtime listener →
        after.Vacant sent type ∨ after.Equipped runtime listener := by
    intro listener there free
    rcases free with free | ready
    · exact Or.inl (vacant free)
    · exact Or.inr (equipped there ready)
  match stage with
  | 0 =>
    rcases reached with ⟨absent, free⟩ | ⟨listener, there, free⟩
    · exact Or.inl ⟨by rw [same.listener]; exact absent, vacant free⟩
    · exact Or.inr ⟨listener, underway there, either there free⟩
  | 1 =>
    obtain ⟨listener, there, free⟩ := reached
    exact ⟨listener, underway there, either there free⟩
  | 2 =>
    obtain ⟨listener, there, ready⟩ := reached
    exact ⟨listener, underway there, equipped there ready⟩
  | _ + 3 =>
    obtain ⟨listener, there, ready, publishes⟩ := reached
    exact ⟨listener, underway there, equipped there ready, publishes⟩

/-- What the API server is asked to accept does not depend on the version of the Listener. -/
theorem ApiServer.Serves.underway {api : ApiServer} (serves : api.Serves sent) {cluster : Cluster}
    {listener : Listener} (underway : cluster.Underway sent listener) : api.Serves listener := by
  intro service key
  exact serves service (key.trans underway.key)

/-- What holds of the Listener that is asked for, whatever happens in the cluster: its Service is of
a type that gets addresses without help from outside, and it has ports, with different names. -/
structure Listener.Acceptable (sent : Listener) (type : ServiceType) : Prop where
  kind : type = .nodePort ∨ type = .clusterIP
  ported : servicePorts sent ≠ []
  distinct : ((servicePorts sent).map ServicePort.name).Nodup

section Reconcile

variable {api : ApiServer} {n : NodeServer} {request : NodePublishVolumeRequest}
  {volumeName : String} {pv : PersistentVolume} {pod : Pod} {cluster : Cluster}

/-- The Service that the Listener wants. -/
theorem Cluster.Furnished.wants (acceptable : sent.Acceptable type)
    (furnished : cluster.Furnished n request sent type volumeName pv pod) {listener : Listener}
    (underway : cluster.Underway sent listener) :
    ∃ listenerClass desired, cluster.Wants listener listenerClass desired ∧
      listenerClass.spec.serviceType = some type ∧
        listenerClass.spec.serviceExternalTrafficPolicy.isSome := by
  obtain ⟨listenerClass, found, typed, policy⟩ := furnished.classed
  obtain ⟨desired, wanted⟩ := exists_desiredService listener typed
  have ports : servicePorts listener = servicePorts sent := by
    rw [servicePorts, servicePorts, underway.spec]
  refine ⟨listenerClass, desired, ⟨?_, ?_, wanted⟩, typed, policy⟩
  · rw [underway.spec]
    exact found
  · rw [ports]
    exact acceptable.ported

/-- With a Service as it should be, a reconciliation gives the Listener a status with addresses. -/
theorem Cluster.Equipped.reconcile (documented : runtime.Documented)
    (acceptable : sent.Acceptable type)
    (furnished : cluster.Furnished n request sent type volumeName pv pod) {listener : Listener}
    (underway : cluster.Underway sent listener) (equipped : cluster.Equipped runtime listener) :
    ((ListenerOperator.reconcile runtime sent.metadata.key).run (serve api) cluster).2.Stage runtime
      sent type 3 := by
  have key := underway.key
  have stored : cluster.listeners.get listener.metadata.key = some listener := by
    rw [key]
    exact underway.stored
  obtain ⟨listenerClass, desired, existing, wants, described, fixed⟩ := equipped.settled
  obtain ⟨otherClass, _, other, typed, -⟩ := furnished.wants acceptable underway
  obtain rfl := Option.some.inj (wants.classed.symm.trans other.classed)
  -- the stored Service is of the type of the class, with named ports and a cluster IP
  obtain ⟨found, typedAgain, spec⟩ := desiredService_spec wants.wanted
  obtain rfl := Option.some.inj (typed.symm.trans typedAgain)
  have serviceType : existing.spec.type = type := by
    rw [(Service.carries_of_fixed wants.wanted fixed).type, spec]
  have named : ∃ port ∈ existing.spec.ports, port.name ≠ "" := by
    obtain ⟨first, listed⟩ := List.exists_mem_of_ne_nil _ wants.ported
    have name := servicePorts_named listener first listed
    rw [← settled_ports wants.wanted fixed] at listed
    obtain ⟨kept, among, rfl⟩ := List.mem_map.mp listed
    exact ⟨kept, among, name⟩
  have unready : cluster.NoEndpoints listener := by
    have ns : listener.metadata.ns = sent.metadata.ns := congrArg ObjectKey.ns key
    have name : listener.metadata.name = sent.metadata.name := congrArg ObjectKey.name key
    have none := furnished.unready
    rw [Cluster.NoEndpoints, ← ns, ← name] at none
    exact none
  obtain ⟨preferred, resolved⟩ := ListenerClass.exists_preferredType typed
  obtain ⟨status, computed, publishes⟩ := cluster.statusFor_publishes unready
    (cluster.services.keyed described) (by rw [serviceType]; exact acceptable.kind) named
    (equipped.addressed existing described) preferred
  rw [serviceType] at publishes
  have ran := listenerStatus_run api described wants.classed
  rw [resolved, ok_bind, computed] at ran
  have created := (createService_settled api wants described fixed).1
  rw [← key, reconcile_run_settled stored created ran]
  -- the written Listener has the same Service
  obtain ⟨written, lookup, same, writtenSpec, metadata⟩ :=
    cluster.storeStatus_get listener status stored
  have writtenKey : written.metadata.key = listener.metadata.key := by
    rw [metadata]
    rfl
  have settled := equipped.settled.written documented writtenSpec metadata
  have frame := cluster.storeStatus_frame listener status
  refine ⟨written, ⟨?_, ?_⟩, ⟨?_, ?_⟩, ?_⟩
  · rw [← key]
    exact lookup
  · rw [writtenSpec]
    exact underway.spec
  · obtain ⟨_, _, _, wantsWritten, describedWritten, fixedWritten⟩ := settled
    rw [frame]
    exact ⟨_, _, _, ⟨wantsWritten.classed, wantsWritten.ported, wantsWritten.wanted⟩,
      describedWritten, fixedWritten⟩
  · intro service held
    rw [frame, writtenKey] at held
    exact equipped.addressed service held
  · rw [same]
    exact publishes

/-- A reconciliation of the Listener creates or updates a Service that does not stand in its way, or
finds it as it should be. -/
theorem Cluster.Vacant.reconcile (documented : runtime.Documented)
    (acceptable : sent.Acceptable type) (server : api.Serves sent)
    (furnished : cluster.Furnished n request sent type volumeName pv pod) {listener : Listener}
    (underway : cluster.Underway sent listener) (vacant : cluster.Vacant sent type) :
    ((ListenerOperator.reconcile runtime sent.metadata.key).run (serve api) cluster).2.Stage runtime
      sent type 2 := by
  have key := underway.key
  have name : listener.metadata.name = sent.metadata.name := congrArg ObjectKey.name key
  have stored : cluster.listeners.get listener.metadata.key = some listener := by
    rw [key]
    exact underway.stored
  obtain ⟨listenerClass, desired, wants, typed, policy⟩ := furnished.wants acceptable underway
  have serves := server.underway underway
  have unowned : ∀ service, cluster.services.get listener.metadata.key = some service →
      ∀ reference ∈ service.metadata.ownerReferences,
        ¬ reference.ControlledByOther "Listener" listener.metadata := by
    intro service described reference listed other
    rw [key] at described
    have elsewhere : reference.ControlledByOther "Listener" sent.metadata := by
      rw [OwnerReference.ControlledByOther, ← name]
      exact other
    exact (vacant service described).1 reference listed elsewhere
  have accepts : ∀ service : Service, service.metadata.key = listener.metadata.key →
      ∃ spec, api.admitService service = .ok spec := by
    intro service same
    obtain ⟨spec, accepted, -⟩ := serves service same
    exact ⟨spec, accepted⟩
  rcases createService_served wants unowned accepts with ⟨existing, described, fixed⟩ |
    ⟨base, written, kept, based, mutation, admitted, ran⟩
  · -- the Service was as it should be, so that the status is written already
    obtain ⟨found, typedAgain, spec⟩ := desiredService_spec wants.wanted
    obtain rfl := Option.some.inj (typed.symm.trans typedAgain)
    have serviceType : existing.spec.type = type := by
      rw [(Service.carries_of_fixed wants.wanted fixed).type, spec]
    have ready : cluster.Equipped runtime listener := by
      refine ⟨⟨listenerClass, desired, existing, wants, described, fixed⟩, ?_⟩
      intro service held
      obtain rfl := Option.some.inj (described.symm.trans held)
      rw [key] at described
      exact (vacant existing described).2 serviceType
    exact (ready.reconcile documented acceptable furnished underway).earlier
  · have ports : servicePorts listener = servicePorts sent := by
      rw [servicePorts, servicePorts, underway.spec]
    have distinct : ((servicePorts listener).map ServicePort.name).Nodup := by
      rw [ports]
      exact acceptable.distinct
    have settled := mutateService_settled wants.wanted policy
      (distinctPorts_of_names distinct) mutation admitted
    have described := wants.stored_get based mutation admitted
    rw [← key, reconcile_run_written stored ran]
    refine ⟨listener, ⟨underway.stored, underway.spec⟩,
      ⟨⟨listenerClass, desired, kept, ⟨wants.classed, wants.ported, wants.wanted⟩, described,
        settled⟩, ?_⟩⟩
    intro service held
    obtain rfl := Option.some.inj (described.symm.trans held)
    obtain ⟨spec, accepted, some⟩ := serves written (by
      rw [mutateService_key mutation, wants.base_key based])
    rw [admitted.admitted] at accepted
    rw [Except.ok.inj accepted]
    exact some

/-- A reconciliation of the Listener brings the volume one stage further. -/
theorem Cluster.Stage.reconcile (documented : runtime.Documented)
    (acceptable : sent.Acceptable type) (server : api.Serves sent)
    (furnished : cluster.Furnished n request sent type volumeName pv pod) {stage : Nat}
    (reached : cluster.Stage runtime sent type (stage + 1)) :
    ((ListenerOperator.reconcile runtime sent.metadata.key).run (serve api) cluster).2.Stage runtime
      sent type (stage + 2) := by
  have equipped : ∀ {listener}, cluster.Underway sent listener →
      cluster.Equipped runtime listener →
        ((ListenerOperator.reconcile runtime sent.metadata.key).run (serve api) cluster).2.Stage
          runtime sent type 3 :=
    fun underway ready => ready.reconcile documented acceptable furnished underway
  match stage with
  | 0 =>
    obtain ⟨listener, underway, vacant | ready⟩ := reached
    · exact vacant.reconcile documented acceptable server furnished underway
    · exact (equipped underway ready).earlier
  | 1 =>
    obtain ⟨listener, underway, ready⟩ := reached
    exact equipped underway ready
  | _ + 2 =>
    obtain ⟨listener, underway, ready, -⟩ := reached
    exact equipped underway ready

/-- No reconciliation takes the volume back. -/
theorem Cluster.Stage.reconcile_any (documented : runtime.Documented)
    (acceptable : sent.Acceptable type) (server : api.Serves sent)
    (furnished : cluster.Furnished n request sent type volumeName pv pod) {stage : Nat}
    (reached : cluster.Stage runtime sent type stage) (key : ObjectKey) :
    ((ListenerOperator.reconcile runtime key).run (serve api) cluster).2.Stage runtime sent type
      stage := by
  by_cases own : key = sent.metadata.key
  · subst own
    match stage with
    | 0 =>
      rcases reached with ⟨absent, free⟩ | there
      · -- there is nothing to reconcile
        have unchanged : ((ListenerOperator.reconcile runtime sent.metadata.key).run (serve api)
            cluster).2 = cluster := by
          simp [ListenerOperator.reconcile, serve, absent]
        rw [unchanged]
        exact Or.inl ⟨absent, free⟩
      · have next : ((ListenerOperator.reconcile runtime sent.metadata.key).run (serve api)
            cluster).2.Stage runtime sent type 2 :=
          Cluster.Stage.reconcile documented acceptable server furnished there
        exact next.mono (by omega)
    | stage + 1 =>
      have next := Cluster.Stage.reconcile documented acceptable server furnished reached
      exact next.mono (by omega)
  · exact reached.same (reconcile_agreeFor runtime api cluster own)

/-- A reconciliation leaves the surroundings of a volume. -/
theorem Cluster.Furnished.reconcile (documented : n.runtime.Documented)
    (furnished : cluster.Furnished n request sent type volumeName pv pod) (key : ObjectKey) :
    ((ListenerOperator.reconcile runtime key).run (serve api) cluster).2.Furnished n request sent
      type volumeName pv pod := by
  have keeps : ∀ after : Cluster, after.pvs = cluster.pvs → after.pods = cluster.pods →
      after.listenerClasses = cluster.listenerClasses → after.pvcs = cluster.pvcs →
        after.nodes = cluster.nodes → after.endpointSlices = cluster.endpointSlices →
          after.Furnished n request sent type volumeName pv pod :=
    fun after pvs pods classes claims nodes slices => furnished.alike documented
      (furnished.toBinds.congr pvs pods) (.refl pv) (.refl pod) classes claims nodes slices
  rcases reconcile_cases runtime api cluster key with ⟨outcome, -, ran⟩ |
    ⟨_, _, _, _, _, _, _, _, _, _, _, _, ran⟩ | ⟨listener, status, -, -, -, -, ran⟩
  · rw [ran]
    exact furnished
  · rw [ran]
    exact keeps _ rfl rfl rfl rfl rfl rfl
  · rw [ran, cluster.storeStatus_frame]
    exact keeps _ rfl rfl rfl rfl rfl rfl

end Reconcile

end Stage

section Attempt

variable {api : ApiServer} {n : NodeServer} {request : NodePublishVolumeRequest}
  {runtime : ControllerRuntime} {sent : Listener} {type : ServiceType} {volumeName : String}
  {pv : PersistentVolume} {pod : Pod} {cluster : Cluster}

/-- The first part of an attempt finds or creates the Listener. -/
theorem Cluster.Furnished.opens (accepted : validateNodePublishVolumeRequest request = .ok ())
    (unnamed : request.context.listenerName = none)
    (furnished : cluster.Furnished n request sent type volumeName pv pod) :
    (publishToCluster n request).run (serve api) cluster =
      (publishListener n pod pv (cluster.storing api sent).1).run (serve api)
        (cluster.storing api sent).2 := by
  have volumeRun : (getPV request.volumeId).run (serve api) cluster = (.ok pv, cluster) :=
    run_ask_ok _ (by simp [serve, furnished.volume])
  have podRun : (getPod request.podKey.name request.podKey.ns).run (serve api) cluster =
      (.ok pod, cluster) := run_ask_ok _ (Prod.ext (found_eq_ok.mpr furnished.held) rfl)
  have listenerRun : (getListener n pod pv request.context).run (serve api) cluster =
      (.ok (cluster.storing api sent).1, (cluster.storing api sent).2) :=
    (getListener_eq_ok unnamed).mpr ⟨sent, furnished.asked, rfl⟩
  exact publishToCluster_found accepted furnished.toBinds volumeRun podRun listenerRun

/-- After the first part of an attempt the Listener is there, and the volume has come as far as
before. -/
theorem Cluster.Stage.storing (api : ApiServer) {stage : Nat}
    (reached : cluster.Stage runtime sent type stage) :
    (cluster.storing api sent).2.Stage runtime sent type (max stage 1) ∧
      (cluster.storing api sent).2.listeners.get sent.metadata.key =
        some (cluster.storing api sent).1 := by
  cases present : cluster.listeners.get sent.metadata.key with
  | some listener =>
    have same : cluster.storing api sent = (listener, cluster) := by
      rw [Cluster.storing, present]
    rw [same]
    refine ⟨?_, present⟩
    cases stage with
    | zero =>
      rcases reached with ⟨absent, -⟩ | there
      · rw [present] at absent
        cases absent
      · exact there
    | succ stage =>
      rw [Nat.max_eq_left (by omega)]
      exact reached
  | none =>
    have underway : ∀ {listener}, ¬ cluster.Underway sent listener := by
      intro listener there
      rw [there.stored] at present
      cases present
    have start : stage = 0 ∧ cluster.Vacant sent type := by
      cases stage with
      | zero =>
        rcases reached with ⟨-, free⟩ | ⟨listener, there, -⟩
        · exact ⟨rfl, free⟩
        · exact absurd there underway
      | succ stage =>
        have first : cluster.Stage runtime sent type 1 := reached.mono (Nat.le_add_left 1 stage)
        obtain ⟨listener, there, -⟩ := first
        exact absurd there underway
    obtain ⟨rfl, free⟩ := start
    have stored : (cluster.storing api sent).2.listeners.get sent.metadata.key =
        some (cluster.storing api sent).1 := by
      simp only [Cluster.storing, present]
      rw [Store.get_insert, if_pos]
      rfl
    have spec : (cluster.storing api sent).1.spec = sent.spec := by
      simp only [Cluster.storing, present]
    have services : (cluster.storing api sent).2.services = cluster.services := by
      simp only [Cluster.storing, present]
    refine ⟨⟨(cluster.storing api sent).1, ⟨stored, spec⟩, Or.inl ?_⟩, stored⟩
    intro service described
    rw [services] at described
    exact free service described

/-- The first part of an attempt leaves the surroundings. -/
theorem Cluster.Furnished.storing (api : ApiServer) (documented : n.runtime.Documented)
    (furnished : cluster.Furnished n request sent type volumeName pv pod) :
    (cluster.storing api sent).2.Furnished n request sent type volumeName pv pod := by
  rw [Cluster.storing]
  split
  · exact furnished
  · exact furnished.alike documented (furnished.toBinds.congr rfl rfl) (.refl pv) (.refl pod) rfl rfl
      rfl rfl

/-- After an attempt on the cluster the Listener is there, and the volume has come as far as
before. -/
theorem Cluster.Stage.attempt (documented : n.runtime.Documented)
    (accepted : validateNodePublishVolumeRequest request = .ok ())
    (unnamed : request.context.listenerName = none)
    (furnished : cluster.Furnished n request sent type volumeName pv pod) {stage : Nat}
    (reached : cluster.Stage runtime sent type stage) :
    (∃ other copy, ((publishToCluster n request).run (serve api) cluster).2.Furnished n request sent
      type volumeName other copy) ∧
    ((publishToCluster n request).run (serve api) cluster).2.Stage runtime sent type
      (max stage 1) := by
  obtain ⟨opened, stored⟩ := reached.storing api
  have still := furnished.storing api documented
  have key : (cluster.storing api sent).1.metadata.key = sent.metadata.key :=
    (cluster.storing api sent).2.listeners.keyed stored
  have resolves : (cluster.storing api sent).2.Resolves n request pv pod
      (cluster.storing api sent).1 := by
    refine ⟨still.toBinds, ?_, ?_⟩
    · simp only [Cluster.ListenerKey, unnamed]
      exact ⟨sent, still.asked, key⟩
    · rw [key]
      exact stored
  have executed := Program.exec_run (flaky_serve api)
    (publishListener n pod pv (cluster.storing api sent).1) (cluster.storing api sent).2
  have changes := changes_of_guarded (publishListener_guarded documented resolves)
    executed.interrupted
  obtain ⟨surroundings, same⟩ := still.changes documented (by rw [stored]; simp) changes
  rw [furnished.opens accepted unnamed]
  exact ⟨surroundings, opened.same same⟩

/-- A pod on an addressable node gets addresses from a status that publishes. -/
theorem ListenerStatus.Publishes.addresses {listener : Listener}
    (publishes : listener.status.Publishes type) {node : Node}
    (present : cluster.nodes.get pod.spec.nodeName = some node) (addressable : node.Addressable) :
    ∃ data, cluster.addressesFor listener pod = .ok data := by
  rw [Cluster.addressesFor]
  rcases publishes with ⟨-, ported⟩ | ⟨-, portless, addressed⟩
  · obtain ⟨address, prior⟩ := Cluster.priorAddress_addressable present addressable
    rw [if_pos (by simpa using ported), prior]
    exact ⟨_, rfl⟩
  · rw [if_neg (by simp [portless]), if_pos addressed]
    exact ⟨_, rfl⟩

/-- With addresses in the status, an attempt on the cluster finds them. -/
theorem Cluster.Stage.finds (api : ApiServer)
    (accepted : validateNodePublishVolumeRequest request = .ok ())
    (unnamed : request.context.listenerName = none)
    (furnished : cluster.Furnished n request sent type volumeName pv pod)
    (reached : cluster.Stage runtime sent type 3) :
    ∃ publication data after, (publishToCluster n request).run (serve api) cluster =
      (.ok (publication, data), after) := by
  obtain ⟨listener, underway, -, publishes⟩ := reached
  have found : cluster.storing api sent = (listener, cluster) := by
    rw [Cluster.storing, underway.stored]
  have stored : cluster.listeners.get listener.metadata.key = some listener := by
    rw [underway.key]
    exact underway.stored
  have volume : cluster.pvs.get pv.metadata.name = some pv := by
    rw [cluster.pvs.keyed furnished.volume]
    exact furnished.volume
  have held : cluster.pods.get pod.metadata.key = some pod := by
    rw [cluster.pods.keyed furnished.held]
    exact furnished.held
  obtain ⟨node, present, addressable⟩ := furnished.node
  obtain ⟨data, addresses⟩ := publishes.addresses present addressable
  obtain ⟨object, after, ran⟩ :=
    Lifetime.publishListener_serve api volume held stored addresses furnished.named
  refine ⟨⟨listener, volumeName, object⟩, data, after, ?_⟩
  rw [furnished.opens accepted unnamed, found]
  exact ran

end Attempt

/-- What happens while a volume is published: an attempt on the node of its pod, or a
reconciliation of some Listener. -/
inductive RolloutEvent where
  | attempt
  | reconcile (key : ObjectKey)

section Events

variable (runtime : ControllerRuntime) (n : NodeServer) (request : NodePublishVolumeRequest)

/-- The cluster and the node after an event in which no call fails, with the API server that
answers it. -/
def RolloutEvent.after : ApiServer × RolloutEvent → World → World
  | (api, .attempt), world => ((nodePublishVolume n request).run (serveNode api) world).2
  | (api, .reconcile key), world =>
    { world with cluster :=
      ((ListenerOperator.reconcile runtime key).run (serve api) world.cluster).2 }

/-- An attempt that finds addresses. -/
def RolloutEvent.Finds : ApiServer × RolloutEvent → World → Prop
  | (api, .attempt), world => ∃ publication data after,
    (publishToCluster n request).run (serve api) world.cluster = (.ok (publication, data), after)
  | (_, .reconcile _), _ => False

/-- What is left of a rollout: the first attempt, two reconciliations and one more attempt. -/
def rolloutEvents (sent : Listener) : List RolloutEvent :=
  [.attempt, .reconcile sent.metadata.key, .reconcile sent.metadata.key]

end Events

section Plan

variable {runtime : ControllerRuntime} {n : NodeServer} {request : NodePublishVolumeRequest}
  {sent : Listener} {type : ServiceType} {volumeName : String}

/-- An attempt that finds no addresses leaves the files of the node. -/
theorem RolloutEvent.after_attempt {api : ApiServer} {world : World}
    (fails : ¬ RolloutEvent.Finds n request (api, .attempt) world) :
    RolloutEvent.after runtime n request (api, .attempt) world =
      { world with cluster := ((publishToCluster n request).run (serve api) world.cluster).2 } := by
  have objects := run_serveNode api (publishToCluster_ensures n request) world
  rcases ran : (publishToCluster n request).run (serve api) world.cluster with ⟨outcome, after⟩
  rw [ran] at objects
  cases outcome with
  | ok published => exact absurd ⟨published.1, published.2, after, ran⟩ fails
  | error failure =>
    show ((nodePublishVolume n request).run (serveNode api) world).2 = _
    rw [nodePublishVolume, Program.run_bind_error _ objects]

/-- What is known when some events are left: the files are as at the start, the surroundings are
there, and the volume has come through the stages of the events before. -/
structure RolloutEvent.Left (runtime : ControllerRuntime) (n : NodeServer)
    (request : NodePublishVolumeRequest) (sent : Listener) (type : ServiceType)
    (volumeName : String) (files : FileSystem) (remaining : List RolloutEvent) (world : World) :
    Prop where
  files : world.files = files
  furnished : ∃ pv pod, world.cluster.Furnished n request sent type volumeName pv pod
  left : remaining <:+ rolloutEvents sent
  stage : world.cluster.Stage runtime sent type (3 - remaining.length)

/-- The next of the events that are left, by the stage that the volume has come to. -/
theorem rolloutEvents_next {event : RolloutEvent} {remaining : List RolloutEvent}
    (left : event :: remaining <:+ rolloutEvents sent) :
    (event = .attempt ∧ remaining.length = 2) ∨
      (event = .reconcile sent.metadata.key ∧ remaining.length ≤ 1) := by
  unfold rolloutEvents at left
  rcases List.suffix_cons_iff.mp left with all | left
  · obtain ⟨rfl, rfl⟩ := List.cons.inj all
    exact Or.inl ⟨rfl, rfl⟩
  · rcases List.suffix_cons_iff.mp left with two | left
    · obtain ⟨rfl, rfl⟩ := List.cons.inj two
      exact Or.inr ⟨rfl, by simp⟩
    · rcases List.suffix_cons_iff.mp left with one | left
      · obtain ⟨rfl, rfl⟩ := List.cons.inj one
        exact Or.inr ⟨rfl, by simp⟩
      · cases List.suffix_nil.mp left

/-- What is left of a rollout is a plan, whatever API servers that accept the Service answer:
attempts and reconciliations take nothing back, and when nothing is left the next attempt finds
addresses. -/
def rolloutPlan (documented : n.runtime.Documented) (controller : runtime.Documented)
    (accepted : validateNodePublishVolumeRequest request = .ok ())
    (unnamed : request.context.listenerName = none) (acceptable : sent.Acceptable type)
    (volumeName : String) (files : FileSystem) :
    Progress.Plan (RolloutEvent.after runtime n request) (RolloutEvent.Finds n request)
      (fun event => event.1.Serves sent) Prod.snd .attempt where
  left := RolloutEvent.Left runtime n request sent type volumeName files
  keeps remaining event world serves left fails := by
    obtain ⟨same, ⟨pv, pod, furnished⟩, ends, reached⟩ := left
    obtain ⟨api, event⟩ := event
    cases event with
    | attempt =>
      obtain ⟨still, further⟩ := reached.attempt documented accepted unnamed furnished
      rw [RolloutEvent.after_attempt fails]
      exact ⟨same, still, ends, further.mono (Nat.le_max_left _ _)⟩
    | reconcile key =>
      exact ⟨same, ⟨pv, pod, furnished.reconcile documented key⟩, ends,
        reached.reconcile_any controller acceptable serves furnished key⟩
  advances remaining event world serves left fails := by
    obtain ⟨same, ⟨pv, pod, furnished⟩, ends, reached⟩ := left
    obtain ⟨api, event⟩ := event
    have rest : remaining <:+ rolloutEvents sent := (List.suffix_cons _ _).trans ends
    rw [List.length_cons] at reached
    rcases rolloutEvents_next ends with ⟨rfl, length⟩ | ⟨rfl, length⟩
    · obtain ⟨still, further⟩ := reached.attempt documented accepted unnamed furnished
      rw [RolloutEvent.after_attempt fails]
      exact ⟨same, still, rest, further.mono (by omega)⟩
    · have before : 3 - (remaining.length + 1) = (1 - remaining.length) + 1 := by omega
      rw [before] at reached
      have next := Cluster.Stage.reconcile controller acceptable serves furnished reached
      exact ⟨same, ⟨pv, pod, furnished.reconcile documented _⟩, rest, next.mono (by omega)⟩
  finishes event world _ last left := by
    obtain ⟨-, ⟨pv, pod, furnished⟩, -, reached⟩ := left
    obtain ⟨api, event⟩ := event
    obtain rfl : event = .attempt := last
    exact reached.finds api accepted unnamed furnished

end Plan

/-- A volume of a class of NodePort or ClusterIP Services whose Listener is not there yet, with
attempts and reconciliations in any order, each answered by an API server that accepts the Service:
if there is an attempt, then two reconciliations of the Listener and then another attempt, whatever
else happens between them, then some attempt finds the addresses. Until then the files of the node
are as they were, and that attempt publishes the tree of the addresses if they are names and
directories can lead to the clean target path. -/
theorem rollout_publishes (n : NodeServer) (documented : n.runtime.Documented)
    (runtime : ControllerRuntime) (controller : runtime.Documented)
    (request : NodePublishVolumeRequest)
    (accepted : validateNodePublishVolumeRequest request = .ok ())
    (unnamed : request.context.listenerName = none) (sent : Listener) (type : ServiceType)
    (acceptable : sent.Acceptable type) (volumeName : String) (pv : PersistentVolume)
    (pod : Pod) (world : World)
    (furnished : world.cluster.Furnished n request sent type volumeName pv pod)
    (absent : world.cluster.listeners.get sent.metadata.key = none)
    (vacant : world.cluster.Vacant sent type) (events : List (ApiServer × RolloutEvent))
    (serves : ∀ event ∈ events, event.1.Serves sent)
    (order : [.attempt, .reconcile sent.metadata.key, .reconcile sent.metadata.key].Sublist
      (events.map Prod.snd)) (final : ApiServer) (served : final.Serves sent) :
    ∃ earlier api rest, events ++ [(final, .attempt)] = earlier ++ (api, .attempt) :: rest ∧
      ∃ now publication data resolved,
        now = Progress.afterAll (RolloutEvent.after runtime n request) earlier world ∧
        now.files = world.files ∧
        (publishToCluster n request).run (serveNode api) now = (.ok (publication, data), resolved) ∧
        (Nameable data → clean request.targetPath = request.targetPath →
          world.files.tree.entry (place request.targetPath) = none →
          world.files.Open request.targetPath →
            ∃ files : FileSystem, files.Publishes request.targetPath data ∧
              (nodePublishVolume n request).run (serveNode api) now =
                (.ok publication, { resolved with files })) := by
  let plan := rolloutPlan documented controller accepted unnamed acceptable volumeName world.files
  have start : plan.left (rolloutEvents sent) world :=
    ⟨rfl, ⟨pv, pod, furnished⟩, List.suffix_refl _, Or.inl ⟨absent, vacant⟩⟩
  obtain ⟨earlier, ⟨api, event⟩, rest, others, split, left, found⟩ :=
    plan.reaches (show (final, RolloutEvent.attempt).1.Serves sent from served) rfl start serves
      order
  cases event with
  | reconcile key => exact absurd found id
  | attempt =>
    obtain ⟨publication, data, after, ran⟩ := found
    let now := Progress.afterAll (RolloutEvent.after runtime n request) earlier world
    have resolved : (publishToCluster n request).run (serveNode api) now =
        (.ok (publication, data), { now with cluster := after }) := by
      rw [run_serveNode api (publishToCluster_ensures n request), ran]
    have nonempty : data ≠ [] := (publishToCluster_run api resolved).2 _ rfl
    refine ⟨earlier, api, rest, split, now, publication, data, _, rfl, left.files, resolved, ?_⟩
    intro nameable isClean free isOpen
    have same : ({ now with cluster := after } : World).files = world.files := left.files
    rw [← same] at free
    rw [FileSystem.Open, ← same] at isOpen
    obtain ⟨files, publishes, written⟩ :=
      publishToNode_run api n isClean nameable nonempty free isOpen
    refine ⟨files, publishes, ?_⟩
    rw [nodePublishVolume, Program.run_bind_ok _ resolved]
    exact Program.run_bind_ok _ written

/-- The Listener that `webVolume` asks for. -/
def claimListener : Listener where
  metadata := {
    name := "web-data"
    ns := "default"
    ownerReferences := [{
      kind := "PersistentVolume"
      name := "pv-1"
      uid := "2e4d6c8b-0a9f-4b7c-9d1e-3f5a7b9c1d2e"
      controller := true }] }
  spec := {
    className := "external"
    ports := [{ name := "http", protocol := "TCP", port := 80 }]
    publishNotReadyAddresses := some true }

/-- What `webVolume` needs is in the cluster. -/
theorem claimCluster_furnished :
    (claimCluster []).Furnished .standard classRequest claimListener .nodePort "listener" webVolume
      webPod where
  podName := by decide +kernel
  podNamespace := by decide +kernel
  volume := rfl
  held := by decide +kernel
  asked := by decide +kernel
  named := ⟨_, rfl, by decide⟩
  node := ⟨webNode, rfl, _, List.mem_cons_self, Or.inr (Or.inr rfl)⟩
  classed := ⟨webClass .nodePort .hostname, rfl, rfl, rfl⟩
  unready := by
    intro slice listed
    cases listed

/-- The Listener has a port, and its Service is of type NodePort. -/
theorem claimListener_acceptable : claimListener.Acceptable .nodePort where
  kind := Or.inl rfl
  ported := by decide
  distinct := by decide

/-- API servers that fill in what is not set accept the Service of the Listener. -/
theorem claimListener_served (uid : String) : (ApiServer.filling uid).Serves claimListener := by
  intro service _
  refine ⟨_, rfl, ?_⟩
  rw [ServiceSpec.filled]
  by_cases empty : service.spec.clusterIPs = [] <;> simp [empty]

/-- Attempts and reconciliations for `webVolume`, one of them of another Listener, each with another
identifier for what it creates. -/
def claimEvents : List (ApiServer × RolloutEvent) :=
  [(.filling "1", .reconcile ⟨"default", "web-data"⟩), (.filling "2", .attempt),
    (.filling "3", .reconcile ⟨"default", "web"⟩), (.filling "4", .attempt),
    (.filling "5", .reconcile ⟨"default", "web-data"⟩), (.filling "6", .attempt),
    (.filling "7", .reconcile ⟨"default", "web-data"⟩)]

/-- The volume of a new claim is published. -/
theorem claimEvents_publish : ∃ earlier api rest,
    claimEvents ++ [(.filling "8", .attempt)] = earlier ++ (api, .attempt) :: rest ∧
    ∃ now publication data resolved,
      now = Progress.afterAll (RolloutEvent.after .standard .standard classRequest) earlier
        { cluster := claimCluster [], files := {} } ∧
      (publishToCluster .standard classRequest).run (serveNode api) now =
        (.ok (publication, data), resolved) ∧
      (Nameable data → ∃ files : FileSystem, files.Publishes "/mnt/web" data ∧
        (nodePublishVolume .standard classRequest).run (serveNode api) now =
          (.ok publication, { resolved with files })) := by
  have vacant : (claimCluster []).Vacant claimListener .nodePort := by
    intro service stored
    cases stored
  have serves : ∀ event ∈ claimEvents, event.1.Serves claimListener := by
    intro event listed
    simp only [claimEvents, List.mem_cons, List.not_mem_nil, or_false] at listed
    rcases listed with rfl | rfl | rfl | rfl | rfl | rfl | rfl <;> exact claimListener_served _
  have order : [.attempt, .reconcile claimListener.metadata.key,
      .reconcile claimListener.metadata.key].Sublist (claimEvents.map Prod.snd) :=
    .cons _ (.cons_cons _ (.cons _ (.cons _ (.cons_cons _ (.cons _ (.cons_cons _ .slnil))))))
  obtain ⟨earlier, api, rest, split, now, publication, data, resolved, reached, -, finds, writes⟩ :=
    rollout_publishes .standard ControllerRuntime.standard_documented .standard
      ControllerRuntime.standard_documented classRequest (by decide) (by decide +kernel)
      claimListener .nodePort claimListener_acceptable "listener" webVolume webPod
      { cluster := claimCluster [], files := {} } claimCluster_furnished rfl vacant claimEvents
      serves order (.filling "8") (claimListener_served "8")
  refine ⟨earlier, api, rest, split, now, publication, data, resolved, reached, finds, ?_⟩
  intro nameable
  exact writes nameable (by decide +kernel) (by decide +kernel) (FileTree.Tree.empty_open _)

end ListenerOperator
