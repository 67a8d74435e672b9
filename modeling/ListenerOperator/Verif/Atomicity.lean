import ListenerOperator.Base.Stamp
import ListenerOperator.Verif.NodePorts
import ListenerOperator.Verif.Selection

/-!
# Reconciliations that read late

The controller reads Listeners, classes and Services through a cache, so that what it computes a
Service from may be outdated when it writes. The version of the Service that it read goes with
the write, and the API server refuses the write if the Service has another one by then. In every
interleaving each write of a Service is therefore the one that `CreateOrUpdate` makes when nothing
comes between its read and its write. What holds of single reconciliations holds then of any number
of interleaved ones: Services of others are left alone, and node ports are kept.
-/

namespace ListenerOperator

open Interaction Versioned MergePatch Keyed

/-- Services with their versions. -/
def serviceVersions : Stamping Cluster ObjectKey Service where
  view cluster := cluster.services.get
  stamp service := service.metadata.resourceVersion
  clock := Cluster.revision

/-- A stored Service follows the clock of the cluster. -/
theorem serviceVersions_ticks_insert {before after : Cluster} {stored : Service}
    (services : after.services = before.services.insert stored)
    (revision : after.revision = before.nextRevision)
    (version : stored.metadata.resourceVersion = before.nextRevision) :
    serviceVersions.Ticks before after := by
  have later : before.nextRevision = before.revision + 1 := rfl
  refine ⟨?_, fun key value found => ?_⟩
  · show before.revision ≤ after.revision
    omega
  · have held : (before.services.insert stored).get key = some value := services ▸ found
    rw [Store.get_insert] at held
    split at held
    · obtain rfl := Option.some.inj held
      refine Or.inr ⟨?_, ?_⟩
      · show before.revision < stored.metadata.resourceVersion
        omega
      · show stored.metadata.resourceVersion ≤ after.revision
        omega
    · exact Or.inl held

/-- Where the Services stay, the clock may go on. -/
theorem serviceVersions_ticks_same {before after : Cluster}
    (services : after.services = before.services) (revision : before.revision ≤ after.revision) :
    serviceVersions.Ticks before after :=
  ⟨revision, fun key value found => Or.inl (by
    have held : after.services.get key = some value := found
    rw [services] at held
    exact held)⟩

/-- The API server does not turn back its clock. -/
theorem serve_revision (api : ApiServer) (request : Call) (cluster : Cluster) :
    cluster.revision ≤ (serve api request cluster).2.revision := by
  have later : cluster.revision ≤ cluster.nextRevision := Nat.le_succ _
  cases request with
  | updateListenerStatus listener =>
    simp only [serve, Cluster.storeStatus]
    repeat' split
    all_goals first | exact le_refl _ | exact later
  | _ =>
    simp only [serve]
    repeat' split
    all_goals first | exact le_refl _ | exact later

/-- A created Service was not there. -/
theorem serve_createService_ok {api : ApiServer} {cluster : Cluster} {sent stored : Service}
    (replied : (serve api (.createService sent) cluster).1 = .ok stored) :
    cluster.services.get sent.metadata.key = none ∧
      stored.metadata.resourceVersion = cluster.nextRevision ∧
        (serve api (.createService sent) cluster).2 = cluster.storeService stored := by
  cases described : cluster.services.get sent.metadata.key with
  | some other => simp [serve, described] at replied
  | none =>
    cases admitted : api.admitService sent with
    | error failure => simp [serve, described, admitted] at replied
    | ok spec =>
      simp only [serve, described, admitted, Except.ok.injEq] at replied ⊢
      subst replied
      exact ⟨trivial, rfl, rfl⟩

/-- An updated Service was there in the version that was sent. -/
theorem serve_updateService_ok {api : ApiServer} {cluster : Cluster} {sent stored : Service}
    (replied : (serve api (.updateService sent) cluster).1 = .ok stored) :
    (∃ held, cluster.services.get sent.metadata.key = some held ∧
      held.metadata.resourceVersion = sent.metadata.resourceVersion) ∧
      stored.metadata.resourceVersion = cluster.nextRevision ∧
        (serve api (.updateService sent) cluster).2 = cluster.storeService stored := by
  cases described : cluster.services.get sent.metadata.key with
  | none => simp [serve, described] at replied
  | some held =>
    by_cases same : held.metadata.resourceVersion = sent.metadata.resourceVersion
    · cases admitted : api.admitService sent with
      | error failure => simp [serve, described, same, admitted] at replied
      | ok spec =>
        simp only [serve, described, same, admitted, ne_eq, not_true_eq_false, ↓reduceIte,
          Except.ok.injEq] at replied ⊢
        subst replied
        exact ⟨⟨held, rfl, same⟩, rfl, rfl⟩
    · simp [serve, described, same] at replied

/-- What the API server stores follows its clock. -/
theorem serve_ticks {api : ApiServer} {request : Call} {cluster : Cluster} {value : Value request}
    (replied : (serve api request cluster).1 = .ok value) :
    serviceVersions.Ticks cluster (serve api request cluster).2 := by
  by_cases part : request.part = some .services
  · cases request with
    | createService sent =>
      obtain ⟨-, version, stored⟩ := serve_createService_ok replied
      rw [stored]
      exact serviceVersions_ticks_insert rfl rfl version
    | updateService sent =>
      obtain ⟨-, version, stored⟩ := serve_updateService_ok replied
      rw [stored]
      exact serviceVersions_ticks_insert rfl rfl version
    | _ => cases part
  · exact serviceVersions_ticks_same ((serve_sameBut api request cluster).services part)
      (serve_revision api request cluster)

/-- A call leaves the versions of Services unique. -/
theorem stamped_call {request : Call} {before after : History} {reply : Reply request}
    (stamped : serviceVersions.Stamped before) (answered : cached request before reply after) :
    serviceVersions.Stamped after := by
  rcases cached_cases answered with idle | ⟨-, api, value, -, replied, recorded, -⟩
  · rw [idle.unchanged]
    exact stamped
  · rw [recorded]
    exact stamped.record (serve_ticks replied) request

/-- A class that some version of the cluster has. -/
def KnownClass (history : History) (listenerClass : ListenerClass) : Prop :=
  ∃ version, history.Has version ∧
    version.listenerClasses.get listenerClass.metadata.name = some listenerClass

/-- The Listener of a key, its class and the Service they ask for, as a reconciliation read
them. -/
structure Told (transcript : Transcript) (key : ObjectKey) (listener : Listener)
    (listenerClass : ListenerClass) (desired : Service) : Prop where
  read : Answered transcript (.getListener key) listener
  classed : Answered transcript (.getListenerClass { name := listener.spec.className })
    listenerClass
  ported : servicePorts listener ≠ []
  wanted : desiredService listener listenerClass = .ok desired

/-- What was told stays so. -/
theorem Told.mono {transcript later : Transcript} {key : ObjectKey} {listener : Listener}
    {listenerClass : ListenerClass} {desired : Service}
    (told : Told transcript key listener listenerClass desired) (continues : transcript <:+ later) :
    Told later key listener listenerClass desired :=
  ⟨continues.subset told.read, continues.subset told.classed, told.ported, told.wanted⟩

/-- The writes of Services that a run makes after the given calls: only a reconciliation makes any,
and it sends what the update makes of the Service that it read, or of the desired one. -/
def ServiceCall (job : Job) (transcript : Transcript) : Call → Prop
  | .createService sent => ∃ runtime key listener listenerClass desired,
    job = .reconcile runtime key ∧ Told transcript key listener listenerClass desired ∧
      mutateService runtime listener desired desired = .ok sent
  | .updateService sent => ∃ runtime key listener listenerClass desired existing,
    job = .reconcile runtime key ∧ Told transcript key listener listenerClass desired ∧
      Answered transcript (.getService desired.metadata.key) existing ∧
        mutateService runtime listener desired existing = .ok sent ∧ sent ≠ existing
  | _ => True

/-- `CreateOrUpdate` writes what the update makes of the Service that it read. -/
theorem createOrUpdate_serviceCall {runtime : ControllerRuntime} {key : ObjectKey}
    {listener : Listener} {listenerClass : ListenerClass} {desired : Service}
    {transcript : Transcript} (told : Told transcript key listener listenerClass desired) :
    (createOrUpdate desired (mutateService runtime listener desired)).Follows
      (ServiceCall (.reconcile runtime key)) (fun _ _ => True) transcript := by
  refine ⟨trivial, fun reply => ?_⟩
  cases reply with
  | ok existing =>
    refine (follows_lift (mutateService runtime listener desired existing)).bind ?_
    rintro _ mutated - ⟨rfl, mutation⟩
    split
    · trivial
    · rename_i different
      have allowed : ServiceCall (.reconcile runtime key)
          (⟨.getService desired.metadata.key, .ok existing⟩ :: transcript)
          (.updateService mutated) :=
        ⟨runtime, key, listener, listenerClass, desired, existing, rfl,
          told.mono (List.suffix_cons _ _), List.mem_cons_self, mutation, different⟩
      exact (follows_ask allowed).bind fun _ _ _ _ => trivial
  | error failure =>
    dsimp only
    split
    · refine (follows_lift (mutateService runtime listener desired desired)).bind ?_
      rintro _ mutated - ⟨rfl, mutation⟩
      have allowed : ServiceCall (.reconcile runtime key)
          (⟨.getService desired.metadata.key, .error failure⟩ :: transcript)
          (.createService mutated) :=
        ⟨runtime, key, listener, listenerClass, desired, rfl, told.mono (List.suffix_cons _ _),
          mutation⟩
      exact (follows_ask allowed).bind fun _ _ _ _ => trivial
    · trivial

/-- The Service of a Listener that was read is written so. -/
theorem createService_serviceCall {runtime : ControllerRuntime} {key : ObjectKey}
    {listener : Listener} {transcript : Transcript}
    (read : Answered transcript (.getListener key) listener) :
    (createService runtime listener).Follows (ServiceCall (.reconcile runtime key))
      (fun _ _ => True) transcript := by
  have asked : (getListenerClass listener).Follows (ServiceCall (.reconcile runtime key))
      (fun later found => later = ⟨.getListenerClass { name := listener.spec.className },
        .ok found⟩ :: transcript) transcript := follows_ask trivial
  refine asked.bind ?_
  rintro _ listenerClass continues rfl
  split
  · trivial
  · rename_i ported
    refine (follows_lift (desiredService listener listenerClass)).bind ?_
    rintro _ desired - ⟨rfl, wanted⟩
    have told : Told (⟨.getListenerClass { name := listener.spec.className },
        .ok listenerClass⟩ :: transcript) key listener listenerClass desired :=
      ⟨continues.subset read, List.mem_cons_self, ported, wanted⟩
    refine (createOrUpdate_serviceCall told).bind fun later operation _ _ => ?_
    split <;> trivial

/-- Runs write Services so. -/
theorem job_serviceCall (job : Job) :
    job.program.Follows (ServiceCall job) (fun _ _ => True) [] := by
  cases job with
  | publish n request =>
    refine ((nodePublishVolume_follows n request).weaken fun _ call made => ?_).bind
      fun _ _ _ _ => trivial
    have objects : call.kind ≠ .file → ObjectCall request _ call := made.resolve_left
    cases call with
    | createService sent => cases objects (by simp [Call.kind])
    | updateService sent => cases objects (by simp [Call.kind])
    | _ => trivial
  | reconcile runtime key =>
    have reconciled : (reconcile runtime key).Follows (ServiceCall (.reconcile runtime key))
        (fun _ _ => True) [] := by
      refine ⟨trivial, fun reply => ?_⟩
      cases reply with
      | error failure =>
        dsimp only
        split <;> trivial
      | ok listener =>
        refine (createService_serviceCall List.mem_cons_self).bind fun later result _ _ => ?_
        split
        · trivial
        · refine ((updateListenerStatus_ensures listener).follows ?_ later).bind
            fun _ _ _ _ => trivial
          rintro _ call (reads | ⟨sent, rfl⟩)
          · cases call <;> trivial
          · trivial
    exact reconciled.bind fun _ _ _ _ => trivial

/-- The cluster after `CreateOrUpdate` wrote the Service of a Listener and its class, with nothing
between its read and its write. -/
structure Cluster.Reconciles (runtime : ControllerRuntime) (listener : Listener)
    (listenerClass : ListenerClass) (api : ApiServer) (before after : Cluster) : Prop where
  ported : servicePorts listener ≠ []
  updated : ∃ desired operation, desiredService listener listenerClass = .ok desired ∧
    operation ≠ .none ∧
      (createOrUpdate desired (mutateService runtime listener desired)).run (serve api) before =
        (.ok operation, after)

/-- A run leaves the Services, or writes one from what it replaces, for a Listener and a class that
were stored. -/
def Atomic (job : Job) (before after : History) : Prop :=
  after.current.services = before.current.services ∨
    ∃ runtime key listener listenerClass api, job = .reconcile runtime key ∧
      listener.metadata.key = key ∧ Known before listener ∧ KnownClass before listenerClass ∧
        listenerClass.metadata.name = listener.spec.className ∧
          before.current.Reconciles runtime listener listenerClass api after.current

/-- The history has what a transcript tells, and the classes that it tells. -/
structure Informed (transcript : Transcript) (history : History) : Prop where
  recalls : Recalls transcript history
  classes : ∀ key listenerClass, Answered transcript (.getListenerClass key) listenerClass →
    KnownClass history listenerClass ∧ listenerClass.metadata.name = key.name

/-- An empty transcript tells nothing. -/
theorem Informed.nil (history : History) : Informed [] history :=
  ⟨Recalls.nil history, fun _ _ answered => absurd answered List.not_mem_nil⟩

/-- A class stays known. -/
theorem KnownClass.mono {before after : History} {listenerClass : ListenerClass}
    (known : KnownClass before listenerClass) (extended : before.Extends after) :
    KnownClass after listenerClass := by
  obtain ⟨version, had, stored⟩ := known
  exact ⟨version, extended.versions version had, stored⟩

/-- What is told stays so. -/
theorem Informed.mono {transcript : Transcript} {before after : History}
    (informed : Informed transcript before) (extended : before.Extends after) :
    Informed transcript after := by
  refine ⟨informed.recalls.mono extended, fun key listenerClass answered => ?_⟩
  obtain ⟨known, name⟩ := informed.classes key listenerClass answered
  exact ⟨known.mono extended, name⟩

/-- The history has what one more call tells. -/
theorem Informed.call {transcript : Transcript} {request : Call} {before after : History}
    {reply : Reply request} (informed : Informed transcript before)
    (answered : cached request before reply after) :
    Informed (⟨request, reply⟩ :: transcript) after := by
  have kept := informed.mono (cached_extends answered)
  refine ⟨informed.recalls.call answered, fun key listenerClass told => ?_⟩
  rcases List.mem_cons.mp told with same | earlier
  · cases same
    rcases cached_cases answered with idle | ⟨writes, -⟩
    · rcases idle.value listenerClass rfl with file | ⟨-, version, api, had, replied⟩
      · cases file
      · have stored : version.listenerClasses.get key.name = some listenerClass :=
          found_eq_ok.mp replied
        have name := version.listenerClasses.keyed stored
        refine ⟨⟨version, idle.unchanged ▸ had, ?_⟩, name⟩
        rw [name]
        exact stored
    · cases writes
  · exact kept.classes key listenerClass earlier

/-- What a reconciliation was told was stored. -/
theorem Told.known {transcript : Transcript} {key : ObjectKey} {listener : Listener}
    {listenerClass : ListenerClass} {desired : Service} {history : History}
    (told : Told transcript key listener listenerClass desired)
    (informed : Informed transcript history) :
    listener.metadata.key = key ∧ Known history listener ∧ KnownClass history listenerClass ∧
      listenerClass.metadata.name = listener.spec.className := by
  obtain ⟨version, had, held⟩ := informed.recalls.stored _ _ told.read (by simp [Call.kind])
  have stored : version.listeners.get key = some listener := held
  have same : listener.metadata.key = key := version.listeners.keyed stored
  obtain ⟨classKnown, name⟩ := informed.classes _ _ told.classed
  refine ⟨same, ⟨version, had, ?_⟩, classKnown, name⟩
  rw [same]
  exact stored

/-- A Service is created as `CreateOrUpdate` does it without a gap. -/
theorem reconciles_create {runtime : ControllerRuntime} {listener : Listener}
    {listenerClass : ListenerClass} {desired sent stored : Service} {api : ApiServer}
    {cluster : Cluster} (ported : servicePorts listener ≠ [])
    (wanted : desiredService listener listenerClass = .ok desired)
    (mutation : mutateService runtime listener desired desired = .ok sent)
    (replied : (serve api (.createService sent) cluster).1 = .ok stored) :
    cluster.Reconciles runtime listener listenerClass api
      (serve api (.createService sent) cluster).2 := by
  have absent := (serve_createService_ok replied).1
  rw [mutateService_key mutation] at absent
  refine ⟨ported, desired, .created, wanted, by simp, ?_⟩
  have created : (ask (.createService sent)).run (serve api) cluster =
      (.ok stored, (serve api (.createService sent) cluster).2) := run_ask_ok _ (Prod.ext replied rfl)
  simp only [createOrUpdate, Program.run_call, serve_read api (.getService _) cluster rfl]
  simp only [serve, absent, found_none, ↓reduceIte]
  rw [mutation, Program.lift_eq, Program.done_ok_bind]
  exact Program.run_bind_ok _ created

/-- A Service is updated as `CreateOrUpdate` does it without a gap, if it was mutated from the
stored one. -/
theorem reconciles_update {runtime : ControllerRuntime} {listener : Listener}
    {listenerClass : ListenerClass} {desired held sent stored : Service} {api : ApiServer}
    {cluster : Cluster} (ported : servicePorts listener ≠ [])
    (wanted : desiredService listener listenerClass = .ok desired)
    (described : cluster.services.get desired.metadata.key = some held)
    (mutation : mutateService runtime listener desired held = .ok sent) (different : sent ≠ held)
    (replied : (serve api (.updateService sent) cluster).1 = .ok stored) :
    cluster.Reconciles runtime listener listenerClass api
      (serve api (.updateService sent) cluster).2 := by
  refine ⟨ported, desired, .updated, wanted, by simp, ?_⟩
  have updated : (ask (.updateService sent)).run (serve api) cluster =
      (.ok stored, (serve api (.updateService sent) cluster).2) := run_ask_ok _ (Prod.ext replied rfl)
  simp only [createOrUpdate, Program.run_call, serve_read api (.getService _) cluster rfl]
  simp only [serve, described, found_some]
  rw [mutation, Program.lift_eq, Program.done_ok_bind, if_neg different]
  exact Program.run_bind_ok _ updated

/-- A call of a run writes a Service without a gap, or leaves the Services. -/
theorem atomic_call {job : Job} {transcript : Transcript} {request : Call} {before after : History}
    {reply : Reply request} (made : ServiceCall job transcript request)
    (stamped : serviceVersions.Stamped before) (informed : Informed transcript before)
    (answered : cached request before reply after) : Atomic job before after := by
  rcases cached_cases answered with idle | ⟨-, api, value, -, replied, recorded, -⟩
  · refine Or.inl ?_
    rw [idle.unchanged]
  · have current : after.current = (serve api request before.current).2 := by rw [recorded]; rfl
    by_cases part : request.part = some .services
    · refine Or.inr ?_
      rw [current]
      cases request with
      | createService sent =>
        obtain ⟨runtime, key, listener, listenerClass, desired, rfl, told, mutation⟩ := made
        obtain ⟨same, known, classKnown, name⟩ := told.known informed
        exact ⟨runtime, key, listener, listenerClass, api, rfl, same, known, classKnown, name,
          reconciles_create told.ported told.wanted mutation replied⟩
      | updateService sent =>
        obtain ⟨runtime, key, listener, listenerClass, desired, existing, rfl, told, read, mutation,
          different⟩ := made
        obtain ⟨same, known, classKnown, name⟩ := told.known informed
        obtain ⟨⟨held, described, version⟩, -⟩ := serve_updateService_ok replied
        obtain ⟨earlier, had, found⟩ := informed.recalls.stored _ _ read (by simp [Call.kind])
        have keyed : existing.metadata.key = desired.metadata.key := earlier.services.keyed found
        rw [mutateService_key mutation, keyed] at described
        rw [mutateService_version mutation] at version
        -- The stored Service has the version that was read, so it is the one that was read.
        have current : held = existing := stamped.current had found described version
        subst current
        exact ⟨runtime, key, listener, listenerClass, api, rfl, same, known, classKnown, name,
          reconciles_update told.ported told.wanted described mutation different replied⟩
      | _ => cases part
    · refine Or.inl ?_
      rw [current]
      exact (serve_sameBut api request before.current).services part

/-- What others do: anything, if a Service that they write gets a new version. -/
def Others (before after : History) : Prop :=
  ∃ next, after = before.commit next ∧ serviceVersions.Ticks before.current next

/-- What a run relies on and guarantees: nothing is forgotten, and it writes Services without a
gap. -/
def serviceRules (job : Job) : Rules History where
  invariant := serviceVersions.Stamped
  rely before after := before.Extends after
  guarantee before after := before.Extends after ∧ Atomic job before after
  rely_refl := .refl
  rely_trans := .trans

/-- Runs tolerate each other and what others do. -/
theorem serviceRules_compatible {ι : Type} (job : ι → Job) :
    Pool.Compatible (fun index => serviceRules (job index)) Others where
  shared _ _ _ stamped := stamped
  tolerated _ _ _ _ _ _ _ guaranteed := guaranteed.1
  environment_invariant := by
    rintro _ before _ stamped ⟨next, rfl, ticks⟩
    exact stamped.commit ticks
  environment_tolerated := by
    rintro _ before _ _ ⟨next, rfl, -⟩
    exact before.extends_commit next

/-- A run is safe among others. -/
theorem job_serviceSafe (job : Job) (history : History) :
    job.program.Safe cached (serviceRules job) (fun _ _ => True) history := by
  refine Program.Safe.mono (fun _ _ _ _ => trivial)
    ((job_serviceCall job).safe ?_ ?_ (Informed.nil history))
  · intro transcript before after informed extended _
    exact informed.mono extended
  · intro transcript call before reply after made stamped informed answered
    exact ⟨stamped_call stamped answered,
      ⟨cached_extends answered, atomic_call made stamped informed answered⟩,
      informed.call answered⟩

/-- The pool of runs on a cluster. -/
def Cluster.pool {ι : Type} (start : Cluster) (job : ι → Job) :
    Pool ι Call Reply Failure Unit History :=
  ⟨{ current := start }, fun index => (job index).program⟩

/-- A cluster whose Services have versions that its clock has given. -/
def Cluster.Timed (cluster : Cluster) : Prop :=
  ∀ key service, cluster.services.get key = some service →
    service.metadata.resourceVersion ≤ cluster.revision

/-- In every interleaving the runs are verified. -/
theorem serviceRules_verified {ι : Type} (job : ι → Job) {start : Cluster} (timed : start.Timed)
    {pool : Pool ι Call Reply Failure Unit History}
    (reached : Pool.Reaches cached Others (start.pool job) pool) :
    Pool.Verified cached (fun index => serviceRules (job index)) (fun _ _ _ => True) pool := by
  have verified : Pool.Verified cached (fun index => serviceRules (job index)) (fun _ _ _ => True)
      (start.pool job) :=
    ⟨fun _ => Stamping.stamped_single timed, fun index => job_serviceSafe (job index) _⟩
  exact Pool.safe_of_reaches (serviceRules_compatible job) verified reached

/-- Every call that a run makes, in every interleaving of reconciliations and publications with
reads from any version, leaves all Services, or writes the Service of a Listener as
`CreateOrUpdate` does when nothing comes between its read and its write. The run is then the
reconciliation of that Listener, and the Listener and its class were stored as they are used. -/
theorem serviceWrites_atomic {ι : Type} (job : ι → Job) (start : Cluster) (timed : start.Timed)
    (pool : Pool ι Call Reply Failure Unit History)
    (reached : Pool.Reaches cached Others (start.pool job) pool) (index : ι) (request : Call)
    (next : Reply request → Prog Unit) (waiting : pool.thread index = .call request next)
    (reply : Reply request) (after : History) (answered : cached request pool.state reply after) :
    after.current.services = pool.state.current.services ∨
      ∃ runtime listener listenerClass api,
        job index = .reconcile runtime listener.metadata.key ∧ Known pool.state listener ∧
          KnownClass pool.state listenerClass ∧
            listenerClass.metadata.name = listener.spec.className ∧
              pool.state.current.Reconciles runtime listener listenerClass api after.current := by
  have guaranteed := (serviceRules_verified job timed reached).guarantee waiting answered
  rcases guaranteed.2 with same | ⟨runtime, key, listener, listenerClass, api, own, rfl, rest⟩
  · exact Or.inl same
  · exact Or.inr ⟨runtime, listener, listenerClass, api, own, rest⟩

/-- The reconciliation of the Listener of `webCluster`. -/
def webReconcile : Job := .reconcile .standard { ns := "default", name := "web" }

/-- The identifier is unused in a cluster with `webListener`. -/
theorem webCluster_undisturbed {start : Cluster}
    (listeners : start.listeners = (webCluster .nodePort .ip).listeners) :
    Undisturbed start unmountedUid { current := start } := by
  refine .start (by decide +kernel) fun key listener stored => ?_
  rw [← start.listeners.keyed stored, listeners] at stored
  have listed := (Store.mem_values _ listener).mpr stored
  have values : (webCluster .nodePort .ip).listeners.values = [webListener] := rfl
  rw [values] at listed
  rw [List.mem_singleton.mp listed]
  decide

/-- The Service of `webCluster` is in its first version. -/
theorem webCluster_timed : (webCluster .nodePort .ip).Timed := by
  intro key service stored
  rw [← (webCluster .nodePort .ip).services.keyed stored] at stored
  have listed := (Store.mem_values _ service).mpr stored
  have values : (webCluster .nodePort .ip).services.values = [webService .nodePort] := rfl
  rw [values] at listed
  rw [List.mem_singleton.mp listed]
  exact le_refl 0

/-- A program that waits for the update of a Service. -/
def updatesService : Prog Unit → Bool
  | .call (.updateService _) _ => true
  | _ => false

/-- A program of which this is known waits so. -/
theorem updatesService_eq_true {program : Prog Unit} (waits : updatesService program = true) :
    ∃ sent next, program = .call (.updateService sent) next := by
  unfold updatesService at waits
  split at waits
  · exact ⟨_, _, rfl⟩
  · cases waits

/-- The reconciliation of `webListener` reads the Listener, its class and the Service, and waits for
the update of the Service. -/
theorem webReconcile_waits (environment : History → History → Prop) {ι : Type} (job : ι → Job)
    (index : ι) (own : job index = webReconcile) {start : Cluster}
    (undisturbed : Undisturbed start unmountedUid { current := start })
    (quiet : (webReconcile.program.advance (prompt unmountedUid) 3 { current := start }).2 =
      { current := start })
    (updates : updatesService
      (webReconcile.program.advance (prompt unmountedUid) 3 { current := start }).1 = true) :
    ∃ pool sent next, Pool.Reaches cached environment (start.pool job) pool ∧
      pool.state = { current := start } ∧
      pool.thread index =
        (webReconcile.program.advance (prompt unmountedUid) 3 { current := start }).1 ∧
      pool.thread index = .call (.updateService sent) next ∧
      ∀ other, other ≠ index → pool.thread other = (job other).program := by
  obtain ⟨pool, reached, state, thread, others, -⟩ := Pool.reaches_advance environment
    Undisturbed.prompt (start.pool job) index undisturbed 3
  have program : (start.pool job).thread index = webReconcile.program := by
    show (job index).program = _
    rw [own]
  rw [program] at state thread
  obtain ⟨sent, next, waiting⟩ := updatesService_eq_true updates
  exact ⟨pool, sent, next, reached, state.trans quiet, thread, thread.trans waiting, others⟩

/-- A reconciliation of `webCluster` that has read the Listener, its class and the Service updates
the Service it read. -/
theorem webService_atomic :
    ∃ (pool : Pool Unit Call Reply Failure Unit History) (request : Call)
      (next : Reply request → Prog Unit) (reply : Reply request) (after : History),
      Pool.Reaches cached Others ((webCluster .nodePort .ip).pool fun _ => webReconcile) pool ∧
      pool.thread () = .call request next ∧ request.part = some .services ∧
      cached request pool.state reply after ∧
      (after.current.services = pool.state.current.services ∨
        ∃ runtime listener listenerClass api,
          webReconcile = .reconcile runtime listener.metadata.key ∧ Known pool.state listener ∧
            KnownClass pool.state listenerClass ∧
              listenerClass.metadata.name = listener.spec.className ∧
                pool.state.current.Reconciles runtime listener listenerClass api after.current) := by
  have undisturbed := webCluster_undisturbed (rfl : (webCluster .nodePort .ip).listeners = _)
  obtain ⟨pool, sent, next, reached, state, -, waiting, -⟩ := webReconcile_waits Others
    (fun _ : Unit => webReconcile) () rfl undisturbed rfl (by decide +kernel)
  have answered := (Undisturbed.prompt (.updateService sent) pool.state (state ▸ undisturbed)).1
  exact ⟨pool, _, next, _, _, reached, waiting, rfl, answered, serviceWrites_atomic _ _
    webCluster_timed pool reached () _ next waiting _ _ answered⟩

/-- What a write without a gap does: it stores what the API server makes of an update of the stored
Service, or of the desired one if there is none. -/
theorem Cluster.Reconciles.stores {runtime : ControllerRuntime} {listener : Listener}
    {listenerClass : ListenerClass} {api : ApiServer} {before after : Cluster}
    (reconciles : before.Reconciles runtime listener listenerClass api after) :
    ∃ desired base sent stored, desiredService listener listenerClass = .ok desired ∧
      before.UpdatesFrom desired base ∧ mutateService runtime listener desired base = .ok sent ∧
        Stored api sent stored ∧ stored.metadata.key = listener.metadata.key ∧
          after = before.storeService stored := by
  obtain ⟨-, desired, operation, wanted, changes, ran⟩ := reconciles
  rcases @createOrUpdate_cases api before desired (mutateService runtime listener desired)
      mutateService_key mutateService_version with ⟨failure, _, _, _, failed⟩ | ⟨existing, _, _, kept⟩ |
    ⟨base, sent, stored, other, _, based, mutation, admitted, wrote⟩
  · rw [failed] at ran
    cases ran
  · rw [kept] at ran
    cases ran
    exact absurd rfl changes
  · rw [wrote] at ran
    obtain rfl := (Prod.mk.inj ran).2
    have key : stored.metadata.key = listener.metadata.key := by
      rw [admitted.key, mutateService_key mutation, ← desiredService_key wanted]
      rcases based with present | ⟨-, rfl⟩
      · exact before.services.keyed present
      · rfl
    exact ⟨desired, base, sent, stored, wanted, based, mutation, admitted, key, rfl⟩

/-- Lookup after a Service was stored. -/
theorem Cluster.storeService_get (cluster : Cluster) (stored : Service) (key : ObjectKey) :
    (cluster.storeService stored).services.get key =
      if key = stored.metadata.key then some stored else cluster.services.get key :=
  Store.get_insert _ _ _

/-- A Service whose controller is not the Listener of its name. -/
def Service.Foreign (service : Service) : Prop :=
  ∃ reference ∈ service.metadata.ownerReferences, reference.controller = true ∧
    ¬ (reference.kind = "Listener" ∧ reference.name = service.metadata.name)

/-- A write without a gap leaves a Service that another object controls. -/
theorem Cluster.Reconciles.foreign {runtime : ControllerRuntime} {listener : Listener}
    {listenerClass : ListenerClass} {api : ApiServer} {before after : Cluster}
    (reconciles : before.Reconciles runtime listener listenerClass api after) {key : ObjectKey}
    {service : Service} (stored : before.services.get key = some service)
    (foreign : service.Foreign) : after.services.get key = some service := by
  obtain ⟨desired, base, sent, written, wanted, based, mutation, admitted, own, rfl⟩ :=
    reconciles.stores
  have keyed : service.metadata.key = key := before.services.keyed stored
  by_cases same : key = written.metadata.key
  · have held : before.services.get desired.metadata.key = some service := by
      rw [desiredService_key wanted, ← own, ← same]
      exact stored
    have name : listener.metadata.name = service.metadata.name := by
      have equal : listener.metadata.key = service.metadata.key := by rw [← own, ← same, keyed]
      exact congrArg ObjectKey.name equal
    obtain rfl : base = service := by
      rcases based with present | ⟨absent, -⟩
      · exact Option.some.inj (present.symm.trans held)
      · rw [held] at absent
        cases absent
    -- The update asks for the reference of the Listener, which is refused.
    obtain ⟨reference, listed, controller, other⟩ := foreign
    have elsewhere : reference.ControlledByOther "Listener" listener.metadata :=
      ⟨controller, by rw [name]; exact other⟩
    obtain ⟨failure, refused⟩ := runtime.refuses ⟨reference, listed, elsewhere⟩
    obtain ⟨references, set, -⟩ := mutateService_ok mutation
    rw [refused] at set
    cases set
  · rw [Cluster.storeService_get, if_neg same]
    exact stored

/-- No call of any run, in any interleaving and with reads from any version, changes a Service that
is controlled by another object than the Listener of its name. -/
theorem foreignServices_kept {ι : Type} (job : ι → Job) (start : Cluster) (timed : start.Timed)
    (pool : Pool ι Call Reply Failure Unit History)
    (reached : Pool.Reaches cached Others (start.pool job) pool) (index : ι) (request : Call)
    (next : Reply request → Prog Unit) (waiting : pool.thread index = .call request next)
    (reply : Reply request) (after : History) (answered : cached request pool.state reply after)
    (key : ObjectKey) (service : Service)
    (stored : pool.state.current.services.get key = some service) (foreign : service.Foreign) :
    after.current.services.get key = some service := by
  have guaranteed := (serviceRules_verified job timed reached).guarantee waiting answered
  rcases guaranteed.2 with same | ⟨runtime, _, listener, listenerClass, api, -, -, -, -, -,
    reconciles⟩
  · rw [same]
    exact stored
  · exact reconciles.foreign stored foreign

/-- A Service of another owner under the name of `webListener`, in the second version. -/
def takenService : Service := { webService .nodePort with metadata := {
  (webService .nodePort).metadata with
    resourceVersion := 1
    ownerReferences := [{ kind := "Gateway", name := "web", uid := "", controller := true }] } }

/-- Another owner takes the Service that a reconciliation of `webCluster` has read. Whatever becomes
of the update that the reconciliation sends then, the Service is kept. -/
theorem takenService_kept :
    ∃ (pool : Pool Unit Call Reply Failure Unit History) (sent : Service)
      (next : Reply (.updateService sent) → Prog Unit),
      Pool.Reaches cached Others ((webCluster .nodePort .ip).pool fun _ => webReconcile) pool ∧
      pool.thread () = .call (.updateService sent) next ∧
      pool.state.current.services.get { ns := "default", name := "web" } = some takenService ∧
      ∀ reply after, cached (.updateService sent) pool.state reply after →
        after.current.services.get { ns := "default", name := "web" } = some takenService := by
  obtain ⟨pool, sent, next, reached, state, -, waiting, -⟩ := webReconcile_waits Others
    (fun _ : Unit => webReconcile) () rfl (webCluster_undisturbed rfl) rfl (by decide +kernel)
  have taken : Others pool.state
      (pool.state.commit (pool.state.current.storeService takenService)) := by
    refine ⟨_, rfl, serviceVersions_ticks_insert rfl rfl ?_⟩
    rw [state]
    rfl
  have onward := reached.tail (.environment pool _ taken)
  have stored : (pool.state.current.storeService takenService).services.get
      { ns := "default", name := "web" } = some takenService := by
    rw [Cluster.storeService_get]
    rfl
  have foreign : takenService.Foreign := ⟨_, List.mem_cons_self, rfl, by decide⟩
  exact ⟨_, sent, next, onward, waiting, stored, fun reply after answered =>
    foreignServices_kept _ _ webCluster_timed _ onward () _ next waiting reply after answered _ _
      stored foreign⟩

/-- The node port that a stored Service has for a name and a protocol. -/
def Cluster.nodePort (cluster : Cluster) (key : ObjectKey) (name protocol : String) : Option Int := do
  let service ← cluster.services.get key
  let port ← service.spec.ports.find? (ServicePort.isNamed name protocol)
  return port.nodePort

/-- A Listener has a port of a name and a protocol, and a class is one of Services with node
ports. -/
structure Listener.Names (listener : Listener) (listenerClass : ListenerClass)
    (name protocol : String) : Prop where
  port : ∃ port ∈ servicePorts listener, port.name = name ∧ port.protocol = protocol
  type : ∃ type, listenerClass.spec.serviceType = some type ∧ type.hasNodePorts = true

/-- Every version of the Listener of a key, with every version of its class, has a port of a name
and a protocol. -/
def AlwaysNames (history : History) (key : ObjectKey) (name protocol : String) : Prop :=
  ∀ listener listenerClass, Known history listener → listener.metadata.key = key →
    KnownClass history listenerClass → listenerClass.metadata.name = listener.spec.className →
      listener.Names listenerClass name protocol

/-- What all versions have, the earlier ones have. -/
theorem AlwaysNames.earlier {before after : History} {key : ObjectKey} {name protocol : String}
    (names : AlwaysNames after key name protocol) (extended : before.Extends after) :
    AlwaysNames before key name protocol :=
  fun listener listenerClass known mine classKnown className =>
    names listener listenerClass (known.mono extended) mine (classKnown.mono extended) className

/-- A write without a gap keeps a node port that is set, if the Listener has its name and protocol
and the class is one of Services with node ports. -/
theorem Cluster.Reconciles.nodePort {runtime : ControllerRuntime} {listener : Listener}
    {listenerClass : ListenerClass} {api : ApiServer} {before after : Cluster}
    (reconciles : before.Reconciles runtime listener listenerClass api after) {key : ObjectKey}
    {name protocol : String} {number : Int} (set : number ≠ 0)
    (names : listener.metadata.key = key → listener.Names listenerClass name protocol)
    (held : before.nodePort key name protocol = some number) :
    after.nodePort key name protocol = some number := by
  obtain ⟨desired, base, sent, stored, wanted, based, mutation, admitted, own, rfl⟩ :=
    reconciles.stores
  by_cases same : key = stored.metadata.key
  · have mine : listener.metadata.key = key := by rw [same, own]
    simp only [Cluster.nodePort, Option.bind_eq_bind, Option.bind_eq_some_iff, Option.pure_def,
      Option.some.injEq] at held
    obtain ⟨current, present, port, first, rfl⟩ := held
    obtain rfl : base = current := by
      rw [Cluster.UpdatesFrom, desiredService_key wanted, mine] at based
      rcases based with found | ⟨absent, -⟩
      · exact Option.some.inj (found.symm.trans present)
      · rw [present] at absent
        cases absent
    obtain ⟨type, found, spec⟩ := desiredService_spec wanted
    obtain ⟨wantedName, other, otherFound, ported⟩ := names mine
    obtain rfl := Option.some.inj (found.symm.trans otherFound)
    obtain ⟨references, -, rfl⟩ := mutateService_ok mutation
    have desiredTyped : desired.spec.type.hasNodePorts = true := by
      rw [spec]
      exact ported
    have wantedPort : ∃ port ∈ desired.spec.ports, port.name = name ∧ port.protocol = protocol := by
      rw [spec]
      exact wantedName
    obtain ⟨sentPort, sentFound, sentSame⟩ := find?_mutateSpec desiredTyped wantedPort first
    obtain ⟨kept, keptFound, keptSame⟩ := find?_stored (api.normalises admitted.admitted) sentFound
      (by rw [sentSame]; exact set)
    have lookup : (before.storeService stored).services.get key = some stored := by
      rw [Cluster.storeService_get, if_pos same]
    simp only [Cluster.nodePort, lookup, Option.bind_eq_bind, Option.bind_some, keptFound,
      Option.pure_def, keptSame, sentSame]
  · rw [Cluster.nodePort, Cluster.storeService_get, if_neg same]
    exact held

/-- What others do that leaves a node port. -/
def OthersKeeping (key : ObjectKey) (name protocol : String) (before after : History) : Prop :=
  Others before after ∧
    after.current.nodePort key name protocol = before.current.nodePort key name protocol

/-- In every interleaving of reconciliations and publications, with reads from any version, a node
port that is set, from the start or by an allocation in between, stays what it is from then on, as
long as others leave it and every version of the Listener has its name and protocol and a class of
Services with node ports. -/
theorem nodePort_kept {ι : Type} (job : ι → Job) (start : Cluster) (timed : start.Timed)
    (key : ObjectKey) (name protocol : String) (number : Int) (set : number ≠ 0)
    (earlier pool : Pool ι Call Reply Failure Unit History)
    (begun : Pool.Reaches cached Others (start.pool job) earlier)
    (held : earlier.state.current.nodePort key name protocol = some number)
    (reached : Pool.Reaches cached (OthersKeeping key name protocol) earlier pool)
    (names : AlwaysNames pool.state key name protocol) :
    pool.state.current.nodePort key name protocol = some number := by
  induction reached with
  | refl => exact held
  | @tail middle after before step ih =>
    have wider : Pool.Reaches cached Others (start.pool job) middle :=
      begun.trans (Pool.Reaches.mono (fun _ _ keeping => keeping.1) before)
    cases step with
    | thread index request next reply state waiting answered =>
      have extended := cached_extends answered
      have named := names.earlier extended
      have kept := ih named
      have guaranteed := (serviceRules_verified job timed wider).guarantee waiting answered
      rcases guaranteed.2 with same | ⟨runtime, _, listener, listenerClass, api, -, -, known,
        classKnown, className, reconciles⟩
      · show Cluster.nodePort state.current key name protocol = some number
        rw [Cluster.nodePort, same]
        exact kept
      · exact reconciles.nodePort set
          (fun mine => named listener listenerClass known mine classKnown className) kept
    | environment state moves =>
      obtain ⟨⟨next, rfl, -⟩, keeps⟩ := moves
      have extended := middle.state.extends_commit next
      exact keeps.trans (ih (names.earlier extended))

/-- `webCluster` with the Service that an earlier class asked for, which has no node ports. -/
def unallocatedCluster : Cluster :=
  { webCluster .nodePort .ip with services := .ofList [webService .clusterIP] }

/-- Where no Listener and no class was written, the port of `webListener` is always there. -/
theorem unallocatedCluster_names {history : History}
    (undisturbed : Undisturbed unallocatedCluster unmountedUid history) :
    AlwaysNames history { ns := "default", name := "web" } "http" "TCP" := by
  rintro listener listenerClass ⟨version, had, stored⟩ - ⟨other, otherHad, classed⟩ -
  rw [undisturbed.listeners version had] at stored
  rw [undisturbed.classes other otherHad] at classed
  have listed := (Store.mem_values _ listener).mpr stored
  have classListed := (Store.mem_values _ listenerClass).mpr classed
  have values : unallocatedCluster.listeners.values = [webListener] := rfl
  have classValues : unallocatedCluster.listenerClasses.values = [webClass .nodePort .ip] := rfl
  rw [values] at listed
  rw [classValues] at classListed
  rw [List.mem_singleton.mp listed, List.mem_singleton.mp classListed]
  exact ⟨⟨_, List.mem_cons_self, rfl, rfl⟩, .nodePort, rfl, rfl⟩

/-- Two reconciliations of `webListener` read the Service before it has a node port. One of them
updates it and a node port is allocated. The other one sends its own update then, which is refused,
and the node port is kept. -/
theorem webNodePort_kept :
    ∃ earlier pool : Pool Bool Call Reply Failure Unit History,
      unallocatedCluster.nodePort { ns := "default", name := "web" } "http" "TCP" = some 0 ∧
      Pool.Reaches cached Others (unallocatedCluster.pool fun _ => webReconcile) earlier ∧
      (∃ sent next, earlier.thread true = .call (.updateService sent) next) ∧
      Pool.Reaches cached (OthersKeeping { ns := "default", name := "web" } "http" "TCP")
        earlier pool ∧
      (∃ failure, pool.thread true = .done (.error failure)) ∧
      pool.state.current.nodePort { ns := "default", name := "web" } "http" "TCP" = some 30000 := by
  have timed : unallocatedCluster.Timed := by
    intro key service stored
    rw [← unallocatedCluster.services.keyed stored] at stored
    have listed := (Store.mem_values _ service).mpr stored
    have values : unallocatedCluster.services.values = [webService .clusterIP] := rfl
    rw [values] at listed
    rw [List.mem_singleton.mp listed]
    exact le_refl 0
  have undisturbed := webCluster_undisturbed (rfl : unallocatedCluster.listeners = _)
  obtain ⟨first, sent, next, started, begins, remains, waiting, others⟩ := webReconcile_waits Others
    (fun _ : Bool => webReconcile) true rfl undisturbed rfl (by decide +kernel)
  obtain ⟨earlier, continued, ends, -, late, still⟩ := Pool.reaches_run Others Undisturbed.prompt
    first false (begins ▸ undisturbed)
  rw [others false (by decide), begins] at ends
  have waits := late true (by decide)
  obtain ⟨pool, reached, -, outcome, -, last⟩ := Pool.reaches_run
    (OthersKeeping { ns := "default", name := "web" } "http" "TCP") Undisturbed.prompt earlier true
    still
  rw [waits, remains, ends] at outcome
  have allocated : Cluster.nodePort (webReconcile.program.run (prompt unmountedUid)
      { current := unallocatedCluster }).2.current { ns := "default", name := "web" } "http" "TCP" =
        some 30000 := by decide +kernel
  have refused : (((webReconcile.program.advance (prompt unmountedUid) 3
      { current := unallocatedCluster }).1.run (prompt unmountedUid)
        (webReconcile.program.run (prompt unmountedUid)
          { current := unallocatedCluster }).2).1).isOk = false := by decide +kernel
  have held : earlier.state.current.nodePort { ns := "default", name := "web" } "http" "TCP" =
      some 30000 := by
    rw [ends]
    exact allocated
  have failed : ∃ failure, pool.thread true = .done (.error failure) := by
    rw [outcome]
    cases result : ((webReconcile.program.advance (prompt unmountedUid) 3
        { current := unallocatedCluster }).1.run (prompt unmountedUid)
          (webReconcile.program.run (prompt unmountedUid)
            { current := unallocatedCluster }).2).1 with
    | error failure => exact ⟨failure, rfl⟩
    | ok value =>
      rw [result] at refused
      cases refused
  exact ⟨earlier, pool, by decide +kernel, started.trans continued,
    ⟨sent, next, waits.trans waiting⟩, reached, failed, nodePort_kept _ _ timed _ _ _ 30000 (by decide) earlier pool
      (started.trans continued) held reached
      (unallocatedCluster_names last)⟩

end ListenerOperator
