import ListenerOperator.Base.Alone
import ListenerOperator.Verif.Labels
import ListenerOperator.Verif.Provenance

/-!
# What runs leave alone

The controller and the node plugin share the cluster with everybody else. In every interleaving, and
however late their reads are, each call of a run stays within the footprint of the run. The
reconciliation of a Listener changes its Service and its status. A publication creates a Listener,
labels the pod and the volume that it is for, and adds to the PodListeners of the pod. Nothing is
deleted, the specification of no Listener and no pod is changed, and no label of others.
-/

namespace ListenerOperator

open Interaction Versioned MergePatch Keyed

/-- Metadata that differ in the labels of some keys and in the version only. -/
structure ObjectMeta.Relabelled (owned : String → Prop) (before after : ObjectMeta) : Prop where
  frame : after = { before with labels := after.labels, resourceVersion := after.resourceVersion }
  labels : ∀ label, ¬ owned label → after.labels[label]? = before.labels[label]?

/-- Metadata keep themselves. -/
theorem ObjectMeta.Relabelled.refl (owned : String → Prop) (metadata : ObjectMeta) :
    metadata.Relabelled owned metadata := ⟨rfl, fun _ _ => rfl⟩

/-- The labels of a volume that name its Listener. -/
def NamesListener (label : String) : Prop :=
  label = labelListenerName ∨ label = labelListenerNamespace

/-- A Listener that differs in its status and its version only. -/
structure Listener.Kept (before after : Listener) : Prop where
  spec : after.spec = before.spec
  metadata : after.metadata =
    { before.metadata with resourceVersion := after.metadata.resourceVersion }

/-- A pod that differs in its mount labels only. -/
structure Pod.Kept (before after : Pod) : Prop where
  spec : after.spec = before.spec
  metadata : before.metadata.Relabelled UsesMountPrefix after.metadata

/-- A volume that differs in the labels that name its Listener only. -/
structure PersistentVolume.Kept (before after : PersistentVolume) : Prop where
  claimRef : after.claimRef = before.claimRef
  metadata : before.metadata.Relabelled NamesListener after.metadata

/-- A PodListeners object that has at least the volumes it had. -/
structure PodListeners.Kept (before after : PodListeners) : Prop where
  metadata : after.metadata =
    { before.metadata with resourceVersion := after.metadata.resourceVersion }
  volumes : KeysKept before.listeners after.listeners

/-- A Service that differs in its owners, its specification and its version only. -/
structure Service.Kept (before after : Service) : Prop where
  metadata : after.metadata = { before.metadata with
    ownerReferences := after.metadata.ownerReferences
    resourceVersion := after.metadata.resourceVersion }
  loadBalancerIngress : after.loadBalancerIngress = before.loadBalancerIngress

/-- The run is a reconciliation of the Listener. -/
def Job.Reconciles (job : Job) (key : ObjectKey) : Prop := ∃ runtime, job = .reconcile runtime key

/-- The run is a publication. -/
def Job.Publishes (job : Job) (request : NodePublishVolumeRequest) : Prop :=
  ∃ n, job = .publish n request

/-- The run is a publication, and the key is that of the PodListeners object of its pod, as the pod
was in some version. -/
def Job.Lists (job : Job) (history : History) (key : ObjectKey) : Prop :=
  ∃ request version pod volumeName, job.Publishes request ∧ history.Has version ∧
    version.pods.get request.podKey = some pod ∧ (pod.slot volumeName).podListeners = key

/-- What a call of a run may change: the Service and the status of the Listener that is reconciled;
for a publication, it may create one Listener, change the labels of the pod and of the volume that
it is for, and change one entry in the PodListeners object of that pod, which it may create. -/
structure Job.Footprint (job : Job) (before after : History) : Prop where
  fixed : after.current.listenerClasses = before.current.listenerClasses ∧
    after.current.nodes = before.current.nodes ∧ after.current.pvcs = before.current.pvcs ∧
      after.current.endpointSlices = before.current.endpointSlices
  listeners : ∃ created, Store.ChangesWithin job.Reconciles
    (fun key => key = created ∧ ∃ request, job.Publishes request)
    Listener.Kept before.current.listeners after.current.listeners
  services : Store.ChangesWithin job.Reconciles job.Reconciles Service.Kept
    before.current.services after.current.services
  pods : Store.ChangesWithin (fun key => ∃ request, job.Publishes request ∧ request.podKey = key)
    (fun _ => False) Pod.Kept before.current.pods after.current.pods
  pvs : Store.ChangesWithin (fun name => ∃ request, job.Publishes request ∧ request.volumeId = name)
    (fun _ => False) PersistentVolume.Kept before.current.pvs after.current.pvs
  podListeners : ∃ slot : Slot,
    Store.ChangesWithin (fun key => key = slot.podListeners ∧ job.Lists before key)
      (fun key => key = slot.podListeners ∧ job.Lists before key)
      PodListeners.Kept before.current.podListeners after.current.podListeners ∧
    ∀ other, other ≠ slot → after.current.entry other = before.current.entry other

/-- The calls of a reconciliation, after the given ones. -/
def StatusCall (key : ObjectKey) (transcript : Transcript) : Call → Prop
  | .updateListenerStatus sent => ∃ listener current status,
    Answered transcript (.getListener key) listener ∧
      Answered transcript (.getListener listener.metadata.key) current ∧
        sent = { current with status }
  | call => call.kind = .read ∨ call.part = some .services

/-- The calls of a run, after the given ones. -/
structure JobCall (job : Job) (transcript : Transcript) (call : Call) : Prop where
  services : ServiceCall job transcript call
  reconciles : ∀ runtime key, job = .reconcile runtime key → StatusCall key transcript call
  publishes : ∀ n request, job = .publish n request →
    call.kind = .file ∨ ObjectCall request transcript call

/-- Reads and writes of Services are calls of a reconciliation. -/
theorem statusCall_of_kind {key : ObjectKey} {transcript : Transcript} {call : Call}
    (made : call.kind = .read ∨ call.part = some .services) : StatusCall key transcript call := by
  cases call with
  | updateListenerStatus sent =>
    rcases made with reads | services
    · cases reads
    · cases services
  | _ => exact made

/-- A reconciliation makes such calls. -/
theorem reconcile_statusCall (runtime : ControllerRuntime) (key : ObjectKey) :
    (reconcile runtime key).Follows (StatusCall key) (fun _ _ => True) [] := by
  refine ⟨Or.inl rfl, fun reply => ?_⟩
  cases reply with
  | error failure =>
    dsimp only
    split <;> trivial
  | ok listener =>
    have read : Answered [⟨.getListener key, .ok listener⟩] (.getListener key) listener :=
      List.mem_cons_self
    refine ((createService_ensures runtime listener).follows
      (fun _ _ made => statusCall_of_kind made) _).bind fun later result continues _ => ?_
    split
    · trivial
    · have written : (updateListenerStatus listener).Follows (StatusCall key) (fun _ _ => True)
          later := by
        refine ((listenerStatus_ensures listener).follows
          (fun _ _ reads => statusCall_of_kind (Or.inl reads)) later).bind
            fun middle status onward _ => ?_
        refine retryOnConflict_follows (fun last further => ?_) _
        have again : (ask (.getListener listener.metadata.key)).Follows (StatusCall key)
            (fun after current =>
              after = ⟨.getListener listener.metadata.key, .ok current⟩ :: last) last :=
          follows_ask (Or.inl rfl)
        refine again.bind ?_
        rintro _ current - rfl
        have told := (continues.trans (onward.trans further)).subset read
        have allowed : StatusCall key (⟨.getListener listener.metadata.key, .ok current⟩ :: last)
            (.updateListenerStatus { current with status }) :=
          ⟨listener, current, status, List.mem_cons_of_mem _ told, List.mem_cons_self, rfl⟩
        exact (follows_ask allowed).bind fun _ _ _ _ => trivial
      exact written.bind fun _ _ _ _ => trivial

/-- Runs make such calls. -/
theorem job_jobCall (job : Job) :
    job.program.Follows (JobCall job) (fun _ _ => True) [] := by
  cases job with
  | publish n request =>
    have objects : (Job.publish n request).program.Follows
        (fun transcript call => call.kind = .file ∨ ObjectCall request transcript call)
        (fun _ _ => True) [] := (nodePublishVolume_follows n request).bind fun _ _ _ _ => trivial
    refine ((objects.and (job_serviceCall (.publish n request))).weaken ?_).mono
      fun _ _ _ => trivial
    intro transcript call made
    refine ⟨made.2, fun _ _ same => (by cases same), fun _ _ same => ?_⟩
    cases same
    exact made.1
  | reconcile runtime key =>
    have statuses : (Job.reconcile runtime key).program.Follows (StatusCall key)
        (fun _ _ => True) [] := (reconcile_statusCall runtime key).bind fun _ _ _ _ => trivial
    refine ((statuses.and (job_serviceCall (.reconcile runtime key))).weaken ?_).mono
      fun _ _ _ => trivial
    intro transcript call made
    refine ⟨made.2, fun _ _ same => ?_, fun _ _ same => (by cases same)⟩
    cases same
    exact made.1

/-- Reconciliations write Services and Listeners only. -/
theorem StatusCall.part {key : ObjectKey} {transcript : Transcript} {call : Call}
    (made : StatusCall key transcript call) (other : call.part ≠ some .services)
    (another : call.part ≠ some .listeners) : call.part = none := by
  cases call with
  | updateListenerStatus sent => exact absurd rfl another
  | _ =>
    rcases made with reads | services
    · first | rfl | cases reads
    · exact absurd services other

/-- What is neither a Service nor a Listener is written by publications. -/
theorem JobCall.objects {job : Job} {transcript : Transcript} {call : Call} {part : Part}
    (made : JobCall job transcript call) (writes : call.part = some part)
    (other : part ≠ .services) (another : part ≠ .listeners) :
    ∃ request, job.Publishes request ∧ ObjectCall request transcript call := by
  cases job with
  | publish n request =>
    have kind : call.kind = .write := by cases call <;> first | rfl | cases writes
    have objects : call.kind ≠ .file := by
      rw [kind]
      simp
    exact ⟨request, ⟨n, rfl⟩, (made.publishes n request rfl).resolve_left objects⟩
  | reconcile runtime key =>
    have none := (made.reconciles runtime key rfl).part
      (fun same => other (Option.some.inj (writes.symm.trans same)))
      (fun same => another (Option.some.inj (writes.symm.trans same)))
    cases writes.symm.trans none

section Stores

variable {api : ApiServer} {cluster : Cluster}

/-- A patch that leaves the labels of others leaves them. -/
theorem Cluster.relabel_relabelled {owned : String → Prop} {original modified : ObjectMeta}
    (outside : ∀ label, ¬ owned label → original.labels[label]? = modified.labels[label]?)
    (current : ObjectMeta) :
    current.Relabelled owned (cluster.relabel original modified current) := by
  refine ⟨cluster.relabel_frame original modified current, fun label foreign => ?_⟩
  rw [Cluster.relabel_labels]
  exact merge_diff_get_of_eq _ (outside label foreign) _

/-- A Listener keeps itself. -/
theorem Listener.Kept.refl (listener : Listener) : listener.Kept listener := ⟨rfl, rfl⟩

/-- A Service keeps itself. -/
theorem Service.Kept.refl (service : Service) : service.Kept service := ⟨rfl, rfl⟩

/-- A pod keeps itself. -/
theorem Pod.Kept.refl (pod : Pod) : pod.Kept pod := ⟨rfl, .refl _ _⟩

/-- A volume keeps itself. -/
theorem PersistentVolume.Kept.refl (pv : PersistentVolume) : pv.Kept pv := ⟨rfl, .refl _ _⟩

/-- A PodListeners object keeps itself. -/
theorem PodListeners.Kept.refl (object : PodListeners) : object.Kept object :=
  ⟨rfl, fun _ present => present⟩

/-- A patch of a pod that changes its mount labels only. -/
theorem serve_patchPod_within {keys created : ObjectKey → Prop} {original modified : Pod}
    (here : keys modified.metadata.key)
    (outside : ∀ label, ¬ UsesMountPrefix label →
      original.metadata.labels[label]? = modified.metadata.labels[label]?) :
    Store.ChangesWithin keys created Pod.Kept cluster.pods
      (serve api (.patchPod original modified) cluster).2.pods := by
  cases held : cluster.pods.get modified.metadata.key with
  | none =>
    simp only [serve, held]
    exact .refl Pod.Kept.refl _
  | some current =>
    have keyed := cluster.pods.keyed held
    simp only [serve, held]
    apply Store.changesWithin_replace Pod.Kept.refl
    · rw [Cluster.relabel_key, keyed]
      exact held
    · rw [Cluster.relabel_key, keyed]
      exact here
    · exact ⟨rfl, Cluster.relabel_relabelled outside _⟩

/-- A patch of a volume that changes the labels that name its Listener only. -/
theorem serve_patchPV_within {keys created : String → Prop} {original modified : PersistentVolume}
    (here : keys modified.metadata.name)
    (outside : ∀ label, ¬ NamesListener label →
      original.metadata.labels[label]? = modified.metadata.labels[label]?) :
    Store.ChangesWithin keys created PersistentVolume.Kept cluster.pvs
      (serve api (.patchPV original modified) cluster).2.pvs := by
  cases held : cluster.pvs.get modified.metadata.name with
  | none =>
    simp only [serve, held]
    exact .refl PersistentVolume.Kept.refl _
  | some current =>
    have name : (cluster.relabel original.metadata modified.metadata current.metadata).name =
        modified.metadata.name :=
      (congrArg ObjectKey.name (cluster.relabel_key _ _ _)).trans (cluster.pvs.keyed held)
    simp only [serve, held]
    apply Store.changesWithin_replace PersistentVolume.Kept.refl
    · rw [name]
      exact held
    · rw [name]
      exact here
    · exact ⟨rfl, Cluster.relabel_relabelled outside _⟩

/-- A patch with an entry that is set removes none. -/
theorem keysKept_merge {original modified : StringMap PodListener}
    (more : KeysKept original modified) (stored : StringMap PodListener) :
    KeysKept stored (merge podListenerPatch (diff podListenerPatch original modified) stored) := by
  intro name present
  rw [merge_get, diff_get]
  cases after : modified[name]? with
  | none =>
    cases before : original[name]? with
    | none => exact present
    | some first =>
      have kept := more name (by rw [before]; rfl)
      rw [after] at kept
      cases kept
  | some second =>
    cases before : original[name]? with
    | none => simp [podListenerPatch.merge_full]
    | some first =>
      cases differs : podListenerPatch.diff first second with
      | none => simpa only [differs, Option.map_none] using present
      | some patch =>
        obtain ⟨current, held⟩ := Option.isSome_iff_exists.mp present
        simp only [differs, Option.map_some, held]
        rfl

/-- A patch of a PodListeners object changes its entries and its version only. -/
theorem Cluster.relist_frame (cluster : Cluster)
    (patch : StringMap (MergePatch.Change PodListenerPatch))
    (current : PodListeners) :
    (cluster.relist patch current).metadata = { current.metadata with
        resourceVersion := (cluster.relist patch current).metadata.resourceVersion } ∧
      (cluster.relist patch current).listeners =
        merge podListenerPatch patch current.listeners := by
  rw [Cluster.relist]
  dsimp only
  split
  · rename_i same
    exact ⟨rfl, same.symm⟩
  · exact ⟨rfl, rfl⟩

/-- A patch of a PodListeners object that sets one entry only. -/
theorem serve_patchPodListeners_within {keys created : ObjectKey → Prop} {existing : PodListeners}
    {volumeName : String} {entry : PodListener} (here : keys existing.metadata.key) :
    Store.ChangesWithin keys created PodListeners.Kept cluster.podListeners
      (serve api (.patchPodListeners existing { existing with
        listeners := existing.listeners.insert volumeName entry }) cluster).2.podListeners := by
  cases held : cluster.podListeners.get existing.metadata.key with
  | none =>
    simp only [serve, held]
    exact .refl PodListeners.Kept.refl _
  | some current =>
    simp only [serve, held]
    split
    · exact .refl PodListeners.Kept.refl _
    · obtain ⟨metadata, listeners⟩ := cluster.relist_frame (diff podListenerPatch
        existing.listeners (existing.listeners.insert volumeName entry)) current
      have key : (cluster.relist (diff podListenerPatch existing.listeners
          (existing.listeners.insert volumeName entry)) current).metadata.key =
            existing.metadata.key := by
        rw [metadata]
        exact cluster.podListeners.keyed held
      apply Store.changesWithin_replace PodListeners.Kept.refl
      · rw [key]
        exact held
      · rw [key]
        exact here
      · refine ⟨metadata, ?_⟩
        rw [listeners]
        refine keysKept_merge (fun name present => ?_) _
        rw [StringMap.get_insert]
        split
        · rfl
        · exact present

/-- A patch of one entry leaves the others. -/
theorem serve_patchPodListeners_others {existing stored : PodListeners} {slot : Slot}
    {entry : PodListener} (own : existing.metadata.key = slot.podListeners)
    (replied : (serve api (.patchPodListeners existing { existing with
      listeners := existing.listeners.insert slot.volumeName entry }) cluster).1 = .ok stored)
    {other : Slot} (different : other ≠ slot) :
    (serve api (.patchPodListeners existing { existing with
      listeners := existing.listeners.insert slot.volumeName entry }) cluster).2.entry other =
        cluster.entry other := by
  obtain ⟨old, held, key, listeners, inserted⟩ := serve_patchPodListeners replied
  have keyed : stored.metadata.key = slot.podListeners :=
    key.trans ((cluster.podListeners.keyed held).trans own)
  rw [entry_insert inserted]
  split
  · rename_i same
    have volume := Slot.volumeName_ne different (same.trans keyed)
    have found : cluster.podListeners.get other.podListeners = some old := by
      rw [same, keyed, ← own]
      exact held
    rw [Cluster.entry, found, listeners]
    refine merge_diff_get_of_eq _ ?_ _
    rw [StringMap.get_insert, if_neg volume]
  · rfl

/-- A created PodListeners object is a new one. -/
theorem serve_createPodListeners_within {edited keys : ObjectKey → Prop} {sent : PodListeners}
    (here : keys sent.metadata.key) :
    Store.ChangesWithin edited keys PodListeners.Kept cluster.podListeners
      (serve api (.createPodListeners sent) cluster).2.podListeners := by
  cases held : cluster.podListeners.get sent.metadata.key with
  | some other =>
    simp only [serve, held]
    exact .refl PodListeners.Kept.refl _
  | none =>
    simp only [serve, held]
    exact Store.changesWithin_create PodListeners.Kept.refl _ held here

/-- A created Listener is a new one. -/
theorem serve_createListener_within {edited keys : ObjectKey → Prop} {sent : Listener}
    (here : keys sent.metadata.key) :
    Store.ChangesWithin edited keys Listener.Kept cluster.listeners
      (serve api (.createListener sent) cluster).2.listeners := by
  cases held : cluster.listeners.get sent.metadata.key with
  | some other =>
    simp only [serve, held]
    exact .refl Listener.Kept.refl _
  | none =>
    simp only [serve, held]
    exact Store.changesWithin_create Listener.Kept.refl _ held here

/-- A write of a status changes that Listener only. -/
theorem serve_updateListenerStatus_within {keys created : ObjectKey → Prop} {sent : Listener}
    (here : keys sent.metadata.key) :
    Store.ChangesWithin keys created Listener.Kept cluster.listeners
      (serve api (.updateListenerStatus sent) cluster).2.listeners := by
  cases held : cluster.listeners.get sent.metadata.key with
  | none =>
    simp only [serve, held]
    exact .refl Listener.Kept.refl _
  | some current =>
    have keyed : current.metadata.key = sent.metadata.key := cluster.listeners.keyed held
    simp only [serve, held, Cluster.storeStatus]
    repeat' split
    · exact .refl Listener.Kept.refl _
    · exact .refl Listener.Kept.refl _
    · rw [← keyed] at held here
      exact Store.changesWithin_replace Listener.Kept.refl _ held here ⟨rfl, rfl⟩

/-- A created Service has the key that was sent. -/
theorem serve_createService_key {sent stored : Service}
    (replied : (serve api (.createService sent) cluster).1 = .ok stored) :
    stored.metadata.key = sent.metadata.key := by
  cases described : cluster.services.get sent.metadata.key with
  | some other => simp [serve, described] at replied
  | none =>
    cases admitted : api.admitService sent with
    | error failure => simp [serve, described, admitted] at replied
    | ok spec =>
      simp only [serve, described, admitted, Except.ok.injEq] at replied
      subst replied
      rfl

/-- An updated Service has the metadata that were sent, up to the version. -/
theorem serve_updateService_frame {sent stored : Service}
    (replied : (serve api (.updateService sent) cluster).1 = .ok stored) :
    stored.metadata = { sent.metadata with
        resourceVersion := stored.metadata.resourceVersion } ∧
      stored.loadBalancerIngress = sent.loadBalancerIngress := by
  obtain ⟨⟨held, described, same⟩, -⟩ := serve_updateService_ok replied
  cases admitted : api.admitService sent with
  | error failure => simp [serve, described, same, admitted] at replied
  | ok spec =>
    simp only [serve, described, same, admitted, ne_eq, not_true_eq_false, ↓reduceIte,
      Except.ok.injEq] at replied
    subst replied
    exact ⟨rfl, rfl⟩

end Stores

section Step

variable {job : Job} {transcript : Transcript} {before : History} {call : Call}

/-- A Listener that was read has the key that was asked for. -/
theorem Recalls.listener_key {history : History} (recalls : Recalls transcript history)
    {key : ObjectKey} {listener : Listener}
    (answered : Answered transcript (.getListener key) listener) : listener.metadata.key = key := by
  obtain ⟨version, -, stored⟩ := recalls.stored _ _ answered (by simp [Call.kind])
  have found : version.listeners.get key = some listener := stored
  exact version.listeners.keyed found

/-- A run creates Listeners by publications, and writes the status of the one it reconciles. -/
theorem JobCall.listeners (made : JobCall job transcript call) (recalls : Recalls transcript before)
    (api : ApiServer) :
    ∃ created, Store.ChangesWithin job.Reconciles
      (fun key => key = created ∧ ∃ request, job.Publishes request)
      Listener.Kept before.current.listeners (serve api call before.current).2.listeners := by
  by_cases part : call.part = some .listeners
  · cases call with
    | createListener sent =>
      cases job with
      | publish n request =>
        exact ⟨sent.metadata.key, serve_createListener_within ⟨rfl, request, n, rfl⟩⟩
      | reconcile runtime key =>
        rcases made.reconciles runtime key rfl with reads | services
        · cases reads
        · cases services
    | updateListenerStatus sent =>
      cases job with
      | publish n request =>
        rcases made.publishes n request rfl with file | reads
        · cases file
        · cases reads
      | reconcile runtime key =>
        obtain ⟨listener, current, status, read, again, rfl⟩ := made.reconciles runtime key rfl
        refine ⟨key, serve_updateListenerStatus_within ⟨runtime, ?_⟩⟩
        have same : current.metadata.key = key :=
          (recalls.listener_key again).trans (recalls.listener_key read)
        rw [same]
    | _ => cases part
  · rw [(serve_sameBut api call before.current).listeners part]
    exact ⟨⟨"", ""⟩, .refl Listener.Kept.refl _⟩

/-- A run writes the Service of the Listener it reconciles, from what is stored. -/
theorem JobCall.servicesWithin (made : JobCall job transcript call)
    (informed : Informed transcript before) (stamped : serviceVersions.Stamped before)
    {api : ApiServer} {value : Value call}
    (replied : (serve api call before.current).1 = .ok value) :
    Store.ChangesWithin job.Reconciles job.Reconciles Service.Kept before.current.services
      (serve api call before.current).2.services := by
  by_cases part : call.part = some .services
  · cases call with
    | createService sent =>
      obtain ⟨runtime, key, listener, listenerClass, desired, rfl, told, mutation⟩ := made.services
      obtain ⟨own, -⟩ := told.known informed
      obtain ⟨absent, -, stored⟩ := serve_createService_ok replied
      have sentKey := serve_createService_key replied
      have same : sent.metadata.key = key := by
        rw [mutateService_key mutation, desiredService_key told.wanted, own]
      rw [stored]
      apply Store.changesWithin_create Service.Kept.refl
      · rw [sentKey]
        exact absent
      · exact ⟨runtime, by rw [sentKey, same]⟩
    | updateService sent =>
      obtain ⟨runtime, key, listener, listenerClass, desired, existing, rfl, told, read, mutation,
        -⟩ := made.services
      obtain ⟨own, -⟩ := told.known informed
      obtain ⟨⟨held, described, version⟩, -, stored⟩ := serve_updateService_ok replied
      obtain ⟨frame, ingress⟩ := serve_updateService_frame replied
      obtain ⟨earlier, had, found⟩ := informed.recalls.stored _ _ read (by simp [Call.kind])
      have keyed : existing.metadata.key = desired.metadata.key := earlier.services.keyed found
      have sentKey : sent.metadata.key = desired.metadata.key :=
        (mutateService_key mutation).trans keyed
      have valueKey : value.metadata.key = desired.metadata.key := by
        rw [frame]
        exact sentKey
      rw [sentKey] at described
      rw [mutateService_version mutation] at version
      -- The stored Service has the version that was read, so it is the one that was read.
      have current : held = existing := stamped.current had found described version
      rw [stored]
      apply Store.changesWithin_replace Service.Kept.refl
      · rw [valueKey]
        exact described
      · exact ⟨runtime, by rw [valueKey, desiredService_key told.wanted, own]⟩
      · rw [current]
        obtain ⟨ownerReferences, -, rfl⟩ := mutateService_ok mutation
        refine ⟨?_, ingress⟩
        rw [frame]
    | _ => cases part
  · rw [(serve_sameBut api call before.current).services part]
    exact .refl Service.Kept.refl _

/-- A run labels the pod of its publication. -/
theorem JobCall.pods (made : JobCall job transcript call) (recalls : Recalls transcript before)
    (api : ApiServer) :
    Store.ChangesWithin (fun key => ∃ request, job.Publishes request ∧ request.podKey = key)
      (fun _ => False) Pod.Kept before.current.pods (serve api call before.current).2.pods := by
  by_cases part : call.part = some .pods
  · obtain ⟨request, publishes, objects⟩ := made.objects part (by simp) (by simp)
    cases call with
    | patchPod original modified =>
      obtain ⟨read, listener, -, rfl⟩ := objects
      refine serve_patchPod_within ⟨request, publishes, (recalls.pod read).1.symm⟩ ?_
      intro label foreign
      rw [Pod.mounting_labels, if_neg]
      intro mount
      rw [← mount] at foreign
      exact foreign (usesMountPrefix_mountLabelKey _)
    | _ => cases part
  · rw [(serve_sameBut api call before.current).pods part]
    exact .refl Pod.Kept.refl _

/-- A run labels the volume of its publication. -/
theorem JobCall.pvs (made : JobCall job transcript call) (recalls : Recalls transcript before)
    (api : ApiServer) :
    Store.ChangesWithin (fun name => ∃ request, job.Publishes request ∧ request.volumeId = name)
      (fun _ => False) PersistentVolume.Kept before.current.pvs
      (serve api call before.current).2.pvs := by
  by_cases part : call.part = some .pvs
  · obtain ⟨request, publishes, objects⟩ := made.objects part (by simp) (by simp)
    cases call with
    | patchPV original modified =>
      obtain ⟨read, listener, -, rfl⟩ := objects
      refine serve_patchPV_within ⟨request, publishes, (recalls.pv read).1.symm⟩ ?_
      intro label foreign
      have unnamed : labelListenerName ≠ label := fun same => foreign (Or.inl same.symm)
      have unplaced : labelListenerNamespace ≠ label := fun same => foreign (Or.inr same.symm)
      simp only [PersistentVolume.tied, StringMap.get_copy, listenerMetaLabels_get,
        if_neg unnamed, if_neg unplaced, Option.none_or]
    | _ => cases part
  · rw [(serve_sameBut api call before.current).pvs part]
    exact .refl PersistentVolume.Kept.refl _

/-- The slot that a publication located is one of a version of its pod. -/
theorem Located.slot {request : NodePublishVolumeRequest} {slot : Slot}
    (located : Located request transcript slot) (recalls : Recalls transcript before) :
    ∃ version pod, before.Has version ∧ version.pods.get request.podKey = some pod ∧
      (pod.slot slot.volumeName).podListeners = slot.podListeners := by
  obtain ⟨pod, mounted, pv, tied, listener, claimRef, read, patched, -, -, -, -, same⟩ := located
  obtain ⟨key, -⟩ := recalls.pod read
  obtain ⟨version, had, held⟩ := recalls.stored _ _ patched (by simp [Call.kind])
  have stored : version.pods.get request.podKey = some mounted := key ▸ held
  exact ⟨version, mounted, had, stored, congrArg Slot.podListeners same.symm⟩

/-- A run writes the PodListeners of the pod of its publication, one entry at a time. -/
theorem JobCall.podListeners (made : JobCall job transcript call)
    (recalls : Recalls transcript before) {api : ApiServer} {value : Value call}
    (replied : (serve api call before.current).1 = .ok value) :
    ∃ slot : Slot,
      Store.ChangesWithin (fun key => key = slot.podListeners ∧ job.Lists before key)
        (fun key => key = slot.podListeners ∧ job.Lists before key) PodListeners.Kept
        before.current.podListeners (serve api call before.current).2.podListeners ∧
      ∀ other, other ≠ slot →
        (serve api call before.current).2.entry other = before.current.entry other := by
  by_cases part : call.part = some .podListeners
  · obtain ⟨request, publishes, objects⟩ := made.objects part (by simp) (by simp)
    cases call with
    | createPodListeners sent =>
      obtain ⟨-, slot, entry, located, fills⟩ := objects
      obtain ⟨version, pod, had, stored, same⟩ := located.slot recalls
      obtain ⟨key, -⟩ := id fills
      refine ⟨slot, serve_createPodListeners_within
        ⟨key, request, version, pod, slot.volumeName, publishes, had, stored, ?_⟩,
        (serve_create_fills replied fills).others⟩
      rw [same, key]
    | patchPodListeners existing modified =>
      obtain ⟨-, slot, entry, located, rfl, read⟩ := objects
      obtain ⟨version, pod, had, stored, same⟩ := located.slot recalls
      obtain ⟨other, -, held⟩ := recalls.stored _ _ read (by simp [Call.kind])
      have found : other.podListeners.get slot.podListeners = some existing := held
      have key : existing.metadata.key = slot.podListeners := other.podListeners.keyed found
      refine ⟨slot, serve_patchPodListeners_within
        ⟨key, request, version, pod, slot.volumeName, publishes, had, stored, ?_⟩,
        fun other different => serve_patchPodListeners_others key replied different⟩
      rw [same, key]
    | _ => cases part
  · refine ⟨⟨⟨"", ""⟩, ""⟩, ?_, fun other _ => ?_⟩
    · rw [(serve_sameBut api call before.current).podListeners part]
      exact .refl PodListeners.Kept.refl _
    · rw [Cluster.entry, (serve_sameBut api call before.current).podListeners part]
      rfl

/-- Nothing is within every footprint. -/
theorem Job.Footprint.refl (job : Job) (history : History) : job.Footprint history history where
  fixed := ⟨rfl, rfl, rfl, rfl⟩
  listeners := ⟨⟨"", ""⟩, .refl Listener.Kept.refl _⟩
  services := .refl Service.Kept.refl _
  pods := .refl Pod.Kept.refl _
  pvs := .refl PersistentVolume.Kept.refl _
  podListeners := ⟨⟨⟨"", ""⟩, ""⟩, .refl PodListeners.Kept.refl _, fun _ _ => rfl⟩

/-- A call of a run stays within the footprint of the run. -/
theorem JobCall.footprint {after : History} {reply : Reply call}
    (made : JobCall job transcript call) (informed : Informed transcript before)
    (stamped : serviceVersions.Stamped before) (answered : cached call before reply after) :
    job.Footprint before after := by
  rcases cached_cases answered with idle | ⟨-, api, value, -, replied, recorded, -⟩
  · rw [idle.unchanged]
    exact .refl job before
  · have current : after.current = (serve api call before.current).2 := by rw [recorded]; rfl
    constructor <;> rw [current]
    · exact (serve_sameBut api call before.current).others
    · exact made.listeners informed.recalls api
    · exact made.servicesWithin informed stamped replied
    · exact made.pods informed.recalls api
    · exact made.pvs informed.recalls api
    · exact made.podListeners informed.recalls replied

end Step

/-- What a run relies on and guarantees: nothing is forgotten, and it stays within its footprint. -/
def footprintRules (job : Job) : Rules History where
  invariant := serviceVersions.Stamped
  rely before after := before.Extends after
  guarantee before after := before.Extends after ∧ job.Footprint before after
  rely_refl := .refl
  rely_trans := .trans

/-- Runs tolerate each other and what others do. -/
theorem footprintRules_compatible {ι : Type} (job : ι → Job) :
    Pool.Compatible (fun index => footprintRules (job index)) Others where
  shared _ _ _ stamped := stamped
  tolerated _ _ _ _ _ _ _ guaranteed := guaranteed.1
  environment_invariant := by
    rintro _ before _ stamped ⟨next, rfl, ticks⟩
    exact stamped.commit ticks
  environment_tolerated := by
    rintro _ before _ _ ⟨next, rfl, -⟩
    exact before.extends_commit next

/-- A run is safe among others. -/
theorem job_footprintSafe (job : Job) (history : History) :
    job.program.Safe cached (footprintRules job) (fun _ _ => True) history := by
  refine Program.Safe.mono (fun _ _ _ _ => trivial)
    ((job_jobCall job).safe ?_ ?_ (Informed.nil history))
  · intro transcript before after informed extended _
    exact informed.mono extended
  · intro transcript call before reply after made stamped informed answered
    exact ⟨stamped_call stamped answered,
      ⟨cached_extends answered, made.footprint informed stamped answered⟩,
      informed.call answered⟩

/-- In every interleaving the runs are verified. -/
theorem footprintRules_verified {ι : Type} (job : ι → Job) {start : Cluster} (timed : start.Timed)
    {pool : Pool ι Call Reply Failure Unit History}
    (reached : Pool.Reaches cached Others (start.pool job) pool) :
    Pool.Verified cached (fun index => footprintRules (job index)) (fun _ _ _ => True) pool := by
  have verified : Pool.Verified cached (fun index => footprintRules (job index))
      (fun _ _ _ => True) (start.pool job) :=
    ⟨fun _ => Stamping.stamped_single timed, fun index => job_footprintSafe (job index) _⟩
  exact Pool.safe_of_reaches (footprintRules_compatible job) verified reached

/-- Every call that a run makes, in every interleaving of reconciliations and publications with
reads from any version, stays within the footprint of the run. A reconciliation changes the status
of its Listener, and creates or changes its Service. A publication creates a Listener under a free
key, changes the mount labels of its pod and the labels of its volume that name a Listener, and one
entry of the PodListeners of its pod. Nothing else is created, and nothing is deleted. -/
theorem runs_footprint {ι : Type} (job : ι → Job) (start : Cluster) (timed : start.Timed)
    (pool : Pool ι Call Reply Failure Unit History)
    (reached : Pool.Reaches cached Others (start.pool job) pool) (index : ι) (request : Call)
    (next : Reply request → Prog Unit) (waiting : pool.thread index = .call request next)
    (reply : Reply request) (after : History) (answered : cached request pool.state reply after) :
    (job index).Footprint pool.state after := by
  have guaranteed := (footprintRules_verified job timed reached).guarantee waiting answered
  exact guaranteed.2

/-- The kind of objects that a program is about to write. -/
def nextPart {α : Type} : Prog α → Option Part
  | .call request _ => request.part
  | .done _ => none

/-- The Service of `servedCluster` is in its first version. -/
theorem servedCluster_timed : servedCluster.Timed := by
  intro key service stored
  rw [← servedCluster.services.keyed stored] at stored
  have listed := (Store.mem_values _ service).mpr stored
  have values : servedCluster.services.values = [webService .nodePort] := rfl
  rw [values] at listed
  rw [List.mem_singleton.mp listed]
  exact le_refl 0

/-- The publication of `webVolume` labels the pod within its footprint. -/
theorem servedPod_footprint :
    ∃ (pool : Pool Unit Call Reply Failure Unit History) (request : Call)
      (next : Reply request → Prog Unit) (reply : Reply request) (after : History),
      Pool.Reaches cached Others
        (servedCluster.pool fun _ => .publish .standard webRequest) pool ∧
      pool.thread () = .call request next ∧ request.part = some .pods ∧
      cached request pool.state reply after ∧
      (Job.publish .standard webRequest).Footprint pool.state after := by
  obtain ⟨pool, reached, state, thread, -, fresh⟩ := Pool.reaches_advance Others cached_prompt
    (servedCluster.pool fun _ => .publish .standard webRequest) () servedCluster_fresh 4
  have writes : nextPart ((Job.publish .standard webRequest).program.advance (prompt unmountedUid)
      4 { current := servedCluster }).1 = some .pods := by decide +kernel
  have remains : pool.thread () = ((Job.publish .standard webRequest).program.advance
      (prompt unmountedUid) 4 { current := servedCluster }).1 := thread
  rw [← remains] at writes
  cases waiting : pool.thread () with
  | done outcome =>
    rw [waiting] at writes
    cases writes
  | call request next =>
    rw [waiting] at writes
    have answered := (cached_prompt request pool.state fresh).1
    exact ⟨pool, request, next, _, _, reached, waiting, writes, answered,
      runs_footprint (fun _ => .publish .standard webRequest) servedCluster servedCluster_timed pool
        reached () request next waiting _ _ answered⟩

/-- Metadata that differ twice in some labels and the version do so once. -/
theorem ObjectMeta.Relabelled.trans {owned : String → Prop} {first second third : ObjectMeta}
    (left : first.Relabelled owned second) (right : second.Relabelled owned third) :
    first.Relabelled owned third where
  frame := by
    have frame := right.frame
    rw [left.frame] at frame
    exact frame
  labels label foreign := (right.labels label foreign).trans (left.labels label foreign)

/-- A Listener that is kept twice is kept. -/
theorem Listener.Kept.trans {first second third : Listener} (left : first.Kept second)
    (right : second.Kept third) : first.Kept third where
  spec := right.spec.trans left.spec
  metadata := by
    have metadata := right.metadata
    rw [left.metadata] at metadata
    exact metadata

/-- A Service that is kept twice is kept. -/
theorem Service.Kept.trans {first second third : Service} (left : first.Kept second)
    (right : second.Kept third) : first.Kept third where
  metadata := by
    have metadata := right.metadata
    rw [left.metadata] at metadata
    exact metadata
  loadBalancerIngress := right.loadBalancerIngress.trans left.loadBalancerIngress

/-- A pod that is kept twice is kept. -/
theorem Pod.Kept.trans {first second third : Pod} (left : first.Kept second)
    (right : second.Kept third) : first.Kept third :=
  ⟨right.spec.trans left.spec, left.metadata.trans right.metadata⟩

/-- A volume that is kept twice is kept. -/
theorem PersistentVolume.Kept.trans {first second third : PersistentVolume}
    (left : first.Kept second) (right : second.Kept third) : first.Kept third :=
  ⟨right.claimRef.trans left.claimRef, left.metadata.trans right.metadata⟩

/-- A PodListeners object that is kept twice is kept. -/
theorem PodListeners.Kept.trans {first second third : PodListeners} (left : first.Kept second)
    (right : second.Kept third) : first.Kept third where
  metadata := by
    have metadata := right.metadata
    rw [left.metadata] at metadata
    exact metadata
  volumes name present := right.volumes name (left.volumes name present)

/-- What some runs have left of a cluster, at the end of a history. -/
structure Cluster.LeftBy {ι : Type} (job : ι → Job) (start : Cluster) (history : History) :
    Prop where
  listeners : Store.ChangesWithin (fun key => ∃ index, (job index).Reconciles key)
    (fun _ => ∃ index request, (job index).Publishes request)
    Listener.Kept start.listeners history.current.listeners
  services : Store.ChangesWithin (fun key => ∃ index, (job index).Reconciles key)
    (fun key => ∃ index, (job index).Reconciles key)
    Service.Kept start.services history.current.services
  pods : Store.ChangesWithin
    (fun key => ∃ index request, (job index).Publishes request ∧ request.podKey = key)
    (fun _ => False) Pod.Kept start.pods history.current.pods
  pvs : Store.ChangesWithin
    (fun name => ∃ index request, (job index).Publishes request ∧ request.volumeId = name)
    (fun _ => False) PersistentVolume.Kept start.pvs history.current.pvs
  podListeners : Store.ChangesWithin (fun key => ∃ index, (job index).Lists history key)
    (fun key => ∃ index, (job index).Lists history key)
    PodListeners.Kept start.podListeners history.current.podListeners

/-- What others do: anything with classes, nodes, claims and EndpointSlices. -/
structure LeavesObjects (before after : History) : Prop where
  others : Others before after
  listeners : after.current.listeners = before.current.listeners
  services : after.current.services = before.current.services
  pods : after.current.pods = before.current.pods
  pvs : after.current.pvs = before.current.pvs
  podListeners : after.current.podListeners = before.current.podListeners

section Left

variable {ι : Type} {job : ι → Job} {start : Cluster} {before after : History}

/-- What was so in some version stays so. -/
theorem Job.Lists.mono {job : Job} {key : ObjectKey} (lists : job.Lists before key)
    (extended : before.Extends after) : job.Lists after key := by
  obtain ⟨request, version, pod, volumeName, publishes, had, rest⟩ := lists
  exact ⟨request, version, pod, volumeName, publishes, extended.versions version had, rest⟩

/-- At first nothing has changed. -/
theorem Cluster.LeftBy.refl (job : ι → Job) (start : Cluster) :
    start.LeftBy job { current := start } where
  listeners := .refl Listener.Kept.refl _
  services := .refl Service.Kept.refl _
  pods := .refl Pod.Kept.refl _
  pvs := .refl PersistentVolume.Kept.refl _
  podListeners := .refl PodListeners.Kept.refl _

/-- One more call of a run. -/
theorem Cluster.LeftBy.call (left : start.LeftBy job before) (extended : before.Extends after)
    {index : ι} (footprint : (job index).Footprint before after) : start.LeftBy job after where
  listeners := by
    obtain ⟨created, listeners⟩ := footprint.listeners
    exact left.listeners.trans Listener.Kept.trans (listeners.mono
      (fun key reconciles => ⟨index, reconciles⟩) fun key publishes => ⟨index, publishes.2⟩)
  services := left.services.trans Service.Kept.trans (footprint.services.mono
    (fun key reconciles => ⟨index, reconciles⟩) fun key reconciles => ⟨index, reconciles⟩)
  pods := left.pods.trans Pod.Kept.trans (footprint.pods.mono
    (fun key publishes => ⟨index, publishes⟩) fun _ never => never)
  pvs := left.pvs.trans PersistentVolume.Kept.trans (footprint.pvs.mono
    (fun name publishes => ⟨index, publishes⟩) fun _ never => never)
  podListeners := by
    obtain ⟨slot, podListeners, -⟩ := footprint.podListeners
    have earlier : ∀ key, (∃ index, (job index).Lists before key) →
        ∃ index, (job index).Lists after key := by
      rintro key ⟨other, lists⟩
      exact ⟨other, lists.mono extended⟩
    have now : ∀ key, key = slot.podListeners ∧ (job index).Lists before key →
        ∃ index, (job index).Lists after key :=
      fun key listed => ⟨index, listed.2.mono extended⟩
    exact (left.podListeners.mono earlier earlier).trans PodListeners.Kept.trans
      (podListeners.mono now now)

/-- One more step of others. -/
theorem Cluster.LeftBy.others (left : start.LeftBy job before)
    (leaves : LeavesObjects before after) : start.LeftBy job after where
  listeners := by
    rw [leaves.listeners]
    exact left.listeners
  services := by
    rw [leaves.services]
    exact left.services
  pods := by
    rw [leaves.pods]
    exact left.pods
  pvs := by
    rw [leaves.pvs]
    exact left.pvs
  podListeners := by
    obtain ⟨next, same, -⟩ := leaves.others
    have extended : before.Extends after := by
      rw [same]
      exact before.extends_commit next
    have earlier : ∀ key, (∃ index, (job index).Lists before key) →
        ∃ index, (job index).Lists after key := by
      rintro key ⟨index, lists⟩
      exact ⟨index, lists.mono extended⟩
    rw [leaves.podListeners]
    exact left.podListeners.mono earlier earlier

end Left

/-- Over whole runs, in every interleaving of reconciliations and publications with reads from any
version, where others change classes, nodes, claims and EndpointSlices as they like: no object is
deleted and no specification of a Listener or a pod is changed. A Service is as it was at first if
its Listener is not reconciled, a pod or a volume is if no publication is for it, and otherwise they
differ in what the runs own. A pod or a volume that was not there at first is not there. -/
theorem runs_leave {ι : Type} (job : ι → Job) (start : Cluster) (timed : start.Timed)
    (pool : Pool ι Call Reply Failure Unit History)
    (reached : Pool.Reaches cached LeavesObjects (start.pool job) pool) :
    start.LeftBy job pool.state := by
  induction reached with
  | refl => exact .refl job start
  | @tail middle after earlier step ih =>
    have wider : Pool.Reaches cached Others (start.pool job) middle :=
      Pool.Reaches.mono (fun _ _ leaves => leaves.others) earlier
    cases step with
    | thread index request next reply state waiting answered =>
      have guaranteed := (footprintRules_verified job timed wider).guarantee waiting answered
      exact ih.call guaranteed.1 guaranteed.2
    | environment state moves => exact ih.others moves

/-- The publication of `webVolume` leaves `servedCluster` so with its three writes. -/
theorem servedCluster_left :
    ∃ pool : Pool Unit Call Reply Failure Unit History,
      Pool.Reaches cached LeavesObjects
        (servedCluster.pool fun _ => .publish .standard webRequest) pool ∧
      pool.state.log.length = 3 ∧
      servedCluster.LeftBy (fun _ : Unit => .publish .standard webRequest) pool.state := by
  obtain ⟨pool, reached, state, -⟩ := Pool.reaches_run LeavesObjects cached_prompt
    (servedCluster.pool fun _ => .publish .standard webRequest) () servedCluster_fresh
  have writes : pool.state.log.length = 3 := by
    rw [state]
    decide +kernel
  exact ⟨pool, reached, writes, runs_leave (fun _ => .publish .standard webRequest) servedCluster
    servedCluster_timed pool reached⟩

end ListenerOperator
