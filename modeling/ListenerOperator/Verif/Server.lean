import ListenerOperator.ApiServer
import ListenerOperator.Controller.Reconcile

/-!
# Runs against the API server

What one call does when a program runs against `serve`, and the runs of the small programs that
others are made of. Reads return what is stored and leave the cluster as it is.
-/

namespace ListenerOperator

open Interaction

section Run

variable {σ α : Type} (server : (request : Call) → σ → Reply request × σ)

/-- A call returns the value of its reply, or the error as the error of the function. -/
theorem run_ask (request : Call) (state : σ) :
    (ask request).run server state =
      ((server request state).1.mapError fun failure => .error (.call failure),
        (server request state).2) := by
  simp only [ask, Program.run_call]
  cases (server request state).1 <;> rfl

/-- A call that is answered by a value returns it. -/
theorem run_ask_ok {request : Call} {state after : σ} {value : Value request}
    (answered : server request state = (.ok value, after)) :
    (ask request).run server state = (.ok value, after) := by
  rw [run_ask, answered]
  rfl

/-- A call that is answered by an error fails with it. -/
theorem run_ask_error {request : Call} {state after : σ} {failure : CallError}
    (answered : server request state = (.error failure, after)) :
    (ask request).run server state = (.error (.error (.call failure)), after) := by
  rw [run_ask, answered]
  rfl

/-- A single call is all that asking makes. -/
@[simp] theorem calls_ask (request : Call) (state : σ) :
    (ask request).calls server state = [request] := by
  simp only [ask, Program.calls_call]
  cases (server request state).1 <;> rfl

/-- A program that returns a value does so with a text for its errors. -/
theorem run_withText_ok {program : Prog α} {state after : σ} {value : α} (text : String)
    (returned : program.run server state = (.ok value, after)) :
    (withText text program).run server state = (.ok value, after) := by
  rw [withText, Program.run_mapError, returned]
  rfl

/-- A program that returns a value does so with a status for its errors. -/
theorem run_withStatus_ok {program : Prog α} {state after : σ} {value : α} (code : Code)
    (returned : program.run server state = (.ok value, after)) :
    (withStatus code program).run server state = (.ok value, after) := by
  rw [withStatus, Program.run_mapError, returned]
  rfl

/-- A program that does not end in a conflict runs once. -/
theorem run_retryOnConflict {body : Prog α} {state : σ}
    (settles : ∀ failure, (body.run server state).1 = .error failure →
      failure.isConflict = false) (retries : Nat) :
    (retryOnConflict body retries).run server state = body.run server state := by
  cases retries with
  | zero => rfl
  | succ retries =>
    rw [retryOnConflict, Program.run_bind, Program.run_attempt]
    rcases outcome : body.run server state with ⟨result, after⟩
    cases result with
    | ok value => rfl
    | error failure =>
      have settled := settles failure (by rw [outcome])
      simp [settled]

end Run

/-- A single allowed call. -/
theorem ensures_ask {allowed : Call → Prop} {request : Call} (allows : allowed request) :
    (ask request).Ensures allowed fun _ => True := by
  refine ⟨allows, fun reply => ?_⟩
  cases reply <;> trivial

/-- What a single call ensures: it is allowed, and every value of it will do. -/
theorem ensures_ask_iff {allowed : Call → Prop} (request : Call) {post : Value request → Prop} :
    (ask request).Ensures allowed post ↔ allowed request ∧ ∀ value, post value := by
  refine and_congr_right fun _ => ⟨fun every value => every (.ok value), fun every reply => ?_⟩
  cases reply with
  | ok value => exact every value
  | error failure => trivial

/-- A lifted outcome makes no call. -/
theorem ensures_lift {α : Type} {allowed : Call → Prop} {post : α → Prop}
    {outcome : Except Failure α} (holds : ∀ value, outcome = .ok value → post value) :
    (Program.lift outcome : Prog α).Ensures allowed post := by
  cases outcome with
  | ok value => exact holds value rfl
  | error failure => trivial

/-- The calls that were made with their replies, the last first. -/
abbrev Transcript : Type := Program.Transcript Call Reply

/-- A call that was answered by a value. -/
abbrev Answered (transcript : Transcript) (request : Call) (value : Value request) : Prop :=
  (⟨request, .ok value⟩ : Sigma Reply) ∈ transcript

section Follows

variable {α : Type} {allowed : Transcript → Call → Prop} {transcript : Transcript}

/-- A single allowed call is answered by the value it returns. -/
theorem follows_ask {request : Call} (allows : allowed transcript request) :
    (ask request).Follows allowed (fun later value => later = ⟨request, .ok value⟩ :: transcript)
      transcript := by
  refine ⟨allows, fun reply => ?_⟩
  cases reply with
  | ok value => exact rfl
  | error failure => trivial

/-- A lifted outcome makes no call. -/
theorem follows_lift (outcome : Except Failure α) :
    (Program.lift outcome : Prog α).Follows allowed
      (fun later value => transcript = later ∧ outcome = .ok value) transcript := by
  cases outcome with
  | ok value => exact ⟨rfl, rfl⟩
  | error failure => trivial

end Follows

/-- A stored object is found. -/
@[simp] theorem found_some {β : Type} (value : β) : found (some value) = .ok value := rfl

/-- An absent object is not found. -/
@[simp] theorem found_none {β : Type} :
    found (none : Option β) = .error { reason := .notFound, message := "not found" } := rfl

/-- What is found is stored. -/
theorem found_eq_ok {β : Type} {stored : Option β} {value : β} :
    found stored = .ok value ↔ stored = some value := by
  cases stored <;> simp

/-- A read leaves the cluster as it is. -/
theorem serve_read (api : ApiServer) (request : Call) (cluster : Cluster)
    (reads : request.kind = .read) : (serve api request cluster).2 = cluster := by
  cases request <;> first | rfl | cases reads

/-- What the server decides has no part in the answer to a read. -/
theorem serve_read_reply (api other : ApiServer) (request : Call) (cluster : Cluster)
    (reads : request.kind = .read) :
    (serve api request cluster).1 = (serve other request cluster).1 := by
  cases request <;> first | rfl | cases reads

/-- A patch of the labels leaves the patched labels. -/
@[simp] theorem Cluster.relabel_labels (cluster : Cluster) (original modified current : ObjectMeta) :
    (cluster.relabel original modified current).labels =
      patchLabels original.labels modified.labels current.labels := by
  rw [Cluster.relabel]
  split
  · rename_i same
    exact same.symm
  · rfl

/-- A patch of the labels changes the labels and the version only. -/
theorem Cluster.relabel_frame (cluster : Cluster) (original modified current : ObjectMeta) :
    cluster.relabel original modified current = { current with
      labels := (cluster.relabel original modified current).labels
      resourceVersion := (cluster.relabel original modified current).resourceVersion } := by
  rw [Cluster.relabel]
  split <;> rfl

/-- A patch of the labels keeps the key of the object. -/
@[simp] theorem Cluster.relabel_key (cluster : Cluster) (original modified current : ObjectMeta) :
    (cluster.relabel original modified current).key = current.key := by
  rw [Cluster.relabel_frame]
  rfl

/-- A patch applied to the copy it was made from leaves the modified labels. -/
@[simp] theorem patchLabels_self (original modified : MergePatch.StringMap String) :
    patchLabels original modified original = modified :=
  MergePatch.merge_diff_self _ _ _

section Own

variable (api : ApiServer) {cluster : Cluster}

/-- A volume that is patched from its stored copy gets the labels that were sent. -/
theorem serve_patchPV_own {pv : PersistentVolume} (labels : MergePatch.StringMap String)
    (stored : cluster.pvs.get pv.metadata.name = some pv) :
    ∃ patched, serve api (.patchPV pv { pv with metadata := { pv.metadata with labels } }) cluster =
        (.ok patched, { cluster with
          pvs := cluster.pvs.insert patched
          revision := cluster.nextRevision }) ∧
      patched = { pv with metadata := { pv.metadata with
        labels, resourceVersion := patched.metadata.resourceVersion } } := by
  have frame := cluster.relabel_frame pv.metadata { pv.metadata with labels } pv.metadata
  rw [Cluster.relabel_labels, patchLabels_self] at frame
  refine ⟨{ pv with
    metadata := cluster.relabel pv.metadata { pv.metadata with labels } pv.metadata }, ?_, ?_⟩
  · simp only [serve, stored]
  · exact congrArg (fun metadata => { pv with metadata }) frame

/-- A pod that is patched from its stored copy gets the labels that were sent. -/
theorem serve_patchPod_own {pod : Pod} (labels : MergePatch.StringMap String)
    (stored : cluster.pods.get pod.metadata.key = some pod) :
    ∃ patched, serve api (.patchPod pod { pod with metadata := { pod.metadata with labels } })
        cluster = (.ok patched, { cluster with
          pods := cluster.pods.insert patched
          revision := cluster.nextRevision }) ∧
      patched = { pod with metadata := { pod.metadata with
        labels, resourceVersion := patched.metadata.resourceVersion } } := by
  have frame := cluster.relabel_frame pod.metadata { pod.metadata with labels } pod.metadata
  rw [Cluster.relabel_labels, patchLabels_self] at frame
  have key : ({ pod.metadata with labels } : ObjectMeta).key = pod.metadata.key := rfl
  refine ⟨{ pod with
    metadata := cluster.relabel pod.metadata { pod.metadata with labels } pod.metadata }, ?_, ?_⟩
  · simp only [serve, key, stored]
  · exact congrArg (fun metadata => { pod with metadata }) frame

/-- A PodListeners object that is patched from its stored copy gets the entries that were sent. -/
theorem serve_patchPodListeners_own {object : PodListeners}
    (listeners : MergePatch.StringMap PodListener)
    (stored : cluster.podListeners.get object.metadata.key = some object) :
    ∃ patched, serve api (.patchPodListeners object { object with listeners }) cluster =
        (.ok patched, { cluster with
          podListeners := cluster.podListeners.insert patched
          revision := cluster.nextRevision }) ∧
      patched = { metadata := { object.metadata with
          resourceVersion := patched.metadata.resourceVersion }, listeners } := by
  let patch := MergePatch.diff podListenerPatch object.listeners listeners
  have merged : MergePatch.merge podListenerPatch patch object.listeners = listeners :=
    MergePatch.merge_diff_self _ _ _
  refine ⟨cluster.relist patch object, ?_, ?_⟩
  · simp only [serve, stored]
    rw [if_neg (by simp [MergePatch.applicable_diff_self])]
  · rw [Cluster.relist]
    dsimp only
    split
    · rename_i same
      rw [merged] at same
      rw [same]
    · rw [merged]

end Own

/-- Writing a status leaves the status under the key of the Listener. -/
theorem Cluster.storeStatus_get (cluster : Cluster) (current : Listener) (status : ListenerStatus)
    (stored : cluster.listeners.get current.metadata.key = some current) :
    ∃ written, (cluster.storeStatus current status).listeners.get current.metadata.key =
        some written ∧ written.status = status ∧ written.spec = current.spec ∧
      written.metadata = { current.metadata with
        resourceVersion := written.metadata.resourceVersion } := by
  by_cases same : current.status = status
  · refine ⟨current, ?_, same, rfl, rfl⟩
    rw [Cluster.storeStatus, if_pos same]
    exact stored
  · rw [Cluster.storeStatus, if_neg same]
    exact ⟨_, Keyed.Store.get_insert_self _ _, rfl, rfl, rfl⟩

/-- Writing a status changes Listeners only. -/
theorem Cluster.storeStatus_frame (cluster : Cluster) (current : Listener)
    (status : ListenerStatus) : cluster.storeStatus current status =
      { cluster with
        listeners := (cluster.storeStatus current status).listeners
        revision := (cluster.storeStatus current status).revision } := by
  by_cases same : current.status = status
  · simp [Cluster.storeStatus, same]
  · simp [Cluster.storeStatus, same]

/-- Writing the status of a stored Listener succeeds. -/
theorem writeStatus_run (api : ApiServer) {cluster : Cluster} {listener current : Listener}
    (status : ListenerStatus)
    (stored : cluster.listeners.get listener.metadata.key = some current) :
    (writeStatus listener status).run (serve api) cluster =
      (.ok (), cluster.storeStatus current status) := by
  have key : current.metadata.key = listener.metadata.key := cluster.listeners.keyed stored
  have read : (ask (.getListener listener.metadata.key)).run (serve api) cluster =
      (.ok current, cluster) := run_ask_ok _ (by simp [serve, stored])
  rw [← key] at stored
  obtain ⟨written, found, -⟩ := cluster.storeStatus_get current status stored
  have write : (ask (.updateListenerStatus { current with status })).run (serve api) cluster =
      (.ok written, cluster.storeStatus current status) :=
    run_ask_ok _ (by simp [serve, stored, found])
  rw [writeStatus, Program.run_bind_ok _ read, Program.run_bind_ok _ write]
  rfl

/-- Writing the status of a Listener that is gone fails. -/
theorem writeStatus_run_absent (api : ApiServer) {cluster : Cluster} {listener : Listener}
    (status : ListenerStatus) (absent : cluster.listeners.get listener.metadata.key = none) :
    ∃ failure, failure.reason = .notFound ∧
      (writeStatus listener status).run (serve api) cluster =
        (.error (.error (.call failure)), cluster) := by
  refine ⟨⟨.notFound, "not found"⟩, rfl, ?_⟩
  have read : (ask (.getListener listener.metadata.key)).run (serve api) cluster =
      (.error (.error (.call ⟨.notFound, "not found"⟩)), cluster) :=
    run_ask_error _ (by simp [serve, absent])
  rw [writeStatus, Program.run_bind_error _ read]

/-- The kinds of objects that calls write. -/
inductive Part where
  | listeners
  | services
  | pods
  | pvs
  | podListeners
  deriving DecidableEq

/-- The kind of objects that a call writes. -/
def Call.part : Call → Option Part
  | .createListener _ | .updateListenerStatus _ => some .listeners
  | .createService _ | .updateService _ => some .services
  | .patchPod _ _ => some .pods
  | .patchPV _ _ => some .pvs
  | .createPodListeners _ | .patchPodListeners _ _ => some .podListeners
  | _ => none

/-- Clusters with the same objects of all kinds but one. -/
structure Cluster.SameBut (part : Option Part) (before after : Cluster) : Prop where
  listeners : part ≠ some .listeners → after.listeners = before.listeners
  services : part ≠ some .services → after.services = before.services
  pods : part ≠ some .pods → after.pods = before.pods
  pvs : part ≠ some .pvs → after.pvs = before.pvs
  podListeners : part ≠ some .podListeners → after.podListeners = before.podListeners
  others : after.listenerClasses = before.listenerClasses ∧ after.nodes = before.nodes ∧
    after.pvcs = before.pvcs ∧ after.endpointSlices = before.endpointSlices

/-- The same objects in the other direction. -/
theorem Cluster.SameBut.symm {part : Option Part} {before after : Cluster}
    (same : before.SameBut part after) : after.SameBut part before where
  listeners other := (same.listeners other).symm
  services other := (same.services other).symm
  pods other := (same.pods other).symm
  pvs other := (same.pvs other).symm
  podListeners other := (same.podListeners other).symm
  others := ⟨same.others.1.symm, same.others.2.1.symm, same.others.2.2.1.symm,
    same.others.2.2.2.symm⟩

/-- The same objects in two steps. -/
theorem Cluster.SameBut.trans {part : Option Part} {first second third : Cluster}
    (left : first.SameBut part second) (right : second.SameBut part third) :
    first.SameBut part third where
  listeners other := (right.listeners other).trans (left.listeners other)
  services other := (right.services other).trans (left.services other)
  pods other := (right.pods other).trans (left.pods other)
  pvs other := (right.pvs other).trans (left.pvs other)
  podListeners other := (right.podListeners other).trans (left.podListeners other)
  others := ⟨right.others.1.trans left.others.1, right.others.2.1.trans left.others.2.1,
    right.others.2.2.1.trans left.others.2.2.1, right.others.2.2.2.trans left.others.2.2.2⟩

/-- A call changes objects of one kind only. -/
theorem serve_sameBut (api : ApiServer) (request : Call) (cluster : Cluster) :
    cluster.SameBut request.part (serve api request cluster).2 := by
  cases request with
  | updateListenerStatus listener =>
    simp only [serve]
    repeat' split
    · constructor <;> simp
    · constructor <;> simp
    · rw [Cluster.storeStatus_frame]
      constructor <;> simp [Call.part]
  | _ =>
    simp only [serve]
    repeat' split
    all_goals constructor <;> simp [Call.part]

end ListenerOperator
