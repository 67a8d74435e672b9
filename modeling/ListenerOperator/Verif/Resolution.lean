import ListenerOperator.Csi.Host
import ListenerOperator.Verif.Addresses
import ListenerOperator.Verif.Instances
import ListenerOperator.Verif.Publish

/-!
# The Listener of a volume

How the node plugin comes by the Listener of a volume: by the name in the volume context, or by
creating one from the class in it. A Listener that is there already under the name of the claim is
taken as it is. On the way pointers are dereferenced that a request or a volume may leave unset.
-/

namespace ListenerOperator

open Interaction Outcome MergePatch Keyed

/-- Put a text before a returned error. -/
def textBefore {α : Type} (text : String) (outcome : Except Failure α) : Except Failure α :=
  outcome.mapError (Failure.wrap fun value => .text (text ++ value.message))

/-- The stored object of a read, or the error of the read. -/
def readOf {α : Type} (stored : Option α) : Except Failure α :=
  (found stored).mapError fun failure => .error (.call failure)

/-- The Listener that a volume without a named one asks for. -/
def Cluster.askedListener (cluster : Cluster) (n : NodeServer) (volumeContext : VolumeContext)
    (pv : PersistentVolume) (pod : Pod) : Except Failure Listener := do
  let className ← deref volumeContext.listenerClassName
  let podNamespace ← deref volumeContext.podNamespace
  let listenerClass ← textBefore "get listener class from volume context error: "
    (readOf (cluster.listenerClasses.get className))
  let claimRef ← deref pv.claimRef
  let pvc ← textBefore "get pvc error: " (readOf (cluster.pvcs.get claimRef))
  let ports ← textBefore "get pod ports error: " (getPodPorts pod)
  let listener := newListener podNamespace listenerClass pvc ports
  let ownerReferences ← textBefore "set controller reference error: "
    (n.runtime.setControllerReference "PersistentVolume" pv.metadata listener.metadata)
  return { listener with metadata := { listener.metadata with ownerReferences } }

/-- The Listener that is stored when one is asked for, and the cluster with it. One that is there
already is left as it is. -/
def Cluster.storing (cluster : Cluster) (api : ApiServer) (sent : Listener) : Listener × Cluster :=
  match cluster.listeners.get sent.metadata.key with
  | some existing => (existing, cluster)
  | none =>
    let stored := { sent with metadata := api.newMeta cluster sent.metadata }
    (stored, { cluster with
      listeners := cluster.listeners.insert stored
      revision := cluster.nextRevision })

/-- Storing a Listener concerns Listeners only. -/
theorem Cluster.storing_frame (cluster : Cluster) (api : ApiServer) (sent : Listener) :
    (cluster.storing api sent).2 = { cluster with
      listeners := (cluster.storing api sent).2.listeners
      revision := (cluster.storing api sent).2.revision } := by
  rw [Cluster.storing]
  split <;> rfl

/-- The Listener that is returned is stored. -/
theorem Cluster.storing_get (cluster : Cluster) (api : ApiServer) (sent : Listener) :
    (cluster.storing api sent).2.listeners.get (cluster.storing api sent).1.metadata.key =
      some (cluster.storing api sent).1 := by
  rw [Cluster.storing]
  split
  · rename_i existing found
    rw [cluster.listeners.keyed found, found]
  · exact Store.get_insert_self _ _

/-- A read with a text before its error. -/
theorem run_withText_read {σ : Type} {server : (request : Call) → σ → Reply request × σ}
    {request : Call} {state : σ} {stored : Option (Value request)} (text : String)
    (answered : server request state = (found stored, state)) :
    (withText text (ask request)).run server state = (textBefore text (readOf stored), state) := by
  rw [withText, Program.run_mapError, run_ask, answered]
  rfl

/-- The last part of `createListener`. -/
def storeListener (sent : Listener) : Prog Listener :=
  .call (.createListener sent) fun reply =>
    match reply with
    | .ok created => return created
    | .error failure =>
      if failure.reason = .alreadyExists then
        withText "get existing listener error: " (ask (.getListener sent.metadata.key))
      else Program.lift (errorText ("create listener error: " ++ failure.message))

/-- The Listener is created, or read if there is one under its name. -/
theorem storeListener_run (api : ApiServer) (cluster : Cluster) (sent : Listener) :
    (storeListener sent).run (serve api) cluster =
      (.ok (cluster.storing api sent).1, (cluster.storing api sent).2) := by
  rw [storeListener, Program.run_call, Cluster.storing]
  cases stored : cluster.listeners.get sent.metadata.key with
  | none => simp only [serve, stored]; rfl
  | some existing =>
    have read : (ask (.getListener sent.metadata.key)).run (serve api) cluster =
        (.ok existing, cluster) := run_ask_ok _ (by simp [serve, stored])
    simp only [serve, stored]
    exact run_withText_ok _ _ read

/-- The Listener is created from the stored class and claim. -/
theorem createListener_run (n : NodeServer) (api : ApiServer) (cluster : Cluster)
    {server : (request : Call) → Cluster → Reply request × Cluster}
    (reads : ∀ request : Call, request.kind = .read →
      server request cluster = serve api request cluster)
    (volumeContext : VolumeContext) (pv : PersistentVolume) (pod : Pod) :
    (createListener n volumeContext pv pod).run server cluster =
      (Program.lift (cluster.askedListener n volumeContext pv pod) >>= storeListener).run
        server cluster := by
  rw [createListener, Cluster.askedListener]
  simp only [Program.lift_bind, bind_assoc]
  refine Program.run_bind_read _ rfl fun className _ => ?_
  refine Program.run_bind_read _ rfl fun podNamespace _ => ?_
  refine Program.run_bind_read _ (run_withText_read _ (reads _ rfl)) fun listenerClass _ => ?_
  refine Program.run_bind_read _ rfl fun claimRef _ => ?_
  refine Program.run_bind_read _ (run_withText_read _ (reads _ rfl)) fun pvc _ => ?_
  refine Program.run_bind_read _ rfl fun ports _ => ?_
  exact Program.run_bind_read _ rfl fun ownerReferences _ => rfl

/-- A text before the error changes no value. -/
@[simp] theorem textBefore_eq_ok {α : Type} {text : String} {outcome : Except Failure α} {value : α} :
    textBefore text outcome = .ok value ↔ outcome = .ok value := by
  cases outcome <;> simp [textBefore, Except.mapError]

/-- A read returns the stored object. -/
@[simp] theorem readOf_eq_ok {α : Type} {stored : Option α} {value : α} :
    readOf stored = .ok value ↔ stored = some value := by
  cases stored <;> simp [readOf, Except.mapError]

/-- What the Listener that is asked for is made from. -/
theorem Cluster.askedListener_eq_ok {cluster : Cluster} {n : NodeServer}
    {volumeContext : VolumeContext} {pv : PersistentVolume} {pod : Pod} {sent : Listener} :
    cluster.askedListener n volumeContext pv pod = .ok sent ↔
      ∃ className, volumeContext.listenerClassName = some className ∧
      ∃ podNamespace, volumeContext.podNamespace = some podNamespace ∧
      ∃ listenerClass, cluster.listenerClasses.get className = some listenerClass ∧
      ∃ claimRef, pv.claimRef = some claimRef ∧ ∃ pvc, cluster.pvcs.get claimRef = some pvc ∧
      ∃ ports, getPodPorts pod = .ok ports ∧
      ∃ ownerReferences, n.runtime.setControllerReference "PersistentVolume" pv.metadata
          (newListener podNamespace listenerClass pvc ports).metadata = .ok ownerReferences ∧
        { newListener podNamespace listenerClass pvc ports with
          metadata := { (newListener podNamespace listenerClass pvc ports).metadata with
            ownerReferences } } = sent := by
  simp only [Cluster.askedListener, bind_eq_ok, deref_eq_ok, textBefore_eq_ok, readOf_eq_ok,
    Outcome.pure_eq, Except.ok.injEq]

/-- The object is controlled by the volume. -/
def ObjectMeta.ControlledBy (metadata : ObjectMeta) (pv : PersistentVolume) : Prop :=
  { kind := "PersistentVolume", name := pv.metadata.name, uid := pv.metadata.uid,
    controller := true } ∈ metadata.ownerReferences

instance (metadata : ObjectMeta) (pv : PersistentVolume) : Decidable (metadata.ControlledBy pv) :=
  inferInstanceAs (Decidable (_ ∈ _))

/-- The Listener is of the class, has the ports of the pod, and is controlled by the volume. -/
def Listener.AsAsked (listener : Listener) (className : String) (pod : Pod)
    (pv : PersistentVolume) : Prop :=
  listener.spec.className = className ∧ getPodPorts pod = .ok listener.spec.ports ∧
    listener.metadata.ControlledBy pv

instance (listener : Listener) (className : String) (pod : Pod) (pv : PersistentVolume) :
    Decidable (listener.AsAsked className pod pv) :=
  inferInstanceAs (Decidable (_ ∧ _ ∧ _))

/-- The Listener that is asked for is as it is asked for, under the name of the claim. -/
theorem Cluster.askedListener_asAsked {cluster : Cluster} {n : NodeServer}
    (documented : n.runtime.Documented) {volumeContext : VolumeContext} {pv : PersistentVolume}
    {pod : Pod} {sent : Listener} {className : String}
    (classed : volumeContext.listenerClassName = some className)
    (asked : cluster.askedListener n volumeContext pv pod = .ok sent) :
    sent.AsAsked className pod pv ∧ ∃ podNamespace claimRef,
      volumeContext.podNamespace = some podNamespace ∧ pv.claimRef = some claimRef ∧
        sent.metadata.key = ⟨podNamespace, claimRef.name⟩ := by
  obtain ⟨name, named, podNamespace, spaced, listenerClass, stored, claimRef, claimed, pvc, held,
    ports, ported, ownerReferences, owned, rfl⟩ := Cluster.askedListener_eq_ok.mp asked
  obtain rfl : className = name := Option.some.inj (classed.symm.trans named)
  have key : pvc.metadata.key = claimRef := cluster.pvcs.keyed held
  refine ⟨⟨cluster.listenerClasses.keyed stored, ported, documented.controls owned⟩,
    podNamespace, claimRef, spaced, claimed, ?_⟩
  rw [← key]
  rfl

/-- A Listener that a context names is read in the namespace of the pod. -/
theorem getListener_named (n : NodeServer) (api : ApiServer) (cluster : Cluster)
    {volumeContext : VolumeContext} {podNamespace listenerName : String} (pv : PersistentVolume)
    (pod : Pod) (spaced : volumeContext.podNamespace = some podNamespace)
    (named : volumeContext.listenerName = some listenerName) :
    (getListener n pod pv volumeContext).run (serve api) cluster =
      (readOf (cluster.listeners.get ⟨podNamespace, listenerName⟩), cluster) := by
  rw [getListener, named, spaced]
  exact run_ask (serve api) (.getListener ⟨podNamespace, listenerName⟩) cluster

/-- Without a name in the context, the Listener is the one asked for, or the one under its name. -/
theorem getListener_eq_ok {n : NodeServer} {api : ApiServer} {cluster after : Cluster}
    {volumeContext : VolumeContext} {pv : PersistentVolume} {pod : Pod} {listener : Listener}
    (unnamed : volumeContext.listenerName = none) :
    (getListener n pod pv volumeContext).run (serve api) cluster = (.ok listener, after) ↔
      ∃ sent, cluster.askedListener n volumeContext pv pod = .ok sent ∧
        cluster.storing api sent = (listener, after) := by
  rw [getListener, unnamed, createListener_run n api cluster fun _ _ => rfl]
  cases cluster.askedListener n volumeContext pv pod with
  | error failure => simp
  | ok sent => simp [storeListener_run, Prod.ext_iff]

/-- Without a name in the context, no Listener is returned if none can be asked for. -/
theorem getListener_eq_error {n : NodeServer} {api : ApiServer} {cluster : Cluster}
    {volumeContext : VolumeContext} {pv : PersistentVolume} {pod : Pod} {failure : Failure}
    (unnamed : volumeContext.listenerName = none) :
    ((getListener n pod pv volumeContext).run (serve api) cluster).1 = .error failure ↔
      cluster.askedListener n volumeContext pv pod = .error failure := by
  rw [getListener, unnamed, createListener_run n api cluster fun _ _ => rfl]
  cases cluster.askedListener n volumeContext pv pod with
  | error other => simp
  | ok sent => simp [storeListener_run]

/-- The Listener of a volume that names a class only has this class, the ports of the pod and the
volume as its controller, if and only if this holds of a Listener that was there before under the
name of the claim. -/
theorem getListener_asAsked_iff (n : NodeServer) (documented : n.runtime.Documented)
    (api : ApiServer) {cluster after : Cluster} {volumeContext : VolumeContext}
    {pv : PersistentVolume} {pod : Pod} {className : String} {listener : Listener}
    (unnamed : volumeContext.listenerName = none)
    (classed : volumeContext.listenerClassName = some className)
    (resolved : (getListener n pod pv volumeContext).run (serve api) cluster =
      (.ok listener, after)) :
    listener.AsAsked className pod pv ↔
      ∀ podNamespace claimRef existing, volumeContext.podNamespace = some podNamespace →
        pv.claimRef = some claimRef →
        cluster.listeners.get ⟨podNamespace, claimRef.name⟩ = some existing →
          existing.AsAsked className pod pv := by
  obtain ⟨sent, asked, stored⟩ := (getListener_eq_ok unnamed).mp resolved
  obtain ⟨asAsked, podNamespace, claimRef, spaced, claimed, key⟩ :=
    Cluster.askedListener_asAsked documented classed asked
  rw [Cluster.storing, key] at stored
  simp only [spaced, claimed, Option.some.injEq]
  cases existing : cluster.listeners.get ⟨podNamespace, claimRef.name⟩ with
  | none =>
    simp only [existing] at stored
    obtain ⟨rfl, -⟩ := Prod.mk.inj stored
    refine iff_of_true asAsked ?_
    rintro _ _ other rfl rfl found
    rw [existing] at found
    cases found
  | some old =>
    simp only [existing] at stored
    obtain ⟨rfl, -⟩ := Prod.mk.inj stored
    constructor
    · rintro asked _ _ other rfl rfl found
      rw [existing] at found
      obtain rfl := Option.some.inj found
      exact asked
    · intro every
      exact every _ _ _ rfl rfl existing

/-- The claim of `webVolume`. -/
def webClaim : PersistentVolumeClaim where
  metadata := { name := "web-data", ns := "default" }

/-- A cluster in which `webVolume` asks for a Listener, with the Listeners that are there. -/
def claimCluster (listeners : List Listener) : Cluster where
  listeners := .ofList listeners
  listenerClasses := .ofList [webClass .nodePort .hostname]
  nodes := .ofList [webNode]
  pods := .ofList [webPod]
  pvs := .ofList [webVolume]
  pvcs := .ofList [webClaim]

/-- A volume context that names the class only. -/
def classContext : StringMap String :=
  ((StringMap.single csiStoragePodName "web-0").insert csiStoragePodNamespace "default").insert
    listenerClassAnnotation "external"

/-- A Listener under the name of the claim that was made for something else. -/
def otherListener : Listener where
  metadata := { name := "web-data", ns := "default" }
  spec := { className := "internal", ports := [{ name := "https", port := 443 }] }

/-- A Listener that is created is as it is asked for. -/
theorem getListener_created : ∃ listener after,
    (getListener .standard webPod webVolume (newVolumeContextFromMap classContext)).run
      (serve (.filling "")) (claimCluster []) = (.ok listener, after) ∧
    listener.AsAsked "external" webPod webVolume := by
  have returns : ((getListener .standard webPod webVolume (newVolumeContextFromMap classContext)).run
      (serve (.filling "")) (claimCluster [])).1.isOk = true := by decide +kernel
  rcases ran : (getListener .standard webPod webVolume (newVolumeContextFromMap classContext)).run
    (serve (.filling "")) (claimCluster []) with ⟨outcome | listener, after⟩
  · rw [ran] at returns
    cases returns
  · refine ⟨listener, after, rfl, (getListener_asAsked_iff .standard
      ControllerRuntime.standard_documented (.filling "") (by decide +kernel) (by decide +kernel)
      ran).mpr ?_⟩
    intro podNamespace claimRef existing _ _ found
    cases found

/-- A Listener that was there before is taken with its class, its ports and its owners. -/
theorem getListener_existing :
    ((getListener .standard webPod webVolume (newVolumeContextFromMap classContext)).run
      (serve (.filling "")) (claimCluster [otherListener])).1 = .ok otherListener ∧
    otherListener.spec.className ≠ "external" ∧
    getPodPorts webPod ≠ .ok otherListener.spec.ports ∧
    ¬ otherListener.metadata.ControlledBy webVolume := by
  refine ⟨by decide +kernel, by decide, by decide, by decide⟩

/-- The failure is a returned error. -/
def Failure.Returned (failure : Failure) : Prop := failure ≠ .nilDereference

/-- A wrapped error is returned if the error is. -/
theorem Failure.Returned.wrap {failure : Failure} (returned : failure.Returned)
    (wrapper : GoError → GoError) : (failure.wrap wrapper).Returned := by
  cases failure with
  | nilDereference => exact absurd rfl returned
  | error value => simp [Failure.wrap, Failure.Returned]

/-- A call returns its error. -/
theorem failsAs_ask (request : Call) : (ask request).FailsAs Failure.Returned := by
  intro reply
  cases reply with
  | ok value => trivial
  | error failure => simp [Program.FailsAs, Failure.Returned]

/-- A status for the returned errors leaves a nil dereference. -/
theorem withStatus_nil_iff {σ α : Type} {server : (request : Call) → σ → Reply request × σ}
    {code : Code} {program : Prog α} {state : σ} :
    ((withStatus code program).run server state).1 = .error .nilDereference ↔
      (program.run server state).1 = .error .nilDereference := by
  rw [withStatus, Program.run_mapError]
  cases (program.run server state).1 with
  | ok value => simp [Except.mapError]
  | error failure => cases failure <;> simp [Except.mapError, Failure.wrap]

/-- The files are written, or an error is returned. -/
theorem publishToNode_failsAs (n : NodeServer) (targetPath : String) (data : List IngressAddress) :
    (publishToNode n targetPath data).FailsAs Failure.Returned := by
  have status : ∀ {α : Type} {program : Prog α}, program.FailsAs Failure.Returned →
      (withStatus .internal program).FailsAs Failure.Returned := by
    intro α program fails
    exact fails.mapError fun failure returned => returned.wrap _
  have mounts : (mount targetPath).FailsAs Failure.Returned := by
    refine (status (failsAs_ask _)).bind fun exist => ?_
    cases exist with
    | true => simp [Program.FailsAs, Failure.Returned]
    | false => exact (status (failsAs_ask _)).bind fun _ => status (failsAs_ask _)
  have ports : ∀ path list, (writePorts path list).FailsAs Failure.Returned := by
    intro path list
    induction list with
    | nil => trivial
    | cons entry list ih => exact (failsAs_ask _).bind fun _ => ih
  have addresses : ∀ path last list, (writeAddresses n path last list).FailsAs Failure.Returned := by
    intro path last list
    induction list generalizing last with
    | nil => trivial
    | cons element list ih =>
      refine (failsAs_ask _).bind fun _ => .bind ?_ fun _ => ih _
      exact (failsAs_ask _).bind fun _ => (failsAs_ask _).bind fun _ => ports _ _
  refine (status mounts).bind fun _ => status ?_
  exact (failsAs_ask _).bind fun _ => (addresses _ _ _).bind fun _ => failsAs_ask _

/-- Calls on objects run on a node as they do against the API server. -/
theorem run_serveNode (api : ApiServer) {α : Type} {post : α → Prop} {program : Prog α}
    (objects : program.Ensures Call.OnObjects post) (world : World) :
    program.run (serveNode api) world = ((program.run (serve api) world.cluster).1,
      { world with cluster := (program.run (serve api) world.cluster).2 }) := by
  induction program generalizing world with
  | done outcome => rfl
  | call request next ih =>
    have step : serveNode api request world = ((serve api request world.cluster).1,
        { world with cluster := (serve api request world.cluster).2 }) := by
      rw [serveNode, if_neg objects.1]
    rw [Program.run_call, Program.run_call, step]
    exact ih _ (objects.2 _) _

/-- The part of `publishToCluster` after the Listener is found. -/
def publishListener (n : NodeServer) (pod : Pod) (pv : PersistentVolume) (listener : Listener) :
    Prog (Publication × List IngressAddress) := do
  let pv ← withStatus .internal (patchPVLabelsWithListener pv listener)
  let pod ← withStatus .internal (patchPodLabelsWithListener pod listener)
  let (fresh, data) ← withStatus .internal (getAddresses listener pod)
  let (volumeName, podListeners) ← withStatus .internal (publishPodListener n pod pv fresh data)
  return ({ listener, volumeName, podListeners }, data)

/-- The object is written, or an error is returned. -/
theorem createOrUpdatePodListeners_failsAs (sent : PodListeners) (volumeName : String) :
    (createOrUpdatePodListeners sent volumeName).FailsAs Failure.Returned := by
  have text : ∀ {α : Type} {message : String} {program : Prog α},
      program.FailsAs Failure.Returned → (withText message program).FailsAs Failure.Returned := by
    intro α message program fails
    exact fails.mapError fun failure returned => returned.wrap _
  intro reply
  cases reply with
  | ok existing => exact (text (failsAs_ask _)).bind fun _ => trivial
  | error failure =>
    show Program.FailsAs _ (ite _ _ _)
    split
    · exact (text (failsAs_ask _)).bind fun _ => trivial
    · simp [Program.FailsAs, errorText, Failure.Returned]

/-- A published volume without a claim ends in a nil dereference, and only such a volume does. -/
theorem publishPodListener_nil_iff (n : NodeServer) (pod : Pod) (pv : PersistentVolume)
    (listener : Listener) (data : List IngressAddress) (api : ApiServer) (cluster : Cluster) :
    ((publishPodListener n pod pv listener data).run (serve api) cluster).1 =
      .error .nilDereference ↔ pv.claimRef = none := by
  rw [publishPodListener]
  cases claimed : pv.claimRef with
  | none => simp [deref]
  | some claimRef =>
    simp only [deref, Program.lift_eq, Program.done_ok_bind, reduceCtorEq, iff_false]
    have volume : (Program.done (findPodVolumeNameForPVC pod claimRef.name) : Prog String).FailsAs
        Failure.Returned := by
      rw [findPodVolumeNameForPVC]
      cases pod.spec.volumes.find? (·.isFor pod claimRef.name) with
      | none => simp [errorText, Program.FailsAs, Failure.Returned]
      | some found => trivial
    intro failed
    refine Program.FailsAs.run (volume.bind fun name => ?_) failed rfl
    exact (createOrUpdatePodListeners_failsAs _ _).bind fun _ => trivial

/-- The addresses of a pod are found, or an error is returned. -/
theorem Cluster.addressesFor_returned (cluster : Cluster) (listener : Listener) (pod : Pod)
    {failure : Failure} (failed : cluster.addressesFor listener pod = .error failure) :
    failure.Returned := by
  rintro rfl
  rw [Cluster.addressesFor] at failed
  split at failed
  · cases prior : cluster.priorAddress pod.spec.nodeName with
    | error failure =>
      rw [prior] at failed
      obtain rfl := Except.error.inj failed
      exact cluster.priorAddress_not_nil _ prior
    | ok address =>
      rw [prior] at failed
      cases failed
  · split at failed <;> cases failed

/-- A stored volume is stored with the labels of the Listener. -/
theorem patchPVLabelsWithListener_stored (api : ApiServer) {cluster : Cluster}
    {pv : PersistentVolume} (listener : Listener)
    (stored : cluster.pvs.get pv.metadata.name = some pv) :
    ∃ patched, (patchPVLabelsWithListener pv listener).run (serve api) cluster =
        (.ok patched, { cluster with
          pvs := cluster.pvs.insert patched
          revision := cluster.nextRevision }) ∧
      patched = { pv.tied listener with metadata := { (pv.tied listener).metadata with
        resourceVersion := patched.metadata.resourceVersion } } := by
  obtain ⟨patched, served, same⟩ := serve_patchPV_own api
    (pv.metadata.labels.copy (listenerMetaLabels listener)) stored
  exact ⟨patched, run_ask_ok _ served, same⟩

/-- A stored pod is stored with the label of the Listener. -/
theorem patchPodLabelsWithListener_stored (api : ApiServer) {cluster : Cluster} {pod : Pod}
    (listener : Listener) (stored : cluster.pods.get pod.metadata.key = some pod) :
    ∃ patched, (patchPodLabelsWithListener pod listener).run (serve api) cluster =
        (.ok patched, { cluster with
          pods := cluster.pods.insert patched
          revision := cluster.nextRevision }) ∧
      patched = { pod.mounting listener with metadata := { (pod.mounting listener).metadata with
        resourceVersion := patched.metadata.resourceVersion } } := by
  obtain ⟨patched, served, same⟩ := serve_patchPod_own api
    (pod.metadata.labels.copy (listenerMountPodLabels listener)) stored
  exact ⟨patched, run_ask_ok _ served, same⟩

/-- The part after the Listener is found first labels the volume and the pod. -/
theorem publishListener_labelled (n : NodeServer) (api : ApiServer) {cluster : Cluster} {pod : Pod}
    {pv : PersistentVolume} (listener : Listener)
    (volume : cluster.pvs.get pv.metadata.name = some pv)
    (held : cluster.pods.get pod.metadata.key = some pod) :
    ∃ tied mounted revision,
      tied = { pv.tied listener with metadata := { (pv.tied listener).metadata with
        resourceVersion := tied.metadata.resourceVersion } } ∧
      mounted = { pod.mounting listener with metadata := { (pod.mounting listener).metadata with
        resourceVersion := mounted.metadata.resourceVersion } } ∧
      (publishListener n pod pv listener).run (serve api) cluster =
        Program.run (serve api) (do
          let (fresh, data) ← withStatus .internal (getAddresses listener mounted)
          let (volumeName, podListeners) ←
            withStatus .internal (publishPodListener n mounted tied fresh data)
          return (⟨listener, volumeName, podListeners⟩, data))
        { cluster with
          pvs := cluster.pvs.insert tied, pods := cluster.pods.insert mounted, revision } := by
  obtain ⟨tied, tiedRun, tiedIs⟩ := patchPVLabelsWithListener_stored api listener volume
  let labelled : Cluster := { cluster with
    pvs := cluster.pvs.insert tied, revision := cluster.nextRevision }
  obtain ⟨mounted, mountedRun, mountedIs⟩ :=
    patchPodLabelsWithListener_stored api listener (show labelled.pods.get _ = _ from held)
  refine ⟨tied, mounted, labelled.nextRevision, tiedIs, mountedIs, ?_⟩
  rw [publishListener, Program.run_bind_ok _ (run_withStatus_ok _ _ tiedRun),
    Program.run_bind_ok _ (run_withStatus_ok _ _ mountedRun)]

/-- With the Listener found, a nil pointer is dereferenced if the addresses are found and the
volume has no claim. -/
theorem publishListener_nil_iff (n : NodeServer) (api : ApiServer) {cluster : Cluster} {pod : Pod}
    {pv : PersistentVolume} {listener : Listener}
    (volume : cluster.pvs.get pv.metadata.name = some pv)
    (held : cluster.pods.get pod.metadata.key = some pod)
    (stored : cluster.listeners.get listener.metadata.key = some listener) :
    ((publishListener n pod pv listener).run (serve api) cluster).1 = .error .nilDereference ↔
      (cluster.addressesFor listener pod).isOk = true ∧ pv.claimRef = none := by
  obtain ⟨tied, mounted, revision, tiedIs, mountedIs, run⟩ :=
    publishListener_labelled n api listener volume held
  have claims : tied.claimRef = pv.claimRef := by
    rw [tiedIs]
    rfl
  generalize labelled : ({ cluster with
    pvs := cluster.pvs.insert tied, pods := cluster.pods.insert mounted, revision } : Cluster) =
      both at run
  have still : both.listeners.get listener.metadata.key = some listener := by
    rw [← labelled]
    exact stored
  have same : both.addressesFor listener mounted = cluster.addressesFor listener pod := by
    rw [← labelled, mountedIs]
    rfl
  rw [run, Program.run_bind, withStatus, Program.run_mapError, getAddresses_run api mounted still,
    same]
  cases found : cluster.addressesFor listener pod with
  | error failure =>
    have returned := (cluster.addressesFor_returned listener pod found).wrap
      fun value => .status .internal value.message
    simpa [Except.mapError, Except.map, Except.isOk, Except.toBool, Failure.Returned] using returned
  | ok data =>
    have last := publishPodListener_nil_iff n mounted tied listener data api both
    rw [claims] at last
    show (Program.run (serve api) (_ >>= _) both).1 = _ ↔ _
    rw [Program.run_bind_eq_error, withStatus_nil_iff, last]
    simp [Except.isOk, Except.toBool]

/-- The class path dereferences a nil pointer if the class is not named, or if the class is there
and the volume has no claim. -/
theorem Cluster.askedListener_nil_iff (cluster : Cluster) {n : NodeServer}
    (documented : n.runtime.Documented) {volumeContext : VolumeContext} {podNamespace : String}
    (spaced : volumeContext.podNamespace = some podNamespace) (pv : PersistentVolume) (pod : Pod) :
    cluster.askedListener n volumeContext pv pod = .error .nilDereference ↔
      ¬ ∃ className, volumeContext.listenerClassName = some className ∧
        (pv.claimRef = none → cluster.listenerClasses.get className = none) := by
  have text : ∀ {α : Type} {message : String} {outcome : Except Failure α},
      textBefore message outcome = .error .nilDereference ↔ outcome = .error .nilDereference := by
    intro α message outcome
    cases outcome with
    | ok value => simp [textBefore, Except.mapError]
    | error failure => cases failure <;> simp [textBefore, Except.mapError, Failure.wrap]
  have read : ∀ {α : Type} {stored : Option α}, readOf stored ≠ .error .nilDereference := by
    intro α stored
    cases stored <;> simp [readOf, Except.mapError]
  have ports : getPodPorts pod ≠ .error .nilDereference := by
    rw [getPodPorts]
    split <;> simp
  simp only [Cluster.askedListener, bind_eq_error, spaced, text, read, ports,
    documented.returns, textBefore_eq_ok, readOf_eq_ok, deref_eq_ok]
  cases volumeContext.listenerClassName with
  | none => simp [deref]
  | some className =>
    cases pv.claimRef with
    | some claimRef => simp [deref]
    | none => simp [deref, Option.ne_none_iff_exists']

/-- What must be set when a volume is published for a pod. With a Listener of its own name the
volume needs a claim as soon as the addresses of the Listener are found, with a class as soon as
the class is. -/
def Cluster.ListenerSettable (cluster : Cluster) (volumeContext : VolumeContext)
    (podNamespace : String) (pv : PersistentVolume) (pod : Pod) : Prop :=
  match volumeContext.listenerName with
  | some listenerName => pv.claimRef = none → ∀ listener,
      cluster.listeners.get ⟨podNamespace, listenerName⟩ = some listener →
        (cluster.addressesFor listener pod).isOk = false
  | none => ∃ className, volumeContext.listenerClassName = some className ∧
      (pv.claimRef = none → cluster.listenerClasses.get className = none)

/-- What must be set when a volume is published: the pod, as soon as the volume is there, and what
its Listener takes, as soon as the pod is. -/
def Cluster.Settable (cluster : Cluster) (request : NodePublishVolumeRequest) : Prop :=
  let volumeContext := newVolumeContextFromMap request.volumeContext
  ∀ pv, cluster.pvs.get request.volumeId = some pv →
    ∃ podName podNamespace, volumeContext.pod = some podName ∧
      volumeContext.podNamespace = some podNamespace ∧
        ∀ pod, cluster.pods.get ⟨podNamespace, podName⟩ = some pod →
          cluster.ListenerSettable volumeContext podNamespace pv pod

/-- The rest of a publication for a stored volume and a stored pod dereferences no nil pointer if
and only if what its Listener takes is set. -/
theorem getListener_publishListener_nil_iff (n : NodeServer) (documented : n.runtime.Documented)
    (api : ApiServer) {cluster : Cluster} {volumeContext : VolumeContext} {podNamespace : String}
    (spaced : volumeContext.podNamespace = some podNamespace) {pv : PersistentVolume} {pod : Pod}
    (volume : cluster.pvs.get pv.metadata.name = some pv)
    (held : cluster.pods.get pod.metadata.key = some pod) :
    ((withStatus .internal (getListener n pod pv volumeContext) >>= publishListener n pod pv).run
      (serve api) cluster).1 ≠ .error .nilDereference ↔
        cluster.ListenerSettable volumeContext podNamespace pv pod := by
  rw [Cluster.ListenerSettable]
  cases named : volumeContext.listenerName with
  | some listenerName =>
    have run := getListener_named n api cluster pv pod spaced named
    cases stored : cluster.listeners.get ⟨podNamespace, listenerName⟩ with
    | none =>
      rw [stored] at run
      rw [Program.run_bind, withStatus, Program.run_mapError, run]
      simp [readOf, Except.mapError, Failure.wrap, stored]
    | some listener =>
      have kept : cluster.listeners.get listener.metadata.key = some listener := by
        rw [cluster.listeners.keyed stored, stored]
      rw [stored] at run
      rw [Program.run_bind_ok _ (run_withStatus_ok _ _ run), ne_eq,
        publishListener_nil_iff n api volume held kept]
      cases claimed : pv.claimRef <;> simp [stored]
  | none =>
    rw [ne_eq, Program.run_bind_eq_error, withStatus_nil_iff, getListener_eq_error named,
      cluster.askedListener_nil_iff documented spaced, or_iff_left, not_not]
    rintro ⟨listener, middle, found, failed⟩
    obtain ⟨sent, asked, stored⟩ := (getListener_eq_ok named).mp
      ((Program.run_mapError_eq_ok _).mp found)
    obtain ⟨-, -, -, -, -, -, claimRef, claimed, -⟩ := Cluster.askedListener_eq_ok.mp asked
    obtain rfl : (cluster.storing api sent).1 = listener := congrArg Prod.fst stored
    obtain rfl : (cluster.storing api sent).2 = middle := congrArg Prod.snd stored
    rw [publishListener_nil_iff n api (by rw [cluster.storing_frame]; exact volume)
      (by rw [cluster.storing_frame]; exact held) (cluster.storing_get api sent), claimed] at failed
    cases failed.2

/-- The part of a publication on the cluster dereferences no nil pointer if and only if what it
takes is set. -/
theorem publishToCluster_nil_iff (n : NodeServer) (documented : n.runtime.Documented)
    (api : ApiServer) (cluster : Cluster) {request : NodePublishVolumeRequest}
    (accepted : validateNodePublishVolumeRequest request = .ok ()) :
    ((publishToCluster n request).run (serve api) cluster).1 ≠ .error .nilDereference ↔
      cluster.Settable request := by
  have volumeRead : (getPV request.volumeId).run (serve api) cluster =
      (readOf (cluster.pvs.get request.volumeId), cluster) :=
    run_ask (serve api) (.getPV { name := request.volumeId }) cluster
  rw [publishToCluster, accepted, Cluster.Settable]
  simp only [Program.lift_eq, Program.done_ok_bind]
  cases volume : cluster.pvs.get request.volumeId with
  | none =>
    rw [volume] at volumeRead
    rw [Program.run_bind_error _ volumeRead]
    simp
  | some pv =>
    rw [volume] at volumeRead
    rw [Program.run_bind_ok _ volumeRead]
    cases (newVolumeContextFromMap request.volumeContext).pod with
    | none => simp [deref]
    | some podName =>
      cases spaced : (newVolumeContextFromMap request.volumeContext).podNamespace with
      | none => simp [deref]
      | some podNamespace =>
        have podRead : (getPod podName podNamespace).run (serve api) cluster =
            (readOf (cluster.pods.get ⟨podNamespace, podName⟩), cluster) :=
          run_ask (serve api) (.getPod ⟨podNamespace, podName⟩) cluster
        simp only [deref, Program.done_ok_bind]
        cases held : cluster.pods.get ⟨podNamespace, podName⟩ with
        | none =>
          rw [held] at podRead
          rw [Program.run_bind, withStatus, Program.run_mapError, podRead]
          simp [readOf, Except.mapError, Failure.wrap, held]
        | some pod =>
          rw [held] at podRead
          rw [Program.run_bind_ok _ (run_withStatus_ok _ _ podRead)]
          refine (getListener_publishListener_nil_iff n documented api spaced
            (by rw [cluster.pvs.keyed volume, volume])
            (by rw [cluster.pods.keyed held, held])).trans ?_
          simp [held]

/-- A publication that passes validation dereferences no nil pointer if and only if the pod is
named as soon as the volume is there, and what its Listener takes is set as soon as the pod is. -/
theorem nodePublishVolume_returns_iff (n : NodeServer) (documented : n.runtime.Documented)
    (api : ApiServer) (world : World) {request : NodePublishVolumeRequest}
    (accepted : validateNodePublishVolumeRequest request = .ok ()) :
    ((nodePublishVolume n request).run (serveNode api) world).1 ≠ .error .nilDereference ↔
      world.cluster.Settable request := by
  have files : ∀ published : Publication × List IngressAddress,
      (publishToNode n request.targetPath published.2 >>= fun _ => pure published.1).FailsAs
        Failure.Returned := fun published =>
    (publishToNode_failsAs n request.targetPath published.2).bind fun _ => trivial
  rw [← publishToCluster_nil_iff n documented api world.cluster accepted, nodePublishVolume, ne_eq,
    Program.run_bind_eq_error, run_serveNode api (publishToCluster_ensures n request), ne_eq]
  refine not_congr (or_iff_left ?_)
  rintro ⟨published, middle, -, failed⟩
  exact (files published).run failed rfl

/-- A volume with a claim that names its Listener is published, or an error is returned. -/
theorem nodePublishVolume_returns_web :
    ((nodePublishVolume .standard webRequest).run (serveNode (.filling ""))
      { cluster := webVolumeCluster, files := {} }).1 ≠ .error .nilDereference := by
  refine (nodePublishVolume_returns_iff .standard ControllerRuntime.standard_documented (.filling "")
    { cluster := webVolumeCluster, files := {} } (by decide +kernel)).mpr ?_
  intro pv volume
  refine ⟨"web-0", "default", by decide +kernel, by decide +kernel, fun pod held => ?_⟩
  have named : (newVolumeContextFromMap webRequest.volumeContext).listenerName = some "web" := by
    decide +kernel
  have only : webVolumeCluster.pvs.get webRequest.volumeId = some webVolume := by decide +kernel
  obtain rfl : webVolume = pv := Option.some.inj (only.symm.trans volume)
  rw [Cluster.ListenerSettable, named]
  intro unclaimed
  cases unclaimed

/-- A context without a pod and a volume without a claim each pass validation and end in a nil
dereference. -/
theorem nodePublishVolume_unset :
    (validateNodePublishVolumeRequest { webRequest with
        volumeContext := .single annotationListenerName "web" } = .ok () ∧
      ((nodePublishVolume .standard { webRequest with
        volumeContext := .single annotationListenerName "web" }).run (serveNode (.filling ""))
        { cluster := webVolumeCluster, files := {} }).1 = .error .nilDereference) ∧
    (validateNodePublishVolumeRequest webRequest = .ok () ∧
      ((nodePublishVolume .standard webRequest).run (serveNode (.filling ""))
        { cluster := { webVolumeCluster with pvs := .ofList [{ webVolume with claimRef := none }] }
          files := {} }).1 = .error .nilDereference) := by
  -- publications cannot be compared, errors can
  have failed : ∀ {outcome : Except Failure Publication},
      (outcome.map fun _ => ()) = .error .nilDereference → outcome = .error .nilDereference := by
    rintro (failure | publication) same
    · exact congrArg _ (Except.error.inj same)
    · cases same
  refine ⟨⟨by decide +kernel, failed (by decide +kernel)⟩, by decide +kernel,
    failed (by decide +kernel)⟩

end ListenerOperator
