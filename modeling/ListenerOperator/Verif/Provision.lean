import ListenerOperator.Csi.Controller
import ListenerOperator.Verif.Resolution

/-!
# Volumes of claims

The controller service makes a volume from the annotations of a claim, and the node plugin reads
the same annotations back from the volume context, with the pod written over them. Both find the
same Listener and the same class. The topology that a volume gets reaches the scheduler only if
the plugin says that it has one. The capabilities of a volume are checked when it is created, but
not when they are to be validated.
-/

namespace ListenerOperator

open Interaction Outcome MergePatch Keyed

/-- Give a returned error a status code. -/
def statusOver {α : Type} (code : Code) (outcome : Except Failure α) : Except Failure α :=
  outcome.mapError (Failure.wrap fun value => .status code value.message)

/-- A status code for the error changes no value. -/
@[simp] theorem statusOver_eq_ok {α : Type} {code : Code} {outcome : Except Failure α} {value : α} :
    statusOver code outcome = .ok value ↔ outcome = .ok value := by
  cases outcome <;> simp [statusOver, Except.mapError]

/-- The class that a volume context names, by a Listener or by itself. -/
def Cluster.classNamed (cluster : Cluster) (volumeContext : StringMap String) (ns : String) :
    Except Failure ListenerClass :=
  match volumeContext[annotationListenerName]? with
  | some listenerName => do
    let listener ← textBefore "get listener error: "
      (readOf (cluster.listeners.get ⟨ns, listenerName⟩))
    textBefore "get listener class from listener error: "
      (readOf (cluster.listenerClasses.get listener.spec.className))
  | none =>
    match volumeContext[ listenerClassAnnotation]? with
    | some className =>
      textBefore "get listener class error: " (readOf (cluster.listenerClasses.get className))
    | none => errorText "neither listener name nor listener class name found in volume context"

/-- The volume context of a claim. -/
def Cluster.claimContext (cluster : Cluster) (params : CreateVolumeRequestParams) :
    Except Failure (StringMap String) := do
  let pvc ← textBefore "get pvc error: "
    (readOf (cluster.pvcs.get ⟨params.pvcNamespace, params.pvcName⟩))
  let annotations := pvc.metadata.annotations
  if annotations[ listenerClassAnnotation]? = none ∧ annotations[annotationListenerName]? = none then
    errorText unannotatedMessage
  else return annotations

/-- The volume that is created for a request. -/
def Cluster.createdVolume (cluster : Cluster) (request : CreateVolumeRequest) :
    Except Failure CreatedVolume := do
  statusOver .invalidArgument (validateCreateVolumeRequest request)
  let requiredCap := (request.capacityRange.map CapacityRange.requiredBytes).getD 0
  let params ← statusOver .invalidArgument (textBefore "Get createVolumeRequestParams error: "
    (newCreateVolumeRequestParamsFromMap request.parameters))
  let volumeCtx ← statusOver .invalidArgument (textBefore "Get listener Volume refer error: "
    (cluster.claimContext params))
  let listenerClass ← statusOver .internal (textBefore "Get listenerClass error: "
    (cluster.classNamed volumeCtx params.pvcNamespace))
  return {
    volumeId := request.name
    capacityBytes := requiredCap
    volumeContext := volumeCtx
    accessibleTopology := getAccessibleTopology request listenerClass }

section Run

variable {σ α : Type} {server : (request : Call) → σ → Reply request × σ} {program : Prog α}
  {state after : σ} {outcome : Except Failure α}

/-- The outcome of a program with a text before its errors. -/
theorem run_withText (text : String) (ran : program.run server state = (outcome, after)) :
    (withText text program).run server state = (textBefore text outcome, after) := by
  rw [withText, Program.run_mapError, ran]
  rfl

/-- The outcome of a program with a status for its errors. -/
theorem run_withStatus (code : Code) (ran : program.run server state = (outcome, after)) :
    (withStatus code program).run server state = (statusOver code outcome, after) := by
  rw [withStatus, Program.run_mapError, ran]
  rfl

end Run

/-- The class is read, and nothing is written. -/
theorem getVolumeListenerClass_run (api : ApiServer) (cluster : Cluster)
    (volumeContext : StringMap String) (ns : String) :
    (getVolumeListenerClass volumeContext ns).run (serve api) cluster =
      (cluster.classNamed volumeContext ns, cluster) := by
  rw [getVolumeListenerClass, Cluster.classNamed]
  cases volumeContext[annotationListenerName]? with
  | some listenerName =>
    refine Program.run_bind_reads _ (run_withText_read _ rfl) fun listener => ?_
    exact run_withText_read _ rfl
  | none =>
    cases volumeContext[ listenerClassAnnotation]? with
    | some className => exact run_withText_read _ rfl
    | none => rfl

/-- The annotations of the claim are read, and nothing is written. -/
theorem getVolumeContext_run (api : ApiServer) (cluster : Cluster)
    (params : CreateVolumeRequestParams) :
    (getVolumeContext params).run (serve api) cluster = (cluster.claimContext params, cluster) := by
  rw [getVolumeContext, Cluster.claimContext]
  refine Program.run_bind_reads _ (run_withText_read _ rfl) fun pvc => ?_
  dsimp only
  split <;> rfl

/-- The creation of a volume reads the claim, the Listener and the class, and writes nothing. -/
theorem createVolume_run (api : ApiServer) (cluster : Cluster) (request : CreateVolumeRequest) :
    (createVolume request).run (serve api) cluster = (cluster.createdVolume request, cluster) := by
  rw [createVolume, Cluster.createdVolume]
  refine Program.run_bind_reads _ (run_withStatus _ rfl) fun _ => ?_
  refine Program.run_bind_reads _ (run_withStatus _ (run_withText _ rfl)) fun params => ?_
  refine Program.run_bind_reads _ (run_withStatus _ (run_withText _
    (getVolumeContext_run api cluster params))) fun volumeCtx => ?_
  exact Program.run_bind_reads _ (run_withStatus _ (run_withText _
    (getVolumeListenerClass_run api cluster volumeCtx params.pvcNamespace))) fun listenerClass => rfl

/-- What a created volume is made from. -/
theorem Cluster.createdVolume_eq_ok {cluster : Cluster} {request : CreateVolumeRequest}
    {volume : CreatedVolume} (created : cluster.createdVolume request = .ok volume) :
    ∃ params pvc listenerClass,
      newCreateVolumeRequestParamsFromMap request.parameters = .ok params ∧
      cluster.pvcs.get ⟨params.pvcNamespace, params.pvcName⟩ = some pvc ∧
      volume.volumeContext = pvc.metadata.annotations ∧
      cluster.classNamed volume.volumeContext params.pvcNamespace = .ok listenerClass ∧
      volume.accessibleTopology = getAccessibleTopology request listenerClass := by
  simp only [Cluster.createdVolume, Cluster.claimContext, bind_eq_ok, statusOver_eq_ok,
    textBefore_eq_ok, readOf_eq_ok] at created
  obtain ⟨-, -, params, parsed, annotations, ⟨pvc, stored, context⟩, listenerClass, classed, same⟩ :=
    created
  split at context
  · cases context
  · obtain rfl := Except.ok.inj context
    obtain rfl := Except.ok.inj same
    exact ⟨params, pvc, listenerClass, parsed, stored, rfl, classed, rfl⟩

/-- What is written over the volume context when a volume is published for a pod. -/
def podInfo (pod : Pod) (serviceAccountName ephemeral : String) : StringMap String :=
  ((((StringMap.single csiStoragePodName pod.metadata.name).insert
    csiStoragePodNamespace pod.metadata.ns).insert csiStoragePodUID pod.metadata.uid).insert
      csiStorageServiceAccountName serviceAccountName).insert csiStorageEphemeral ephemeral

/-- The keys that are written over the context. -/
theorem podInfo_get (pod : Pod) (serviceAccountName ephemeral key : String) :
    (podInfo pod serviceAccountName ephemeral)[key]? =
      if csiStorageEphemeral = key then some ephemeral
      else if csiStorageServiceAccountName = key then some serviceAccountName
      else if csiStoragePodUID = key then some pod.metadata.uid
      else if csiStoragePodNamespace = key then some pod.metadata.ns
      else if csiStoragePodName = key then some pod.metadata.name else none := by
  simp only [podInfo, StringMap.get_insert, StringMap.get_single]

/-- The pod is the one written over the context, the Listener and the class are those of the
annotations. -/
theorem newVolumeContextFromMap_podInfo (annotations : StringMap String) (pod : Pod)
    (serviceAccountName ephemeral : String) :
    ∃ volumeContext, newVolumeContextFromMap
        (annotations.copy (podInfo pod serviceAccountName ephemeral)) = volumeContext ∧
      volumeContext.pod = some pod.metadata.name ∧
      volumeContext.podNamespace = some pod.metadata.ns ∧
      volumeContext.listenerClassName = annotations[ listenerClassAnnotation]? ∧
      volumeContext.listenerName = annotations[annotationListenerName]? := by
  refine ⟨_, rfl, ?_⟩
  simp only [newVolumeContextFromMap, StringMap.get_copy, podInfo_get]
  simp [csiStoragePodName, csiStoragePodNamespace, csiStoragePodUID, csiStorageServiceAccountName,
    csiStorageEphemeral, listenerClassAnnotation, annotationListenerName]

/-- A class that a context names by a Listener is the class of the Listener. -/
theorem Cluster.classNamed_listener {cluster : Cluster} {volumeContext : StringMap String}
    {ns listenerName : String} {listenerClass : ListenerClass}
    (named : volumeContext[annotationListenerName]? = some listenerName)
    (classed : cluster.classNamed volumeContext ns = .ok listenerClass) :
    ∃ listener, cluster.listeners.get ⟨ns, listenerName⟩ = some listener ∧
      cluster.listenerClasses.get listener.spec.className = some listenerClass := by
  rw [Cluster.classNamed, named] at classed
  simpa only [bind_eq_ok, textBefore_eq_ok, readOf_eq_ok] using classed

/-- A class that a context names without a Listener is there under its name. -/
theorem Cluster.classNamed_class {cluster : Cluster} {volumeContext : StringMap String}
    {ns : String} {listenerClass : ListenerClass}
    (unnamed : volumeContext[annotationListenerName]? = none)
    (classed : cluster.classNamed volumeContext ns = .ok listenerClass) :
    volumeContext[ listenerClassAnnotation]? = some listenerClass.metadata.name := by
  rw [Cluster.classNamed, unnamed] at classed
  cases annotated : volumeContext[ listenerClassAnnotation]? with
  | none =>
    rw [annotated] at classed
    cases classed
  | some className =>
    rw [annotated] at classed
    rw [cluster.listenerClasses.keyed (readOf_eq_ok.mp (textBefore_eq_ok.mp classed))]

/-- A volume that was created for a claim is published, as long as the cluster stays as it is,
through the Listener and the class it was created for: the pod and its namespace are those of the
pod, what is dereferenced is set, the Listener is in the namespace of the pod and is of the class
that gave the topology, and a Listener that the claim names goes before a class. -/
theorem createVolume_getListener (n : NodeServer) (documented : n.runtime.Documented)
    (api : ApiServer) {cluster after : Cluster} {request : CreateVolumeRequest}
    {volume : CreatedVolume}
    (created : (createVolume request).run (serve api) cluster = (.ok volume, after))
    (pvc : ObjectKey) (named : request.parameters[csiStoragePVCName]? = some pvc.name)
    (spaced : request.parameters[csiStoragePVCNamespace]? = some pvc.ns)
    (unused : volume.volumeContext[annotationListenerName]? = none →
      cluster.listeners.get pvc = none)
    (pv : PersistentVolume) (bound : pv.claimRef = some pvc) (pod : Pod)
    (inside : pod.metadata.ns = pvc.ns) (serviceAccountName ephemeral : String) :
    ∃ volumeContext listenerClass,
      newVolumeContextFromMap (volume.volumeContext.copy
        (podInfo pod serviceAccountName ephemeral)) = volumeContext ∧
      volumeContext.pod = some pod.metadata.name ∧
      volumeContext.podNamespace = some pod.metadata.ns ∧
      ((getListener n pod pv volumeContext).run (serve api) cluster).1 ≠ .error .nilDereference ∧
      (getVolumeListenerClass volume.volumeContext pvc.ns).run (serve api) cluster =
        (.ok listenerClass, cluster) ∧
      volume.accessibleTopology = getAccessibleTopology request listenerClass ∧
      (∀ listener final,
        (getListener n pod pv volumeContext).run (serve api) cluster = (.ok listener, final) →
          listener.metadata.ns = pod.metadata.ns ∧
            listener.spec.className = listenerClass.metadata.name) ∧
      (∀ listenerName, volume.volumeContext[annotationListenerName]? = some listenerName →
        ∃ listener, cluster.listeners.get ⟨pvc.ns, listenerName⟩ = some listener ∧
          cluster.listenerClasses.get listener.spec.className = some listenerClass ∧
          (getListener n pod pv volumeContext).run (serve api) cluster = (.ok listener, cluster)) := by
  rw [createVolume_run] at created
  obtain ⟨made, -⟩ := Prod.mk.inj created
  obtain ⟨params, claim, listenerClass, parsed, -, -, classed, topology⟩ :=
    Cluster.createdVolume_eq_ok made
  obtain rfl : ⟨pvc.name, pvc.ns⟩ = params := by
    simpa [newCreateVolumeRequestParamsFromMap, named, spaced] using parsed
  obtain ⟨volumeContext, read, podSet, nsSet, classSet, nameSet⟩ :=
    newVolumeContextFromMap_podInfo volume.volumeContext pod serviceAccountName ephemeral
  have classRead : (getVolumeListenerClass volume.volumeContext pvc.ns).run (serve api) cluster =
      (.ok listenerClass, cluster) := by
    rw [getVolumeListenerClass_run, classed]
  suffices resolves :
      ((getListener n pod pv volumeContext).run (serve api) cluster).1 ≠ .error .nilDereference ∧
      (∀ listener final,
        (getListener n pod pv volumeContext).run (serve api) cluster = (.ok listener, final) →
          listener.metadata.ns = pod.metadata.ns ∧
            listener.spec.className = listenerClass.metadata.name) ∧
      (∀ listenerName, volume.volumeContext[annotationListenerName]? = some listenerName →
        ∃ listener, cluster.listeners.get ⟨pvc.ns, listenerName⟩ = some listener ∧
          cluster.listenerClasses.get listener.spec.className = some listenerClass ∧
          (getListener n pod pv volumeContext).run (serve api) cluster = (.ok listener, cluster)) from
    ⟨volumeContext, listenerClass, read, podSet, nsSet, resolves.1, classRead, topology, resolves.2⟩
  cases annotated : volume.volumeContext[annotationListenerName]? with
  | some listenerName =>
    obtain ⟨listener, stored, classStored⟩ := Cluster.classNamed_listener annotated classed
    have key : listener.metadata.key = ⟨pvc.ns, listenerName⟩ := cluster.listeners.keyed stored
    have run : (getListener n pod pv volumeContext).run (serve api) cluster =
        (.ok listener, cluster) := by
      rw [getListener_named n api cluster pv pod nsSet (nameSet.trans annotated), inside, stored]
      rfl
    refine ⟨by simp [run], fun other final resolved => ?_, ?_⟩
    · obtain rfl : listener = other := by simpa [run] using congrArg Prod.fst resolved
      exact ⟨by rw [inside]; exact congrArg ObjectKey.ns key,
        (cluster.listenerClasses.keyed classStored).symm⟩
    · rintro _ ⟨⟩
      exact ⟨listener, stored, classStored, run⟩
  | none =>
    have unnamed := nameSet.trans annotated
    have className := classSet.trans (Cluster.classNamed_class annotated classed)
    refine ⟨?_, fun listener final resolved => ?_, by simp⟩
    · rw [ne_eq, getListener_eq_error unnamed, cluster.askedListener_nil_iff documented nsSet]
      simp [className, bound]
    · obtain ⟨sent, asked, stored⟩ := (getListener_eq_ok unnamed).mp resolved
      obtain ⟨asAsked, podNamespace, claimRef, nsIs, claimed, key⟩ :=
        Cluster.askedListener_asAsked documented className asked
      obtain rfl : pod.metadata.ns = podNamespace := Option.some.inj (nsSet.symm.trans nsIs)
      obtain rfl : pvc = claimRef := Option.some.inj (bound.symm.trans claimed)
      rw [Cluster.storing, key, inside, unused annotated] at stored
      obtain ⟨rfl, -⟩ := Prod.mk.inj stored
      exact ⟨congrArg ObjectKey.ns key, asAsked.1⟩

/-- A claim that names a Listener and another class, and a pod of its own. -/
def namingClaim : PersistentVolumeClaim := { webClaim with
  metadata := { webClaim.metadata with
    annotations := ((StringMap.single listenerClassAnnotation "internal").insert
      annotationListenerName "web").insert csiStoragePodName "other" } }

/-- A cluster with `namingClaim` and the Listener it names. -/
def namingCluster : Cluster :=
  { claimCluster [webListenerReady] with pvcs := .ofList [namingClaim] }

/-- The request to create the volume of `namingClaim`, with what it is to be near to. -/
def namingRequest (accessibilityRequirements : Option TopologyRequirement) :
    CreateVolumeRequest where
  name := "pv-1"
  capacityRange := some {}
  volumeCapabilities := some [{ accessType := some .mount, accessMode := some .singleNodeWriter }]
  parameters := (StringMap.single csiStoragePVCName "web-data").insert
    csiStoragePVCNamespace "default"
  accessibilityRequirements

/-- The volume of `namingClaim` with a topology. -/
def namingVolume (accessibleTopology : List Topology) : CreatedVolume where
  volumeId := "pv-1"
  capacityBytes := 0
  volumeContext := namingClaim.metadata.annotations
  accessibleTopology

/-- The Listener that the claim names goes before the class, and the pod of the context before
that of the claim. -/
theorem createVolume_getListener_naming : ∃ volume volumeContext listener,
    (createVolume (namingRequest none)).run (serve (.filling "")) namingCluster =
      (.ok volume, namingCluster) ∧
    newVolumeContextFromMap (volume.volumeContext.copy (podInfo webPod "default" "false")) =
      volumeContext ∧
    volumeContext.pod = some "web-0" ∧ volumeContext.listenerClassName = some "internal" ∧
    (getListener .standard webPod webVolume volumeContext).run (serve (.filling ""))
      namingCluster = (.ok listener, namingCluster) ∧
    listener.spec.className = "external" := by
  have created : (createVolume (namingRequest none)).run (serve (.filling "")) namingCluster =
      (.ok (namingVolume []), namingCluster) := by
    rw [createVolume_run]
    exact congrArg (·, namingCluster) (by decide +kernel)
  have annotated : (namingVolume []).volumeContext[annotationListenerName]? = some "web" := by
    decide +kernel
  obtain ⟨volumeContext, listenerClass, read, podSet, -, -, -, -, -, first⟩ :=
    createVolume_getListener .standard ControllerRuntime.standard_documented (.filling "") created
      ⟨"default", "web-data"⟩ (by decide +kernel) (by decide +kernel)
      (fun unnamed => by rw [annotated] at unnamed; cases unnamed) webVolume rfl webPod rfl
      "default" "false"
  obtain ⟨listener, stored, -, resolved⟩ := first "web" annotated
  have known : namingCluster.listeners.get ⟨"default", "web"⟩ = some webListenerReady := by
    decide +kernel
  obtain rfl : webListenerReady = listener := Option.some.inj (known.symm.trans stored)
  refine ⟨_, volumeContext, _, created, read, podSet, ?_, resolved, rfl⟩
  rw [← read]
  decide +kernel

/-- The requirements that the provisioner passes for a node: none for a plugin without accessibility
constraints, and otherwise with what the node told first. -/
def Passed (capabilities : List PluginService) (info : NodeGetInfoResponse)
    (requirements : Option TopologyRequirement) : Prop :=
  if .volumeAccessibilityConstraints ∈ capabilities then
    ∃ others, requirements = some ⟨info.accessibleTopology.toList ++ others⟩
  else requirements = none

/-- The segments that a node told of itself have those of a part of the cluster among them. -/
def NodeGetInfoResponse.Within (info : NodeGetInfoResponse) (topology : Topology) : Prop :=
  ∀ key value : String, topology.segments[key]? = some value →
    (info.accessibleTopology.bind fun told => told.segments[key]?) = some value

/-- The scheduler may place a pod on a node: every node is good for a volume without a topology. -/
def CreatedVolume.Admits (volume : CreatedVolume) (info : NodeGetInfoResponse) : Prop :=
  volume.accessibleTopology = [] ∨ ∃ topology ∈ volume.accessibleTopology, info.Within topology

/-- The volume is bound to a node: its topology is what the node told of itself, and a pod with the
volume is only placed where this holds. -/
def CreatedVolume.BoundTo (volume : CreatedVolume) (info : String → NodeGetInfoResponse)
    (node : String) : Prop :=
  ∃ segment, (info node).accessibleTopology = some segment ∧
    volume.accessibleTopology = [segment] ∧
      ∀ later, volume.Admits (info later) → (info later).Within segment

/-- A volume of a NodePort class is bound to the node that its pod was first scheduled on, if and
only if the plugin has accessibility constraints and the node tells a topology of itself. The
plugin has no such constraints: its volumes have no topology, and their pods are placed anywhere. -/
theorem createVolume_boundTo_iff (api : ApiServer) (capabilities : List PluginService)
    (info : String → NodeGetInfoResponse) {cluster after : Cluster} {request : CreateVolumeRequest}
    {volume : CreatedVolume} {params : CreateVolumeRequestParams} {listenerClass : ListenerClass}
    (created : (createVolume request).run (serve api) cluster = (.ok volume, after))
    (parsed : newCreateVolumeRequestParamsFromMap request.parameters = .ok params)
    (classed : (getVolumeListenerClass volume.volumeContext params.pvcNamespace).run (serve api)
      cluster = (.ok listenerClass, cluster))
    (typed : listenerClass.spec.serviceType = some .nodePort) (node : String)
    (passed : Passed capabilities (info node) request.accessibilityRequirements) :
    (volume.BoundTo info node ↔
      .volumeAccessibilityConstraints ∈ capabilities ∧ (info node).accessibleTopology ≠ none) ∧
    (capabilities = getPluginCapabilities →
      volume.accessibleTopology = [] ∧ ∀ later, volume.Admits (nodeGetInfo later)) := by
  rw [createVolume_run] at created
  obtain ⟨sent, claim, chosen, sentParsed, -, -, chosenClass, topology⟩ :=
    Cluster.createdVolume_eq_ok (Prod.mk.inj created).1
  obtain rfl : params = sent := Except.ok.inj (parsed.symm.trans sentParsed)
  rw [getVolumeListenerClass_run, chosenClass] at classed
  obtain rfl : chosen = listenerClass := Except.ok.inj (Prod.mk.inj classed).1
  rw [getAccessibleTopology, if_pos typed] at topology
  rw [Passed] at passed
  split at passed
  · rename_i constrained
    obtain ⟨others, required⟩ := passed
    rw [required] at topology
    refine ⟨⟨?_, ?_⟩, ?_⟩
    · rintro ⟨segment, told, -⟩
      exact ⟨constrained, by simp [told]⟩
    · rintro ⟨-, tells⟩
      obtain ⟨segment, told⟩ := Option.ne_none_iff_exists'.mp tells
      rw [told] at topology
      refine ⟨segment, told, topology, fun later admitted => ?_⟩
      rw [CreatedVolume.Admits, topology] at admitted
      simpa using admitted
    · rintro rfl
      exact absurd constrained (by decide)
  · rename_i unconstrained
    rw [passed] at topology
    refine ⟨iff_of_false ?_ fun both => unconstrained both.1,
      fun _ => ⟨topology, fun _ => Or.inl topology⟩⟩
    rintro ⟨segment, -, single, -⟩
    rw [topology] at single
    cases single

/-- The class of `namingClaim` is that of its Listener. -/
theorem namingClaim_classed :
    (getVolumeListenerClass namingClaim.metadata.annotations "default").run
      (serve (.filling "")) namingCluster = (.ok (webClass .nodePort .hostname), namingCluster) := by
  rw [getVolumeListenerClass_run]
  exact congrArg (·, namingCluster) (by decide +kernel)

/-- With constraints and a topology of the node, the volume of `namingClaim` is bound to it. -/
theorem namingVolume_bound :
    (createVolume (namingRequest (some ⟨[⟨.single "kubernetes.io/hostname" "worker"⟩]⟩))).run
      (serve (.filling "")) namingCluster =
        (.ok (namingVolume [⟨.single "kubernetes.io/hostname" "worker"⟩]), namingCluster) ∧
    (namingVolume [⟨.single "kubernetes.io/hostname" "worker"⟩]).BoundTo
      (fun node => ⟨node, some ⟨.single "kubernetes.io/hostname" node⟩⟩) "worker" := by
  have created : (createVolume (namingRequest (some
      ⟨[⟨.single "kubernetes.io/hostname" "worker"⟩]⟩))).run (serve (.filling "")) namingCluster =
        (.ok (namingVolume [⟨.single "kubernetes.io/hostname" "worker"⟩]), namingCluster) := by
    rw [createVolume_run]
    exact congrArg (·, namingCluster) (by decide +kernel)
  have parsed : newCreateVolumeRequestParamsFromMap (namingRequest (some
      ⟨[⟨.single "kubernetes.io/hostname" "worker"⟩]⟩)).parameters =
        .ok ⟨"web-data", "default"⟩ := by decide +kernel
  exact ⟨created, (createVolume_boundTo_iff (.filling "")
    [.controllerService, .volumeAccessibilityConstraints]
    (fun node => ⟨node, some ⟨.single "kubernetes.io/hostname" node⟩⟩) created parsed
    namingClaim_classed rfl "worker" ⟨[], rfl⟩).1.mpr ⟨by decide, by simp⟩⟩

/-- With what the plugin tells, nothing is required of the volume of `namingClaim`, it has no
topology, and its pod may be placed on any other node. -/
theorem namingVolume_unbound :
    Passed getPluginCapabilities (nodeGetInfo "worker") none ∧
    (createVolume (namingRequest none)).run (serve (.filling "")) namingCluster =
      (.ok (namingVolume []), namingCluster) ∧
    (getVolumeListenerClass (namingVolume []).volumeContext "default").run (serve (.filling ""))
      namingCluster = (.ok (webClass .nodePort .hostname), namingCluster) ∧
    ¬ (namingVolume []).BoundTo nodeGetInfo "worker" ∧
    ∀ node, (namingVolume []).Admits (nodeGetInfo node) := by
  refine ⟨?_, ?_, namingClaim_classed, ?_, fun node => Or.inl rfl⟩
  · rw [Passed, if_neg (by decide)]
  · rw [createVolume_run]
    exact congrArg (·, namingCluster) (by decide +kernel)
  · rintro ⟨segment, told, -⟩
    cases told

/-- A capability to mount with one of the modes that the plugin has. -/
def VolumeCapability.Supported (capability : VolumeCapability) : Prop :=
  capability.accessType = some .mount ∧ ∃ mode ∈ volumeCaps, capability.accessMode = some mode

/-- The check of a capability; the mode of a missing access mode is none that the plugin has. -/
theorem isSupportVolumeCapabilities_iff (capability : VolumeCapability) :
    isSupportVolumeCapabilities capability = true ↔ capability.Supported := by
  have unknown : AccessMode.unknown ∉ volumeCaps := by decide
  obtain ⟨accessType, accessMode⟩ := capability
  rw [VolumeCapability.Supported]
  cases accessType with
  | none => simp [isSupportVolumeCapabilities]
  | some type =>
    cases type with
    | block => simp [isSupportVolumeCapabilities]
    | mount =>
      cases accessMode with
      | none => simp [isSupportVolumeCapabilities, unknown]
      | some mode =>
        have among : volumeCaps.any (· = mode) = true ↔ ∃ known ∈ volumeCaps, known = mode := by
          simp only [List.any_eq_true, decide_eq_true_eq]
        show volumeCaps.any (· = mode) = true ↔ _
        rw [among]
        constructor
        · rintro ⟨known, listed, rfl⟩
          exact ⟨rfl, known, listed, rfl⟩
        · rintro ⟨-, known, listed, same⟩
          exact ⟨known, listed, (Option.some.inj same).symm⟩

/-- A request to create a volume that is otherwise in order is accepted exactly with supported
capabilities. -/
theorem validateCreateVolumeRequest_iff {request : CreateVolumeRequest}
    {capabilities : List VolumeCapability} (named : request.name ≠ "")
    (sized : request.capacityRange.isSome)
    (listed : request.volumeCapabilities = some capabilities) :
    validateCreateVolumeRequest request = .ok () ↔
      ∀ capability ∈ capabilities, capability.Supported := by
  have ranged : ¬ request.capacityRange.isNone := by simpa [Option.isSome_iff_ne_none] using sized
  have checked : isValidVolumeCapabilities capabilities = true ↔
      ∀ capability ∈ capabilities, capability.Supported := by
    simp only [isValidVolumeCapabilities, List.all_eq_true, isSupportVolumeCapabilities_iff]
  rw [validateCreateVolumeRequest, if_neg named, if_neg ranged, listed, ← checked]
  by_cases valid : isValidVolumeCapabilities capabilities = true
  · simp [valid]
  · simp [valid, errorText]

/-- The validation of capabilities agrees with the creation of a volume exactly for supported
capabilities: it confirms every list. -/
theorem validateVolumeCapabilities_agrees_iff {volumeId : String} {request : CreateVolumeRequest}
    {capabilities : List VolumeCapability} (identified : volumeId ≠ "")
    (nonempty : capabilities ≠ []) (named : request.name ≠ "")
    (sized : request.capacityRange.isSome)
    (listed : request.volumeCapabilities = some capabilities) :
    (((∃ confirmed, validateVolumeCapabilities ⟨volumeId, capabilities⟩ =
          .ok ⟨some confirmed⟩) ↔ validateCreateVolumeRequest request = .ok ()) ∧
        (validateCreateVolumeRequest request = .ok () ↔
          ∀ capability ∈ capabilities, capability.Supported)) ↔
      ∀ capability ∈ capabilities, capability.Supported := by
  have confirms : ∃ confirmed, validateVolumeCapabilities ⟨volumeId, capabilities⟩ =
      .ok ⟨some confirmed⟩ := by
    refine ⟨capabilities, ?_⟩
    rw [validateVolumeCapabilities, if_neg identified, if_neg nonempty]
  rw [validateCreateVolumeRequest_iff named sized listed]
  simp [confirms]

/-- A list with a supported capability is confirmed and accepted. -/
theorem validateVolumeCapabilities_mount :
    (∃ confirmed, validateVolumeCapabilities
        ⟨"pv-1", [⟨some .mount, some .multiNodeReaderOnly⟩]⟩ = .ok ⟨some confirmed⟩) ↔
      validateCreateVolumeRequest
        ⟨"pv-1", some {}, some [⟨some .mount, some .multiNodeReaderOnly⟩], ∅, none⟩ = .ok () := by
  refine ((validateVolumeCapabilities_agrees_iff (by decide) (by decide) (by decide) rfl rfl).mpr
    ?_).1
  intro capability only
  obtain rfl := List.mem_singleton.mp only
  exact ⟨rfl, .multiNodeReaderOnly, by decide, rfl⟩

/-- A block capability is confirmed but not accepted. -/
theorem validateVolumeCapabilities_block :
    validateVolumeCapabilities ⟨"pv-1", [⟨some .block, some .singleNodeWriter⟩]⟩ =
        .ok ⟨some [⟨some .block, some .singleNodeWriter⟩]⟩ ∧
      validateCreateVolumeRequest
          ⟨"pv-1", some {}, some [⟨some .block, some .singleNodeWriter⟩], ∅, none⟩ =
        errorText "volumeCapabilities is not supported" := by
  decide

end ListenerOperator
