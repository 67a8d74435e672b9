import ListenerOperator.Csi.Node
import ListenerOperator.Verif.Server

/-!
# The calls of a publication

Which calls the publication of a volume makes, whatever it is answered, and what the calls before
a write tell about it: the labels are those of a Listener that was returned, on the copies that
were read, and the one entry that is written is at the place that the patched pod and volume
give. What a successful publication reports is what these calls were answered.
-/

namespace ListenerOperator

open Interaction MergePatch FilePath

/-- A pod with the label of a mounted Listener. -/
def Pod.mounting (pod : Pod) (listener : Listener) : Pod :=
  { pod with metadata := { pod.metadata with
    labels := pod.metadata.labels.copy (listenerMountPodLabels listener) } }

/-- A volume with the labels of its Listener. -/
def PersistentVolume.tied (pv : PersistentVolume) (listener : Listener) : PersistentVolume :=
  { pv with metadata := { pv.metadata with
    labels := pv.metadata.labels.copy (listenerMetaLabels listener) } }

/-- Where the entry of a volume is kept: a PodListeners object and the name of the volume. -/
structure Slot where
  podListeners : ObjectKey
  volumeName : String
  deriving DecidableEq

/-- The slot of a volume of a pod. -/
def Pod.slot (pod : Pod) (volumeName : String) : Slot where
  podListeners := { ns := pod.metadata.ns, name := "pod-" ++ pod.metadata.uid }
  volumeName

/-- The pod that a request names. -/
def NodePublishVolumeRequest.podKey (request : NodePublishVolumeRequest) : ObjectKey :=
  let volumeContext := newVolumeContextFromMap request.volumeContext
  { ns := volumeContext.podNamespace.getD "", name := volumeContext.pod.getD "" }

/-- The volume that a request names. -/
def NodePublishVolumeRequest.volumeKey (request : NodePublishVolumeRequest) : ObjectKey :=
  { name := request.volumeId }

/-- A Listener that a call returned. -/
def Resolved (transcript : Transcript) (listener : Listener) : Prop :=
  (∃ key, Answered transcript (.getListener key) listener) ∨
    ∃ sent, Answered transcript (.createListener sent) listener

/-- A Listener that was found or created under a key. -/
def ResolvedAt (transcript : Transcript) (key : ObjectKey) (listener : Listener) : Prop :=
  Answered transcript (.getListener key) listener ∨
    ∃ sent, sent.metadata.key = key ∧ Answered transcript (.createListener sent) listener

/-- A Listener that has the name of the claim of the volume. -/
def ResolvedForClaim (request : NodePublishVolumeRequest) (transcript : Transcript)
    (listener : Listener) : Prop :=
  ∃ pv claimRef pvc, Answered transcript (.getPV request.volumeKey) pv ∧
    pv.claimRef = some claimRef ∧ Answered transcript (.getPVC claimRef) pvc ∧
      ResolvedAt transcript { ns := request.podKey.ns, name := pvc.metadata.name } listener

/-- The pod and the volume as they were patched give a slot. -/
def Located (request : NodePublishVolumeRequest) (transcript : Transcript) (slot : Slot) : Prop :=
  ∃ pod mounted pv tied listener claimRef,
    Answered transcript (.getPod request.podKey) pod ∧
      Answered transcript (.patchPod pod (pod.mounting listener)) mounted ∧
    Answered transcript (.getPV request.volumeKey) pv ∧
      Answered transcript (.patchPV pv (pv.tied listener)) tied ∧
    tied.claimRef = some claimRef ∧
      findPodVolumeNameForPVC mounted claimRef.name = .ok slot.volumeName ∧
        slot = mounted.slot slot.volumeName

/-- A write of PodListeners. -/
def Call.WritesEntry : Call → Prop
  | .createPodListeners _ | .patchPodListeners _ _ => True
  | _ => False

/-- A write that puts an entry in a slot and leaves the other entries. -/
def Call.Fills (slot : Slot) (entry : PodListener) : Call → Prop
  | .createPodListeners sent =>
    sent.metadata.key = slot.podListeners ∧ sent.listeners = .single slot.volumeName entry
  | .patchPodListeners existing modified =>
    modified = { existing with listeners := existing.listeners.insert slot.volumeName entry }
  | _ => False

/-- No entry was written yet. -/
def Unwritten (transcript : Transcript) : Prop :=
  ∀ call ∈ transcript, ¬ call.1.WritesEntry

/-- The calls on objects that a publication makes after the given ones. -/
def ObjectCall (request : NodePublishVolumeRequest) (transcript : Transcript) (call : Call) :
    Prop :=
  match call with
  | .createListener sent => sent.spec.extraPodSelectorLabels = ∅
  | .patchPV original modified => Answered transcript (.getPV request.volumeKey) original ∧
    ∃ listener, Resolved transcript listener ∧ modified = original.tied listener
  | .patchPod original modified => Answered transcript (.getPod request.podKey) original ∧
    ∃ listener, Resolved transcript listener ∧ modified = original.mounting listener
  | .createPodListeners _ => Unwritten transcript ∧
    ∃ slot entry, Located request transcript slot ∧ call.Fills slot entry
  | .patchPodListeners existing _ => Unwritten transcript ∧
    ∃ slot entry, Located request transcript slot ∧ call.Fills slot entry ∧
      Answered transcript (.getPodListeners slot.podListeners) existing
  | _ => call.kind = .read

/-- What a successful publication was answered. -/
structure Published (request : NodePublishVolumeRequest) (transcript : Transcript)
    (publication : Publication) : Prop where
  resolved : Resolved transcript publication.listener
  claimed : (newVolumeContextFromMap request.volumeContext).listenerName = none →
    ResolvedForClaim request transcript publication.listener
  mounted : ∃ pod mounted, Answered transcript (.getPod request.podKey) pod ∧
    Answered transcript (.patchPod pod (pod.mounting publication.listener)) mounted
  located : Located request transcript
    ⟨publication.podListeners.metadata.key, publication.volumeName⟩
  written : ∃ call value entry, Answered transcript call value ∧
    Call.Fills ⟨publication.podListeners.metadata.key, publication.volumeName⟩ entry call ∧
      publication.podListeners.listeners = .single publication.volumeName entry

section Suffix

variable {request : NodePublishVolumeRequest} {transcript later : Transcript}

/-- A Listener stays resolved. -/
theorem Resolved.mono {listener : Listener} (resolved : Resolved transcript listener)
    (continues : transcript <:+ later) : Resolved later listener :=
  resolved.imp (fun ⟨key, answered⟩ => ⟨key, continues.subset answered⟩)
    fun ⟨sent, answered⟩ => ⟨sent, continues.subset answered⟩

/-- A Listener stays resolved for a claim. -/
theorem ResolvedForClaim.mono {listener : Listener}
    (resolved : ResolvedForClaim request transcript listener) (continues : transcript <:+ later) :
    ResolvedForClaim request later listener := by
  obtain ⟨pv, claimRef, pvc, read, bound, claim, found⟩ := resolved
  refine ⟨pv, claimRef, pvc, continues.subset read, bound, continues.subset claim, ?_⟩
  exact found.imp (fun answered => continues.subset answered)
    fun ⟨sent, key, answered⟩ => ⟨sent, key, continues.subset answered⟩

/-- A slot stays located. -/
theorem Located.mono {slot : Slot} (located : Located request transcript slot)
    (continues : transcript <:+ later) : Located request later slot := by
  obtain ⟨pod, mounted, pv, tied, listener, claimRef, readPod, patchedPod, readPV, patchedPV,
    rest⟩ := located
  exact ⟨pod, mounted, pv, tied, listener, claimRef, continues.subset readPod,
    continues.subset patchedPod, continues.subset readPV, continues.subset patchedPV, rest⟩

/-- A publication stays published. -/
theorem Published.mono {publication : Publication}
    (published : Published request transcript publication) (continues : transcript <:+ later) :
    Published request later publication where
  resolved := published.resolved.mono continues
  claimed named := (published.claimed named).mono continues
  mounted := by
    obtain ⟨pod, mounted, read, patched⟩ := published.mounted
    exact ⟨pod, mounted, continues.subset read, continues.subset patched⟩
  located := published.located.mono continues
  written := by
    obtain ⟨call, value, entry, answered, rest⟩ := published.written
    exact ⟨call, value, entry, continues.subset answered, rest⟩

end Suffix

/-- One more call that writes no entry. -/
theorem Unwritten.cons {transcript : Transcript} (unwritten : Unwritten transcript)
    {call : Sigma Reply} (other : ¬ call.1.WritesEntry) : Unwritten (call :: transcript) :=
  fun _ listed => (List.mem_cons.mp listed).elim (fun same => same ▸ other) (unwritten _)

section Objects

variable {request : NodePublishVolumeRequest} {transcript : Transcript}

/-- A pointer that is dereferenced is set. -/
theorem deref_eq_ok {α : Type} {pointer : Option α} {value : α} :
    deref pointer = .ok value ↔ pointer = some value := by
  cases pointer <;> simp [deref]

/-- Reads are calls of a publication. -/
theorem objectCall_of_read {call : Call} (reads : call.kind = .read) :
    ObjectCall request transcript call := by
  cases call <;> first | exact reads | cases reads

/-- The Listener of a volume is returned by a call, for a volume without a named Listener under
the name of its claim. -/
theorem getListener_follows (n : NodeServer) (pod : Pod) {pv : PersistentVolume}
    (read : Answered transcript (.getPV request.volumeKey) pv) (unwritten : Unwritten transcript) :
    (getListener n pod pv (newVolumeContextFromMap request.volumeContext)).Follows
      (ObjectCall request) (fun later listener => Unwritten later ∧ Resolved later listener ∧
        ((newVolumeContextFromMap request.volumeContext).listenerName = none →
          ResolvedForClaim request later listener)) transcript := by
  cases named : (newVolumeContextFromMap request.volumeContext).listenerName with
  | some listenerName =>
    simp only [getListener, named]
    refine (follows_lift _).bind ?_
    rintro _ podNamespace - ⟨rfl, -⟩
    refine (follows_ask (objectCall_of_read rfl)).mono ?_
    rintro later listener rfl
    exact ⟨unwritten.cons id, Or.inl ⟨_, List.mem_cons_self⟩, fun impossible => by cases impossible⟩
  | none =>
    simp only [getListener, named, createListener]
    refine (follows_lift _).bind ?_
    rintro _ className - ⟨rfl, -⟩
    refine (follows_lift _).bind ?_
    rintro _ podNamespace - ⟨rfl, namespaced⟩
    refine (follows_ask (objectCall_of_read rfl)).mapError.bind ?_
    rintro _ listenerClass - rfl
    refine (follows_lift _).bind ?_
    rintro _ claimRef - ⟨rfl, bound⟩
    refine (follows_ask (objectCall_of_read rfl)).mapError.bind ?_
    rintro _ pvc - rfl
    refine (follows_lift _).mapError.bind ?_
    rintro _ ports - ⟨rfl, -⟩
    refine (follows_lift _).mapError.bind ?_
    rintro _ ownerReferences - ⟨rfl, -⟩
    have ns : request.podKey.ns = podNamespace := by
      simp [NodePublishVolumeRequest.podKey, deref_eq_ok.mp namespaced]
    have asked : ∀ {later : Transcript}, transcript <:+ later →
        Answered later (.getPVC claimRef) pvc → ∀ listener, ResolvedAt later
          { ns := podNamespace, name := pvc.metadata.name } listener →
            ResolvedForClaim request later listener := by
      intro later continues claim listener found
      exact ⟨pv, claimRef, pvc, continues.subset read, deref_eq_ok.mp bound, claim, ns ▸ found⟩
    refine ⟨rfl, fun reply => ?_⟩
    cases reply with
    | ok created =>
      refine ⟨((unwritten.cons id).cons id).cons id, Or.inr ⟨_, List.mem_cons_self⟩, fun _ => ?_⟩
      exact asked (List.suffix_append [_, _, _] _)
        (List.mem_cons_of_mem _ List.mem_cons_self) created
        (Or.inr ⟨_, rfl, List.mem_cons_self⟩)
    | error failure =>
      dsimp only
      split
      · refine (follows_ask (objectCall_of_read rfl)).mapError.mono ?_
        rintro later listener rfl
        refine ⟨(((unwritten.cons id).cons id).cons id).cons id, Or.inl ⟨_, List.mem_cons_self⟩,
          fun _ => ?_⟩
        exact asked (List.suffix_append [_, _, _, _] _)
          (List.mem_cons_of_mem _ (List.mem_cons_of_mem _ List.mem_cons_self)) listener
          (Or.inl List.mem_cons_self)
      · trivial

/-- The addresses of a pod are found by reads, and there is at least one. -/
theorem getAddresses_follows (listener : Listener) (pod : Pod) (unwritten : Unwritten transcript) :
    (getAddresses listener pod).Follows (ObjectCall request)
      (fun later found => Unwritten later ∧ found.2 ≠ []) transcript := by
  refine (follows_ask (objectCall_of_read rfl)).bind ?_
  rintro _ current - rfl
  split
  · refine ((follows_ask (objectCall_of_read rfl)).bind ?_ :
      (getNodeAddressByPod pod).Follows _ (fun later _ => Unwritten later) _).bind ?_
    · rintro _ node - rfl
      refine (follows_lift _).mono ?_
      rintro _ address ⟨rfl, -⟩
      exact (unwritten.cons id).cons id
    · rintro later address - still
      exact ⟨still, by simp⟩
  · split
    · rename_i some
      exact ⟨unwritten.cons id, by simpa using some⟩
    · trivial

/-- The entry that is set is the one of the volume. -/
theorem PodListeners.setEntry_single {sent : PodListeners} {volumeName : String}
    {entry : PodListener} (single : sent.listeners = .single volumeName entry)
    (existing : PodListeners) : existing.setEntry sent volumeName =
      { existing with listeners := existing.listeners.insert volumeName entry } := by
  simp [PodListeners.setEntry, single]

/-- The entry of the built object is written once, over the copy that was read. -/
theorem createOrUpdatePodListeners_follows {sent : PodListeners} {volumeName : String}
    {entry : PodListener} (single : sent.listeners = .single volumeName entry)
    (unwritten : Unwritten transcript)
    (located : Located request transcript ⟨sent.metadata.key, volumeName⟩) :
    (createOrUpdatePodListeners sent volumeName).Follows (ObjectCall request)
      (fun later _ => ∃ call value, Answered later call value ∧
        Call.Fills ⟨sent.metadata.key, volumeName⟩ entry call) transcript := by
  refine ⟨rfl, fun reply => ?_⟩
  cases reply with
  | error failure =>
    dsimp only
    split
    · refine (follows_ask ?_).mapError.bind ?_
      · exact ⟨unwritten.cons id, _, entry, located.mono (List.suffix_cons _ _), rfl, single⟩
      · rintro _ value - rfl
        exact ⟨_, value, List.mem_cons_self, rfl, single⟩
    · trivial
  | ok existing =>
    have modified := PodListeners.setEntry_single single existing
    refine (follows_ask ?_).mapError.bind ?_
    · exact ⟨unwritten.cons id, _, entry, located.mono (List.suffix_cons _ _), modified,
        List.mem_cons_self⟩
    · rintro _ value - rfl
      exact ⟨_, value, List.mem_cons_self, modified⟩

/-- The object that is published has one entry, in the slot of the pod. -/
theorem buildPodListenersObject_slot (n : NodeServer) (pod : Pod) (listener : Listener)
    (volumeName : String) (scope : PodListenerScope) (ingressAddresses : List IngressAddress) :
    (buildPodListenersObject n pod listener volumeName scope ingressAddresses).metadata.key =
        (pod.slot volumeName).podListeners ∧
      (buildPodListenersObject n pod listener volumeName scope ingressAddresses).listeners =
        .single volumeName
          { scope, listenerIngresses := ingressAddresses.map IngressAddress.spec } := by
  rw [buildPodListenersObject]
  split <;> exact ⟨rfl, rfl⟩

/-- The entry that is published is written in the slot of the patched pod. -/
theorem publishPodListener_follows (n : NodeServer) {pod : Pod} {pv : PersistentVolume}
    (listener : Listener) (ingressAddresses : List IngressAddress)
    (unwritten : Unwritten transcript)
    (located : ∀ claimRef volumeName, pv.claimRef = some claimRef →
      findPodVolumeNameForPVC pod claimRef.name = .ok volumeName →
        Located request transcript (pod.slot volumeName)) :
    (publishPodListener n pod pv listener ingressAddresses).Follows (ObjectCall request)
      (fun later published => Located request later ⟨published.2.metadata.key, published.1⟩ ∧
        ∃ call value entry, Answered later call value ∧
          Call.Fills ⟨published.2.metadata.key, published.1⟩ entry call ∧
            published.2.listeners = .single published.1 entry) transcript := by
  refine (follows_lift _).bind ?_
  rintro _ claimRef - ⟨rfl, bound⟩
  refine (follows_lift _).bind ?_
  rintro _ volumeName - ⟨rfl, named⟩
  obtain ⟨key, single⟩ := buildPodListenersObject_slot n pod listener volumeName
    (determinePodListenerScope listener) ingressAddresses
  have here : Located request transcript ⟨(buildPodListenersObject n pod listener volumeName
      (determinePodListenerScope listener) ingressAddresses).metadata.key, volumeName⟩ := by
    rw [key]
    exact located claimRef volumeName (deref_eq_ok.mp bound) named
  refine (createOrUpdatePodListeners_follows single unwritten here).bind ?_
  rintro later _ continues ⟨call, value, answered, fills⟩
  exact ⟨here.mono continues, call, value, _, answered, fills, single⟩

/-- The patched pod and the claim of the patched volume locate the slot of the volume. -/
theorem located_slot {pod mounted : Pod} {pv tied : PersistentVolume} {listener : Listener}
    {claimRef : ObjectKey} {volumeName : String}
    (readPod : Answered transcript (.getPod request.podKey) pod)
    (patchedPod : Answered transcript (.patchPod pod (pod.mounting listener)) mounted)
    (readPV : Answered transcript (.getPV request.volumeKey) pv)
    (patchedPV : Answered transcript (.patchPV pv (pv.tied listener)) tied)
    (bound : tied.claimRef = some claimRef)
    (found : findPodVolumeNameForPVC mounted claimRef.name = .ok volumeName) :
    Located request transcript (mounted.slot volumeName) :=
  ⟨pod, mounted, pv, tied, listener, claimRef, readPod, patchedPod, readPV, patchedPV, bound,
    found, rfl⟩

/-- A publication on the cluster follows its transcript and finds an address. -/
theorem publishToCluster_follows (n : NodeServer) (request : NodePublishVolumeRequest) :
    (publishToCluster n request).Follows (ObjectCall request)
      (fun later published => Published request later published.1 ∧ published.2 ≠ []) [] := by
  refine (follows_lift _).bind ?_
  rintro _ _ - ⟨rfl, -⟩
  refine (follows_ask (objectCall_of_read rfl)).bind ?_
  rintro _ pv - rfl
  refine (follows_lift _).bind ?_
  rintro _ podName - ⟨rfl, named⟩
  refine (follows_lift _).bind ?_
  rintro _ podNamespace - ⟨rfl, namespaced⟩
  refine (follows_ask (objectCall_of_read rfl)).mapError.bind ?_
  rintro _ pod - rfl
  have podKey : request.podKey = { ns := podNamespace, name := podName } := by
    simp [NodePublishVolumeRequest.podKey, deref_eq_ok.mp named, deref_eq_ok.mp namespaced]
  have start : Unwritten [⟨.getPod request.podKey, .ok pod⟩, ⟨.getPV request.volumeKey, .ok pv⟩] := by
    simp [Unwritten, Call.WritesEntry]
  rw [← podKey]
  refine (getListener_follows n pod (List.mem_cons_of_mem _ List.mem_cons_self)
    start).mapError.bind ?_
  rintro later listener continues ⟨unwritten, resolved, claimed⟩
  have readPod : Answered later (.getPod request.podKey) pod :=
    continues.subset List.mem_cons_self
  have readPV : Answered later (.getPV request.volumeKey) pv :=
    continues.subset (List.mem_cons_of_mem _ List.mem_cons_self)
  refine (follows_ask ⟨readPV, listener, resolved, rfl⟩).mapError.bind ?_
  rintro _ tied - rfl
  refine (follows_ask ⟨List.mem_cons_of_mem _ readPod, listener,
    resolved.mono (List.suffix_cons _ _), rfl⟩).mapError.bind ?_
  rintro _ mounted - rfl
  refine (getAddresses_follows listener mounted
    ((unwritten.cons id).cons id)).mapError.bind ?_
  rintro last ⟨fresh, data⟩ onward ⟨unwritten, some⟩
  have patchedPod : Answered last (.patchPod pod (pod.mounting listener)) mounted :=
    onward.subset List.mem_cons_self
  have patchedPV : Answered last (.patchPV pv (pv.tied listener)) tied :=
    onward.subset (List.mem_cons_of_mem _ List.mem_cons_self)
  have through : later <:+ last := (List.suffix_append [_, _] later).trans onward
  refine (publishPodListener_follows n fresh data unwritten ?_).mapError.bind ?_
  · intro claimRef volumeName bound found
    exact located_slot (through.subset readPod) patchedPod (through.subset readPV) patchedPV bound
      found
  · rintro final ⟨volumeName, podListeners⟩ further ⟨located, written⟩
    have whole : later <:+ final := through.trans further
    exact ⟨⟨resolved.mono whole, fun unnamed => (claimed unnamed).mono whole,
      ⟨pod, mounted, whole.subset readPod, further.subset patchedPod⟩, located, written⟩, some⟩

end Objects

/-- A call that does not go to the files. -/
def Call.OnObjects (request : Call) : Prop := request.kind ≠ .file

/-- A call of a publication on objects does not go to the files. -/
theorem ObjectCall.onObjects {request : NodePublishVolumeRequest} {transcript : Transcript}
    {call : Call} (made : ObjectCall request transcript call) : call.OnObjects := by
  intro file
  cases call <;> simp_all [ObjectCall, Call.kind]

/-- The part of a publication on the cluster makes calls on objects, and finds an address. -/
theorem publishToCluster_ensures (n : NodeServer) (request : NodePublishVolumeRequest) :
    (publishToCluster n request).Ensures Call.OnObjects fun published => published.2 ≠ [] :=
  (publishToCluster_follows n request).ensures (fun _ _ made => made.onObjects)
    fun _ _ ends => ends.2

/-- A call that takes nothing away outside a target path. -/
def Call.Adds (targetPath : String) : Call → Prop
  | .pathExists _ | .mkdirAll _ | .writeFile _ _ | .symlink _ _ => True
  | .mount path => path = targetPath
  | _ => False

/-- A call that makes a directory, a file or a link. -/
def Call.Writes : Call → Prop
  | .mkdirAll _ | .writeFile _ _ | .symlink _ _ => True
  | _ => False

/-- What is made is added. -/
theorem Call.Writes.adds {call : Call} (writes : call.Writes) (targetPath : String) :
    call.Adds targetPath := by
  cases call <;> trivial

/-- The ports are written. -/
theorem writePorts_ensures (portPath : String) (ports : List (String × Int)) :
    (writePorts portPath ports).Ensures Call.Writes fun _ => True := by
  induction ports with
  | nil => trivial
  | cons entry ports ih => exact (ensures_ask trivial).bind fun _ _ => ih

/-- The addresses are written. -/
theorem writeAddresses_ensures (n : NodeServer) (addressesPath last : String)
    (data : List IngressAddress) :
    (writeAddresses n addressesPath last data).Ensures Call.Writes fun _ => True := by
  induction data generalizing last with
  | nil => trivial
  | cons element data ih =>
    have address : (writeAddress n (join addressesPath element.address) element).Ensures
        Call.Writes fun _ => True :=
      (ensures_ask trivial).bind fun _ _ => (ensures_ask trivial).bind fun _ _ =>
        writePorts_ensures ..
    exact (ensures_ask trivial).bind fun _ _ => address.bind fun _ _ => ih _

/-- The data is written. -/
theorem writeData_ensures (n : NodeServer) (targetPath : String) (data : List IngressAddress) :
    (writeData n targetPath (some data)).Ensures Call.Writes fun _ => True :=
  (ensures_ask trivial).bind fun _ _ => (writeAddresses_ensures ..).bind fun _ _ =>
    ensures_ask trivial

/-- The data is written by calls that add. -/
theorem writeData_adds (n : NodeServer) (targetPath : String) (data : List IngressAddress) :
    (writeData n targetPath (some data)).Ensures (Call.Adds targetPath) fun _ => True :=
  (writeData_ensures n targetPath data).mono (fun _ writes => writes.adds _) fun _ done => done

/-- The target path is mounted by calls that add. -/
theorem mount_ensures (targetPath : String) :
    (mount targetPath).Ensures (Call.Adds targetPath) fun _ => True := by
  refine (ensures_ask trivial).mapError.bind fun exist _ => ?_
  have after : (do
      withStatus .internal (ask (.mkdirAll targetPath))
      withStatus .internal (ask (.mount targetPath)) : Prog Unit).Ensures
        (Call.Adds targetPath) fun _ => True :=
    (ensures_ask trivial).mapError.bind fun _ _ =>
      (ensures_ask (show Call.Adds targetPath (.mount targetPath) from rfl)).mapError
  cases exist with
  | true => trivial
  | false => exact after

/-- A call that adds goes to the files. -/
theorem Call.Adds.kind {targetPath : String} {call : Call} (adds : call.Adds targetPath) :
    call.kind = .file := by
  cases call <;> first | rfl | cases adds

/-- The part of a publication on the node makes calls that add. -/
theorem publishToNode_adds (n : NodeServer) (targetPath : String) (data : List IngressAddress) :
    (publishToNode n targetPath data).Ensures (Call.Adds targetPath) fun _ => True :=
  (mount_ensures _).mapError.bind fun _ _ => (writeData_adds n _ data).mapError

/-- A publication follows its transcript. -/
theorem nodePublishVolume_follows (n : NodeServer) (request : NodePublishVolumeRequest) :
    (nodePublishVolume n request).Follows
      (fun transcript call => call.kind = .file ∨ ObjectCall request transcript call)
      (Published request) [] := by
  refine ((publishToCluster_follows n request).weaken fun _ _ made => Or.inr made).bind ?_
  rintro later ⟨publication, data⟩ - ⟨published, -⟩
  have files := publishToNode_adds n request.targetPath data
  refine (files.follows (fun _ _ adds => Or.inl adds.kind) later).bind ?_
  intro last _ continues _
  exact published.mono continues

end ListenerOperator
