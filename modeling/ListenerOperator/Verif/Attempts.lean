import ListenerOperator.Verif.Cache
import ListenerOperator.Verif.Resolution

/-!
# Attempts to publish a volume

What an attempt to publish a volume does to the cluster when any call may fail, and a write that is
reported as failed may have taken effect. Each of its writes is made from the objects that are
stored at that time and is one of a few changes: the Listener is created, the volume and the pod
get its labels, and the entry of the volume is recorded in the PodListeners object of the pod.
-/

namespace ListenerOperator

open Interaction MergePatch Keyed

/-- A call on objects is served, or it is reported as failed, with its effect or without. A call on
files is answered in any way. -/
def flaky : Program.Answers Call Reply Cluster := fun call before reply after =>
  match call.kind with
  | .file => after = before
  | .read | .write =>
    (∃ api, serve api call before = (reply, after)) ∨
      (∃ failure, reply = .error failure) ∧
        (after = before ∨ ∃ api, after = (serve api call before).2)

section Flaky

variable {call : Call} {before after : Cluster}

/-- A value comes from the API server. -/
theorem flaky_ok {value : Value call} (objects : call.kind ≠ .file)
    (answered : flaky call before (.ok value) after) :
    ∃ api, serve api call before = (.ok value, after) := by
  have served : (∃ api, serve api call before = (.ok value, after)) ∨
      (∃ failure, (.ok value : Reply call) = .error failure) ∧
        (after = before ∨ ∃ api, after = (serve api call before).2) := by
    cases kind : call.kind with
    | file => exact absurd kind objects
    | read => simpa only [flaky, kind] using answered
    | write => simpa only [flaky, kind] using answered
  rcases served with served | ⟨⟨failure, impossible⟩, -⟩
  · exact served
  · cases impossible

/-- Only a write can have an effect, the one that the API server gives it. -/
theorem flaky_effect {reply : Reply call} (answered : flaky call before reply after) :
    after = before ∨ call.kind = .write ∧ ∃ api, after = (serve api call before).2 := by
  have effect : ∀ kind, call.kind = kind → kind ≠ .file →
      after = before ∨ ∃ api, after = (serve api call before).2 := by
    intro kind same objects
    have cases : (∃ api, serve api call before = (reply, after)) ∨
        (∃ failure, reply = .error failure) ∧
          (after = before ∨ ∃ api, after = (serve api call before).2) := by
      cases kind with
      | file => exact absurd rfl objects
      | read => simpa only [flaky, same] using answered
      | write => simpa only [flaky, same] using answered
    rcases cases with ⟨api, served⟩ | ⟨-, effect⟩
    · exact Or.inr ⟨api, (congrArg Prod.snd served).symm⟩
    · exact effect
  cases kind : call.kind with
  | file => exact Or.inl (by simpa only [flaky, kind] using answered)
  | read =>
    rcases effect .read kind (by decide) with same | ⟨api, same⟩
    · exact Or.inl same
    · exact Or.inl (same.trans (serve_read api call before kind))
  | write =>
    rcases effect .write kind (by decide) with same | happened
    · exact Or.inl same
    · exact Or.inr ⟨rfl, happened⟩

/-- Calls that are served are answered. -/
theorem flaky_serve (api : ApiServer) (call : Call) (cluster : Cluster) :
    flaky call cluster (serve api call cluster).1 (serve api call cluster).2 := by
  cases kind : call.kind with
  | file =>
    simp only [flaky, kind]
    cases call <;> first | rfl | cases kind
  | read =>
    simp only [flaky, kind]
    exact Or.inl ⟨api, rfl⟩
  | write =>
    simp only [flaky, kind]
    exact Or.inl ⟨api, rfl⟩

end Flaky

section Guarded

variable {allowed : Cluster → Call → Prop} {cluster : Cluster}

/-- A call that is allowed returns what the API server gives. -/
theorem guarded_ask (call : Call) (objects : call.kind ≠ .file) (allows : allowed cluster call) :
    (ask call).Guarded flaky allowed
      (fun value after => ∃ api, serve api call cluster = (.ok value, after)) cluster := by
  refine ⟨allows, fun reply after answered => ?_⟩
  cases reply with
  | ok value => exact flaky_ok objects answered
  | error failure => trivial

/-- A read returns what is stored, and leaves it. -/
theorem guarded_read (call : Call) (reads : call.kind = .read) (allows : allowed cluster call) :
    (ask call).Guarded flaky allowed (fun value after =>
      cluster = after ∧ ∃ api, (serve api call cluster).1 = .ok value) cluster := by
  refine (guarded_ask call (by simp [reads]) allows).mono ?_
  rintro value after ⟨api, served⟩
  have same := serve_read api call cluster reads
  rw [served] at same
  exact ⟨same.symm, api, congrArg Prod.fst served⟩

/-- A lifted outcome makes no call. -/
theorem guarded_lift {α : Type} (outcome : Except Failure α) :
    (Program.lift outcome : Prog α).Guarded flaky allowed
      (fun value after => cluster = after ∧ outcome = .ok value) cluster := by
  cases outcome with
  | ok value => exact ⟨rfl, rfl⟩
  | error failure => trivial

end Guarded

/-- The volume context of a request. -/
def NodePublishVolumeRequest.context (request : NodePublishVolumeRequest) : VolumeContext :=
  newVolumeContextFromMap request.volumeContext

/-- The stored volume and the stored pod of a request. -/
structure Cluster.Binds (cluster : Cluster) (request : NodePublishVolumeRequest)
    (pv : PersistentVolume) (pod : Pod) : Prop where
  podName : request.context.pod = some request.podKey.name
  podNamespace : request.context.podNamespace = some request.podKey.ns
  volume : cluster.pvs.get request.volumeId = some pv
  held : cluster.pods.get request.podKey = some pod

/-- The key of the Listener of a request: the one that the context names, or the one of the
Listener that is asked for. -/
def Cluster.ListenerKey (cluster : Cluster) (n : NodeServer) (request : NodePublishVolumeRequest)
    (pv : PersistentVolume) (pod : Pod) (key : ObjectKey) : Prop :=
  match request.context.listenerName with
  | some listenerName => key = ⟨request.podKey.ns, listenerName⟩
  | none => ∃ sent, cluster.askedListener n request.context pv pod = .ok sent ∧
      key = sent.metadata.key

/-- The stored volume, pod and Listener of a request. -/
structure Cluster.Resolves (cluster : Cluster) (n : NodeServer) (request : NodePublishVolumeRequest)
    (pv : PersistentVolume) (pod : Pod) (listener : Listener) : Prop
    extends cluster.Binds request pv pod where
  key : cluster.ListenerKey n request pv pod listener.metadata.key
  stored : cluster.listeners.get listener.metadata.key = some listener

/-- The name that a pod gives a volume. -/
def Pod.NamesVolume (pod : Pod) (pv : PersistentVolume) (volumeName : String) : Prop :=
  ∃ claimRef, pv.claimRef = some claimRef ∧
    findPodVolumeNameForPVC pod claimRef.name = .ok volumeName

/-- Metadata with another version. -/
def ObjectMeta.versioned (metadata : ObjectMeta) (version : Nat) : ObjectMeta :=
  { metadata with resourceVersion := version }

/-- A Listener with another version. -/
def Listener.versioned (listener : Listener) (version : Nat) : Listener :=
  { listener with metadata := listener.metadata.versioned version }

/-- A volume with another version. -/
def PersistentVolume.versioned (pv : PersistentVolume) (version : Nat) : PersistentVolume :=
  { pv with metadata := pv.metadata.versioned version }

/-- A pod with another version. -/
def Pod.versioned (pod : Pod) (version : Nat) : Pod :=
  { pod with metadata := pod.metadata.versioned version }

/-- A PodListeners object with another version. -/
def PodListeners.versioned (object : PodListeners) (version : Nat) : PodListeners :=
  { object with metadata := object.metadata.versioned version }

/-- A Listener with an identifier. -/
def Listener.identified (listener : Listener) (uid : String) : Listener :=
  { listener with metadata := { listener.metadata with uid } }

/-- A PodListeners object with an identifier. -/
def PodListeners.identified (object : PodListeners) (uid : String) : PodListeners :=
  { object with metadata := { object.metadata with uid } }

/-- The changes that an attempt makes: each is made from the stored objects. -/
inductive Cluster.Change (n : NodeServer) (request : NodePublishVolumeRequest) (before : Cluster) :
    Cluster → Prop
  /-- The Listener is created. -/
  | created {pv : PersistentVolume} {pod : Pod} {sent : Listener} (uid : String) (version : Nat)
      (binds : before.Binds request pv pod) (unnamed : request.context.listenerName = none)
      (asked : before.askedListener n request.context pv pod = .ok sent)
      (absent : before.listeners.get sent.metadata.key = none) :
      Change n request before { before with
        listeners := before.listeners.insert ((sent.identified uid).versioned version)
        revision := before.nextRevision }
  /-- The volume gets the labels of the Listener. -/
  | tied {pv : PersistentVolume} {pod : Pod} {listener : Listener} (version : Nat)
      (resolves : before.Resolves n request pv pod listener) :
      Change n request before { before with
        pvs := before.pvs.insert ((pv.tied listener).versioned version)
        revision := before.nextRevision }
  /-- The pod gets the label of the Listener. -/
  | mounted {pv : PersistentVolume} {pod : Pod} {listener : Listener} (version : Nat)
      (resolves : before.Resolves n request pv pod listener) :
      Change n request before { before with
        pods := before.pods.insert ((pod.mounting listener).versioned version)
        revision := before.nextRevision }
  /-- The PodListeners object of the pod is created with the entry of the volume. -/
  | opened {pv : PersistentVolume} {pod : Pod} {listener : Listener} {volumeName : String}
      (scope : PodListenerScope) (data : List IngressAddress) (uid : String) (version : Nat)
      (resolves : before.Resolves n request pv pod listener) (named : pod.NamesVolume pv volumeName)
      (absent : before.podListeners.get (pod.slot volumeName).podListeners = none) :
      Change n request before { before with
        podListeners := before.podListeners.insert
          (((buildPodListenersObject n pod listener volumeName scope data).identified uid).versioned
            version)
        revision := before.nextRevision }
  /-- The entry of the volume is set in the PodListeners object of the pod. -/
  | entered {pv : PersistentVolume} {pod : Pod} {listener : Listener} {volumeName : String}
      {existing : PodListeners} (scope : PodListenerScope) (data : List IngressAddress)
      (version : Nat) (resolves : before.Resolves n request pv pod listener)
      (named : pod.NamesVolume pv volumeName)
      (present : before.podListeners.get (pod.slot volumeName).podListeners = some existing) :
      Change n request before { before with
        podListeners := before.podListeners.insert ((existing.setEntry
          (buildPodListenersObject n pod listener volumeName scope data) volumeName).versioned
            version)
        revision := before.nextRevision }

/-- A call that is a write has no effect or makes one of the changes of an attempt. -/
def Cluster.Due (n : NodeServer) (request : NodePublishVolumeRequest) (cluster : Cluster)
    (call : Call) : Prop :=
  call.kind = .write → ∀ api, (serve api call cluster).2 = cluster ∨
    cluster.Change n request (serve api call cluster).2

/-- A read is no write. -/
theorem due_read {n : NodeServer} {request : NodePublishVolumeRequest} {cluster : Cluster}
    {call : Call} (reads : call.kind = .read) : cluster.Due n request call := by
  intro writes
  rw [reads] at writes
  cases writes

/-- The same volume, up to labels and versions. -/
structure PersistentVolume.Alike (pv other : PersistentVolume) : Prop where
  claimRef : other.claimRef = pv.claimRef
  name : other.metadata.name = pv.metadata.name
  ns : other.metadata.ns = pv.metadata.ns
  uid : other.metadata.uid = pv.metadata.uid

/-- The same pod, up to labels and versions. -/
structure Pod.Alike (pod other : Pod) : Prop where
  spec : other.spec = pod.spec
  name : other.metadata.name = pod.metadata.name
  ns : other.metadata.ns = pod.metadata.ns
  uid : other.metadata.uid = pod.metadata.uid

/-- A volume that is labelled is the same volume. -/
theorem PersistentVolume.alike_tied (pv : PersistentVolume) (listener : Listener) (version : Nat) :
    pv.Alike ((pv.tied listener).versioned version) := ⟨rfl, rfl, rfl, rfl⟩

/-- A pod that is labelled is the same pod. -/
theorem Pod.alike_mounting (pod : Pod) (listener : Listener) (version : Nat) :
    pod.Alike ((pod.mounting listener).versioned version) := ⟨rfl, rfl, rfl, rfl⟩

/-- The labels of a Listener are given once. -/
theorem PersistentVolume.tied_tied (pv : PersistentVolume) (listener : Listener) (version : Nat) :
    ((pv.tied listener).versioned version).tied listener = (pv.tied listener).versioned version := by
  simp only [PersistentVolume.tied, PersistentVolume.versioned, ObjectMeta.versioned,
    StringMap.copy_copy]

/-- The label of a Listener is given once. -/
theorem Pod.mounting_mounting (pod : Pod) (listener : Listener) (version : Nat) :
    ((pod.mounting listener).versioned version).mounting listener =
      (pod.mounting listener).versioned version := by
  simp only [Pod.mounting, Pod.versioned, ObjectMeta.versioned, StringMap.copy_copy]

/-- A pod is like itself. -/
theorem Pod.Alike.refl (pod : Pod) : pod.Alike pod := ⟨rfl, rfl, rfl, rfl⟩

/-- A volume is like itself. -/
theorem PersistentVolume.Alike.refl (pv : PersistentVolume) : pv.Alike pv := ⟨rfl, rfl, rfl, rfl⟩

section Alike

variable {n : NodeServer} (documented : n.runtime.Documented) {before after : Cluster}
  (classes : after.listenerClasses = before.listenerClasses) (claims : after.pvcs = before.pvcs)
  {pv other : PersistentVolume} (volumes : pv.Alike other) {pod copy : Pod} (pods : pod.Alike copy)

include documented classes claims volumes pods

/-- The Listener that is asked for does not depend on labels and versions. -/
theorem Cluster.askedListener_congr (volumeContext : VolumeContext) :
    after.askedListener n volumeContext other copy = before.askedListener n volumeContext pv pod := by
  have ports : getPodPorts copy = getPodPorts pod := by rw [getPodPorts, getPodPorts, pods.spec]
  have owned := fun controlled =>
    documented.identity "PersistentVolume" controlled volumes.name volumes.ns volumes.uid
  rw [Cluster.askedListener, Cluster.askedListener, classes, claims, volumes.claimRef, ports]
  simp only [owned]

/-- Nor does the key of the Listener. -/
theorem Cluster.listenerKey_congr (request : NodePublishVolumeRequest) (key : ObjectKey) :
    after.ListenerKey n request other copy key ↔ before.ListenerKey n request pv pod key := by
  rw [Cluster.ListenerKey, Cluster.ListenerKey,
    Cluster.askedListener_congr documented classes claims volumes pods]

end Alike

/-- The same pod gives the same volume the same name. -/
theorem Pod.Alike.namesVolume {pod copy : Pod} (pods : pod.Alike copy) {pv other : PersistentVolume}
    (volumes : pv.Alike other) (volumeName : String) :
    copy.NamesVolume other volumeName ↔ pod.NamesVolume pv volumeName := by
  have same : ∀ pvcName, findPodVolumeNameForPVC copy pvcName =
      findPodVolumeNameForPVC pod pvcName := by
    intro pvcName
    have isFor : Volume.isFor copy pvcName = Volume.isFor pod pvcName := by
      funext volume
      rw [Volume.isFor, Volume.isFor, pods.name]
    rw [findPodVolumeNameForPVC, findPodVolumeNameForPVC, pods.spec, pods.ns, pods.name, isFor]
  simp only [Pod.NamesVolume, volumes.claimRef, same]

/-- The addresses for a pod come from the nodes and the status of the Listener. -/
theorem Cluster.addressesFor_congr {before after : Cluster} (nodes : after.nodes = before.nodes)
    (listener : Listener) {pod copy : Pod} (pods : pod.Alike copy) :
    after.addressesFor listener copy = before.addressesFor listener pod := by
  rw [Cluster.addressesFor, Cluster.addressesFor, Cluster.priorAddress, Cluster.priorAddress, nodes,
    pods.spec]

/-- The same pod has the same slots. -/
theorem Pod.Alike.slot {pod copy : Pod} (pods : pod.Alike copy) (volumeName : String) :
    copy.slot volumeName = pod.slot volumeName := by
  rw [Pod.slot, Pod.slot, pods.ns, pods.uid]

section Attempt

variable {n : NodeServer} {request : NodePublishVolumeRequest} {cluster : Cluster}
  {pv : PersistentVolume} {pod : Pod} {listener : Listener}

/-- The stored volume and pod are the same in a cluster with other Listeners. -/
theorem Cluster.Binds.congr {after : Cluster} (binds : cluster.Binds request pv pod)
    (pvs : after.pvs = cluster.pvs) (pods : after.pods = cluster.pods) :
    after.Binds request pv pod :=
  { binds with volume := by rw [pvs, binds.volume], held := by rw [pods, binds.held] }

/-- A Listener that is not there is stored as it is sent. -/
theorem serve_createListener_absent (api : ApiServer) {sent : Listener}
    (absent : cluster.listeners.get sent.metadata.key = none) :
    serve api (.createListener sent) cluster =
      (.ok ((sent.identified api.uid).versioned cluster.nextRevision), { cluster with
        listeners := cluster.listeners.insert
          ((sent.identified api.uid).versioned cluster.nextRevision)
        revision := cluster.nextRevision }) := by
  simp only [serve, absent]
  rfl

/-- A PodListeners object that is not there is stored as it is sent. -/
theorem serve_createPodListeners_absent (api : ApiServer) {sent : PodListeners}
    (absent : cluster.podListeners.get sent.metadata.key = none) :
    serve api (.createPodListeners sent) cluster =
      (.ok ((sent.identified api.uid).versioned cluster.nextRevision), { cluster with
        podListeners := cluster.podListeners.insert
          ((sent.identified api.uid).versioned cluster.nextRevision)
        revision := cluster.nextRevision }) := by
  simp only [serve, absent]
  rfl

/-- The Listener is created if it is not there. -/
theorem due_createListener {sent : Listener} (binds : cluster.Binds request pv pod)
    (unnamed : request.context.listenerName = none)
    (asked : cluster.askedListener n request.context pv pod = .ok sent) :
    cluster.Due n request (.createListener sent) := by
  intro _ api
  cases stored : cluster.listeners.get sent.metadata.key with
  | some existing => exact Or.inl (by simp only [serve, stored])
  | none =>
    rw [serve_createListener_absent api stored]
    exact Or.inr (.created api.uid cluster.nextRevision binds unnamed asked stored)

/-- The volume is patched from the stored one. -/
theorem serve_patchPV_tied (api : ApiServer) (listener : Listener)
    (binds : cluster.Binds request pv pod) :
    ∃ version, serve api (.patchPV pv (pv.tied listener)) cluster =
      (.ok ((pv.tied listener).versioned version), { cluster with
        pvs := cluster.pvs.insert ((pv.tied listener).versioned version)
        revision := cluster.nextRevision }) := by
  have stored : cluster.pvs.get pv.metadata.name = some pv := by
    rw [cluster.pvs.keyed binds.volume, binds.volume]
  obtain ⟨patched, served, same⟩ := serve_patchPV_own api
    (pv.metadata.labels.copy (listenerMetaLabels listener)) stored
  rw [same] at served
  exact ⟨_, served⟩

/-- The pod is patched from the stored one. -/
theorem serve_patchPod_mounting (api : ApiServer) (listener : Listener)
    (binds : cluster.Binds request pv pod) :
    ∃ version, serve api (.patchPod pod (pod.mounting listener)) cluster =
      (.ok ((pod.mounting listener).versioned version), { cluster with
        pods := cluster.pods.insert ((pod.mounting listener).versioned version)
        revision := cluster.nextRevision }) := by
  have stored : cluster.pods.get pod.metadata.key = some pod := by
    rw [cluster.pods.keyed binds.held, binds.held]
  obtain ⟨patched, served, same⟩ := serve_patchPod_own api
    (pod.metadata.labels.copy (listenerMountPodLabels listener)) stored
  rw [same] at served
  exact ⟨_, served⟩

/-- The object of the pod is created if it is not there. -/
theorem due_createPodListeners {volumeName : String}
    (resolves : cluster.Resolves n request pv pod listener) (named : pod.NamesVolume pv volumeName)
    (scope : PodListenerScope) (data : List IngressAddress) :
    cluster.Due n request
      (.createPodListeners (buildPodListenersObject n pod listener volumeName scope data)) := by
  intro _ api
  obtain ⟨key, -⟩ := buildPodListenersObject_slot n pod listener volumeName scope data
  cases stored : cluster.podListeners.get (pod.slot volumeName).podListeners with
  | some existing => exact Or.inl (by simp only [serve, key, stored])
  | none =>
    rw [serve_createPodListeners_absent api (key ▸ stored)]
    exact Or.inr (.opened scope data api.uid cluster.nextRevision resolves named stored)

/-- The entry is patched into the stored object. -/
theorem serve_patchPodListeners_entry (api : ApiServer) {sent existing : PodListeners}
    {volumeName : String} {entry : PodListener}
    (single : sent.listeners = .single volumeName entry)
    (stored : cluster.podListeners.get sent.metadata.key = some existing) :
    ∃ version, serve api (.patchPodListeners existing (existing.setEntry sent volumeName)) cluster =
      (.ok ((existing.setEntry sent volumeName).versioned version), { cluster with
        podListeners := cluster.podListeners.insert
          ((existing.setEntry sent volumeName).versioned version)
        revision := cluster.nextRevision }) := by
  have key : existing.metadata.key = sent.metadata.key := cluster.podListeners.keyed stored
  rw [← key] at stored
  obtain ⟨patched, served, same⟩ := serve_patchPodListeners_own api
    (existing.listeners.insert volumeName entry) stored
  rw [same] at served
  rw [PodListeners.setEntry_single single]
  exact ⟨_, served⟩

/-- The volume, the pod and the Listener are there after the volume is patched. -/
theorem Cluster.Resolves.tie (documented : n.runtime.Documented)
    (resolves : cluster.Resolves n request pv pod listener) (version : Nat) :
    ({ cluster with
      pvs := cluster.pvs.insert ((pv.tied listener).versioned version)
      revision := cluster.nextRevision } : Cluster).Resolves n request
        ((pv.tied listener).versioned version) pod listener where
  podName := resolves.podName
  podNamespace := resolves.podNamespace
  volume := by
    rw [Store.get_insert, if_pos]
    exact (cluster.pvs.keyed resolves.volume).symm
  held := resolves.held
  key := (Cluster.listenerKey_congr documented rfl rfl (pv.alike_tied listener version)
    (Pod.Alike.refl pod) request _).mpr resolves.key
  stored := resolves.stored

/-- The volume, the pod and the Listener are there after the pod is patched. -/
theorem Cluster.Resolves.mount (documented : n.runtime.Documented)
    (resolves : cluster.Resolves n request pv pod listener) (version : Nat) :
    ({ cluster with
      pods := cluster.pods.insert ((pod.mounting listener).versioned version)
      revision := cluster.nextRevision } : Cluster).Resolves n request pv
        ((pod.mounting listener).versioned version) listener where
  podName := resolves.podName
  podNamespace := resolves.podNamespace
  volume := resolves.volume
  held := by
    rw [Store.get_insert, if_pos]
    exact (cluster.pods.keyed resolves.held).symm
  key := (Cluster.listenerKey_congr documented rfl rfl (PersistentVolume.Alike.refl pv)
    (pod.alike_mounting listener version) request _).mpr resolves.key
  stored := resolves.stored

/-- The volume, the pod and the Listener are there after the entry is recorded. -/
theorem Cluster.Resolves.record (documented : n.runtime.Documented) {after : Cluster}
    (resolves : cluster.Resolves n request pv pod listener)
    (same : cluster.SameBut (some .podListeners) after) :
    after.Resolves n request pv pod listener where
  toBinds := resolves.toBinds.congr (same.pvs (by simp)) (same.pods (by simp))
  key := (Cluster.listenerKey_congr documented same.others.1 same.others.2.2.1
    (PersistentVolume.Alike.refl pv) (Pod.Alike.refl pod) request _).mpr resolves.key
  stored := by rw [same.listeners (by simp), resolves.stored]

/-- The Listener that is asked for is created, or read if there is one under its name. -/
theorem storeListener_guarded {sent : Listener} (binds : cluster.Binds request pv pod)
    (unnamed : request.context.listenerName = none)
    (asked : cluster.askedListener n request.context pv pod = .ok sent) :
    (storeListener sent).Guarded flaky (Cluster.Due n request)
      (fun listener after => after.Resolves n request pv pod listener) cluster := by
  have resolves : ∀ {after : Cluster} {listener : Listener},
      cluster.SameBut (some .listeners) after →
      after.listeners.get sent.metadata.key = some listener →
        after.Resolves n request pv pod listener := by
    intro after listener same stored
    have key := after.listeners.keyed stored
    refine { binds.congr (same.pvs (by simp)) (same.pods (by simp)) with key := ?_, stored := ?_ }
    · rw [Cluster.ListenerKey, unnamed]
      refine ⟨sent, ?_, key⟩
      rw [← asked, Cluster.askedListener, Cluster.askedListener, same.others.1,
        same.others.2.2.1]
    · rw [key, stored]
  have due := due_createListener binds unnamed asked
  refine ⟨due, fun reply after answered => ?_⟩
  have same : cluster.SameBut (some .listeners) after := by
    rcases flaky_effect answered with rfl | ⟨-, api, rfl⟩
    · constructor <;> simp
    · exact serve_sameBut api (.createListener sent) cluster
  cases reply with
  | ok created =>
    obtain ⟨api, served⟩ := flaky_ok (by simp [Call.kind]) answered
    have held := serve_holds (congrArg Prod.fst served)
    rw [served] at held
    exact resolves same held
  | error failure =>
    dsimp only
    split
    · refine (guarded_read (.getListener sent.metadata.key) rfl (due_read rfl)).mapError.mono ?_
      rintro listener _ ⟨rfl, _, replied⟩
      exact resolves same (found_eq_ok.mp replied)
    · trivial

/-- The Listener of a request is found or created under its key. -/
theorem getListener_guarded (n : NodeServer) (binds : cluster.Binds request pv pod) :
    (getListener n pod pv request.context).Guarded flaky (Cluster.Due n request)
      (fun listener after => after.Resolves n request pv pod listener) cluster := by
  cases named : request.context.listenerName with
  | some listenerName =>
    simp only [getListener, named]
    refine (guarded_lift _).bind ?_
    rintro podNamespace _ ⟨rfl, spaced⟩
    have ns := Option.some.inj (binds.podNamespace.symm.trans (deref_eq_ok.mp spaced))
    refine (guarded_read (.getListener ⟨podNamespace, listenerName⟩) rfl (due_read rfl)).mono ?_
    rintro listener _ ⟨rfl, api, replied⟩
    have stored := found_eq_ok.mp replied
    have key := cluster.listeners.keyed stored
    refine { binds with key := ?_, stored := ?_ }
    · simp only [Cluster.ListenerKey, named, ns]
      exact key
    · rw [key, stored]
  | none =>
    simp only [getListener, named, createListener]
    refine (guarded_lift _).bind ?_
    rintro className _ ⟨rfl, classed⟩
    refine (guarded_lift _).bind ?_
    rintro podNamespace _ ⟨rfl, spaced⟩
    refine (guarded_read (.getListenerClass ⟨podNamespace, className⟩) rfl
      (due_read rfl)).mapError.bind ?_
    rintro listenerClass _ ⟨rfl, _, classRead⟩
    refine (guarded_lift _).bind ?_
    rintro claimRef _ ⟨rfl, claimed⟩
    refine (guarded_read (.getPVC claimRef) rfl (due_read rfl)).mapError.bind ?_
    rintro pvc _ ⟨rfl, _, claimRead⟩
    refine (guarded_lift _).mapError.bind ?_
    rintro ports _ ⟨rfl, ported⟩
    refine (guarded_lift _).mapError.bind ?_
    rintro ownerReferences _ ⟨rfl, owned⟩
    have asked := Cluster.askedListener_eq_ok.mpr ⟨className, deref_eq_ok.mp classed, podNamespace,
      deref_eq_ok.mp spaced, listenerClass, found_eq_ok.mp classRead, claimRef,
      deref_eq_ok.mp claimed, pvc, found_eq_ok.mp claimRead, ports, ported, ownerReferences, owned,
      rfl⟩
    exact storeListener_guarded binds named asked

/-- The volume gets the labels of its Listener. -/
theorem patchPVLabelsWithListener_guarded (documented : n.runtime.Documented)
    (resolves : cluster.Resolves n request pv pod listener) :
    (patchPVLabelsWithListener pv listener).Guarded flaky (Cluster.Due n request)
      (fun patched after => after.Resolves n request patched pod listener ∧
        patched.tied listener = patched) cluster := by
  have due : cluster.Due n request (.patchPV pv (pv.tied listener)) := by
    intro _ api
    obtain ⟨version, served⟩ := serve_patchPV_tied api listener resolves.toBinds
    rw [served]
    exact Or.inr (.tied version resolves)
  refine (guarded_ask (.patchPV pv (pv.tied listener)) (by simp [Call.kind]) due).mono ?_
  rintro patched after ⟨api, served⟩
  obtain ⟨version, expected⟩ := serve_patchPV_tied api listener resolves.toBinds
  obtain ⟨replied, rfl⟩ := Prod.mk.inj (expected.symm.trans served)
  obtain rfl := Except.ok.inj replied
  exact ⟨resolves.tie documented version, pv.tied_tied listener version⟩

/-- The pod gets the label of the Listener. -/
theorem patchPodLabelsWithListener_guarded (documented : n.runtime.Documented)
    (resolves : cluster.Resolves n request pv pod listener) :
    (patchPodLabelsWithListener pod listener).Guarded flaky (Cluster.Due n request)
      (fun patched after => after.Resolves n request pv patched listener ∧
        patched.mounting listener = patched) cluster := by
  have due : cluster.Due n request (.patchPod pod (pod.mounting listener)) := by
    intro _ api
    obtain ⟨version, served⟩ := serve_patchPod_mounting api listener resolves.toBinds
    rw [served]
    exact Or.inr (.mounted version resolves)
  refine (guarded_ask (.patchPod pod (pod.mounting listener)) (by simp [Call.kind]) due).mono ?_
  rintro patched after ⟨api, served⟩
  obtain ⟨version, expected⟩ := serve_patchPod_mounting api listener resolves.toBinds
  obtain ⟨replied, rfl⟩ := Prod.mk.inj (expected.symm.trans served)
  obtain rfl := Except.ok.inj replied
  exact ⟨resolves.mount documented version, pod.mounting_mounting listener version⟩

/-- The addresses are those of the stored Listener. -/
theorem getAddresses_guarded (stored : cluster.listeners.get listener.metadata.key = some listener) :
    (getAddresses listener pod).Guarded flaky (Cluster.Due n request)
      (fun result after => cluster = after ∧ result.1 = listener ∧
        cluster.addressesFor listener pod = .ok result.2) cluster := by
  refine (guarded_read (.getListener listener.metadata.key) rfl (due_read rfl)).bind ?_
  rintro current _ ⟨rfl, _, replied⟩
  obtain rfl : listener = current := Option.some.inj (stored.symm.trans (found_eq_ok.mp replied))
  rw [Cluster.addressesFor]
  split
  · refine ((guarded_read (.getNode { name := pod.spec.nodeName }) rfl (due_read rfl)).bind ?_ :
      (getNodeAddressByPod pod).Guarded _ _ (fun address after => cluster = after ∧
        cluster.priorAddress pod.spec.nodeName = .ok address) _).bind ?_
    · rintro node _ ⟨rfl, _, nodeRead⟩
      refine (guarded_lift _).mono ?_
      rintro address _ ⟨rfl, prior⟩
      refine ⟨rfl, ?_⟩
      rw [Cluster.priorAddress, found_eq_ok.mp nodeRead]
      exact prior
    · rintro address _ ⟨rfl, prior⟩
      refine ⟨rfl, rfl, ?_⟩
      rw [prior]
      rfl
  · split
    · exact ⟨rfl, rfl, rfl⟩
    · trivial

/-- An entry is set once. -/
theorem PodListeners.setEntry_setEntry {sent : PodListeners} {volumeName : String}
    {entry : PodListener} (single : sent.listeners = .single volumeName entry)
    (existing : PodListeners) (version : Nat) :
    ((existing.setEntry sent volumeName).versioned version).setEntry sent volumeName =
      (existing.setEntry sent volumeName).versioned version := by
  simp only [PodListeners.setEntry_single single, PodListeners.versioned]
  congr 1
  apply StringMap.ext
  intro key
  simp only [StringMap.get_insert]
  split <;> rfl

/-- A created object has its entry. -/
theorem PodListeners.setEntry_self {sent : PodListeners} {volumeName : String}
    {entry : PodListener} (single : sent.listeners = .single volumeName entry) (uid : String)
    (version : Nat) :
    ((sent.identified uid).versioned version).setEntry sent volumeName =
      (sent.identified uid).versioned version := by
  rw [PodListeners.setEntry_single single]
  simp only [PodListeners.identified, PodListeners.versioned, single]
  congr 1
  apply StringMap.ext
  intro key
  simp only [StringMap.get_insert, StringMap.get_single]
  split <;> rfl

/-- The entry of the volume is recorded in the object of the pod. -/
theorem createOrUpdatePodListeners_guarded {volumeName : String}
    (resolves : cluster.Resolves n request pv pod listener)
    (named : pod.NamesVolume pv volumeName) (scope : PodListenerScope)
    (data : List IngressAddress) :
    (createOrUpdatePodListeners (buildPodListenersObject n pod listener volumeName scope data)
      volumeName).Guarded flaky (Cluster.Due n request)
        (fun _ after => cluster.SameBut (some .podListeners) after ∧
          ∃ object, after.podListeners.get (pod.slot volumeName).podListeners = some object ∧
            object.setEntry (buildPodListenersObject n pod listener volumeName scope data)
              volumeName = object) cluster := by
  obtain ⟨key, single⟩ := buildPodListenersObject_slot n pod listener volumeName scope data
  generalize built : buildPodListenersObject n pod listener volumeName scope data = sent
  rw [built] at key single
  refine ⟨due_read rfl, fun reply after answered => ?_⟩
  cases reply with
  | error failure =>
    obtain rfl : after = cluster := by
      rcases flaky_effect answered with same | ⟨impossible, -⟩
      · exact same
      · cases impossible
    dsimp only
    split
    · have due := due_createPodListeners resolves named scope data
      rw [built] at due
      refine (guarded_ask (.createPodListeners sent) (by simp [Call.kind]) due).mapError.bind ?_
      rintro stored later ⟨api, served⟩
      have same := serve_sameBut api (.createPodListeners sent) after
      cases present : after.podListeners.get sent.metadata.key with
      | some other => simp [serve, present] at served
      | none =>
        rw [serve_createPodListeners_absent api present] at served same
        obtain ⟨-, rfl⟩ := Prod.mk.inj served
        rw [← key]
        exact ⟨same, _, Store.get_insert_self _ _, PodListeners.setEntry_self single _ _⟩
    · trivial
  | ok existing =>
    obtain ⟨api, served⟩ := flaky_ok (by simp [Call.kind]) answered
    have stored := found_eq_ok.mp (congrArg Prod.fst served)
    obtain rfl : after = cluster := (congrArg Prod.snd served).symm
    have due : after.Due n request
        (.patchPodListeners existing (existing.setEntry sent volumeName)) := by
      intro _ api
      obtain ⟨version, served⟩ := serve_patchPodListeners_entry api single stored
      rw [served]
      have change := Cluster.Change.entered scope data version resolves named (key ▸ stored)
      rw [built] at change
      exact Or.inr change
    refine (guarded_ask _ (by simp [Call.kind]) due).mapError.bind ?_
    rintro patched later ⟨api, served⟩
    obtain ⟨version, expected⟩ := serve_patchPodListeners_entry api single stored
    have same := serve_sameBut api
      (.patchPodListeners existing (existing.setEntry sent volumeName)) after
    rw [expected] at same
    obtain ⟨-, rfl⟩ := Prod.mk.inj (expected.symm.trans served)
    refine ⟨same, (existing.setEntry sent volumeName).versioned version, ?_,
      PodListeners.setEntry_setEntry single existing version⟩
    rw [Store.get_insert, if_pos]
    rw [← key, PodListeners.setEntry_single single]
    exact (after.podListeners.keyed stored).symm

end Attempt

/-- A program that only makes the writes of an attempt makes its changes, wherever it is cut off. -/
theorem changes_of_guarded {n : NodeServer} {request : NodePublishVolumeRequest} {α : Type}
    {program : Prog α} {post : α → Cluster → Prop} {cluster after : Cluster}
    (guarded : program.Guarded flaky (Cluster.Due n request) post cluster)
    (attempted : program.Interrupted flaky cluster after) :
    Relation.ReflTransGen (Cluster.Change n request) cluster after := by
  refine (guarded.keeps ?_ .refl).interrupted attempted
  intro call state reply later due changed answered
  rcases flaky_effect answered with rfl | ⟨writes, api, rfl⟩
  · exact changed
  · rcases due writes api with same | change
    · rw [same]
      exact changed
    · exact changed.tail change

/-- What a publication leaves: volume and pod have the labels of the Listener, and the entry made
from the addresses of the Listener is in the object of the pod. -/
structure Cluster.Finished (cluster : Cluster) (n : NodeServer)
    (request : NodePublishVolumeRequest) (pv : PersistentVolume) (pod : Pod)
    (publication : Publication) (data : List IngressAddress) : Prop
    extends cluster.Resolves n request pv pod publication.listener where
  tied : pv.tied publication.listener = pv
  mounted : pod.mounting publication.listener = pod
  addresses : cluster.addressesFor publication.listener pod = .ok data
  named : pod.NamesVolume pv publication.volumeName
  slot : publication.podListeners.metadata.key = (pod.slot publication.volumeName).podListeners
  recorded : ∃ object,
    cluster.podListeners.get publication.podListeners.metadata.key = some object ∧
      object.setEntry (buildPodListenersObject n pod publication.listener publication.volumeName
        (determinePodListenerScope publication.listener) data) publication.volumeName = object

section Whole

variable {n : NodeServer} (documented : n.runtime.Documented) {request : NodePublishVolumeRequest}
  {cluster : Cluster}

include documented

/-- The part of a publication after the Listener is found makes its changes. -/
theorem publishListener_guarded {pv : PersistentVolume} {pod : Pod} {listener : Listener}
    (resolves : cluster.Resolves n request pv pod listener) :
    (publishListener n pod pv listener).Guarded flaky (Cluster.Due n request)
      (fun result after => ∃ pv pod, after.Finished n request pv pod result.1 result.2) cluster := by
  refine (patchPVLabelsWithListener_guarded documented resolves).mapError.bind ?_
  rintro tied after ⟨resolves, still⟩
  refine (patchPodLabelsWithListener_guarded documented resolves).mapError.bind ?_
  rintro mounted after ⟨resolves, kept⟩
  refine (getAddresses_guarded resolves.stored).mapError.bind ?_
  rintro ⟨fresh, data⟩ _ ⟨rfl, rfl, addresses⟩
  refine (((guarded_lift _).bind ?_ : (publishPodListener n mounted tied fresh data).Guarded flaky
    (Cluster.Due n request) (fun result last =>
      last.Finished n request tied mounted ⟨fresh, result.1, result.2⟩ data) after)).mapError.bind ?_
  · rintro claimRef _ ⟨rfl, claimed⟩
    refine (guarded_lift _).bind ?_
    rintro volumeName _ ⟨rfl, found⟩
    have named : mounted.NamesVolume tied volumeName := ⟨claimRef, deref_eq_ok.mp claimed, found⟩
    refine (createOrUpdatePodListeners_guarded resolves named _ data).bind ?_
    rintro _ last ⟨same, recorded⟩
    have there := resolves.record documented same
    obtain ⟨slot, -⟩ := buildPodListenersObject_slot n mounted fresh volumeName
      (determinePodListenerScope fresh) data
    rw [← Cluster.addressesFor_congr same.others.2.1 fresh (Pod.Alike.refl mounted)] at addresses
    rw [← slot] at recorded
    exact { there with tied := still, mounted := kept, addresses, named, slot, recorded }
  · rintro ⟨volumeName, object⟩ last finished
    exact ⟨tied, mounted, finished⟩

/-- The part of a publication on the cluster makes its changes, and leaves them all if it
succeeds. -/
theorem publishToCluster_guarded :
    (publishToCluster n request).Guarded flaky (Cluster.Due n request)
      (fun result after => validateNodePublishVolumeRequest request = .ok () ∧
        ∃ pv pod, after.Finished n request pv pod result.1 result.2) cluster := by
  refine (guarded_lift _).bind ?_
  rintro _ _ ⟨rfl, accepted⟩
  refine (guarded_read (.getPV { name := request.volumeId }) rfl (due_read rfl)).bind ?_
  rintro pv _ ⟨rfl, _, volumeRead⟩
  refine (guarded_lift _).bind ?_
  rintro podName _ ⟨rfl, podNamed⟩
  refine (guarded_lift _).bind ?_
  rintro podNamespace _ ⟨rfl, podSpaced⟩
  have podKey : request.podKey = { ns := podNamespace, name := podName } := by
    simp [NodePublishVolumeRequest.podKey, deref_eq_ok.mp podNamed, deref_eq_ok.mp podSpaced]
  refine (guarded_read (.getPod { ns := podNamespace, name := podName }) rfl
    (due_read rfl)).mapError.bind ?_
  rintro pod _ ⟨rfl, _, podRead⟩
  have binds : cluster.Binds request pv pod := by
    constructor
    · rw [podKey]
      exact deref_eq_ok.mp podNamed
    · rw [podKey]
      exact deref_eq_ok.mp podSpaced
    · exact found_eq_ok.mp volumeRead
    · rw [podKey]
      exact found_eq_ok.mp podRead
  refine (getListener_guarded n binds).mapError.bind ?_
  intro listener after resolves
  refine (publishListener_guarded documented resolves).mono ?_
  rintro result last finished
  exact ⟨accepted, finished⟩

/-- A publication makes the changes of an attempt, and leaves them all if it succeeds. -/
theorem nodePublishVolume_guarded :
    (nodePublishVolume n request).Guarded flaky (Cluster.Due n request)
      (fun publication after =>
        ∃ pv pod data, after.Finished n request pv pod publication data) cluster := by
  refine (publishToCluster_guarded documented).bind ?_
  rintro ⟨publication, data⟩ after ⟨-, pv, pod, finished⟩
  -- The part on the node makes calls on files only, which leave the cluster.
  have files : (publishToNode n request.targetPath data).Guarded flaky (Cluster.Due n request)
      (fun _ later => later = after) after := by
    refine (publishToNode_adds n request.targetPath data).guarded ?_ ?_ rfl
    · intro state call adds writes
      rw [adds.kind] at writes
      cases writes
    · rintro call _ reply later adds rfl answered
      simpa only [flaky, adds.kind] using answered
  refine files.bind ?_
  rintro _ _ rfl
  exact ⟨pv, pod, data, finished⟩

/-- An attempt that is cut off anywhere has made some of its changes. -/
theorem nodePublishVolume_changes {after : Cluster}
    (attempted : (nodePublishVolume n request).Interrupted flaky cluster after) :
    Relation.ReflTransGen (Cluster.Change n request) cluster after :=
  changes_of_guarded (nodePublishVolume_guarded documented) attempted

end Whole

end ListenerOperator
