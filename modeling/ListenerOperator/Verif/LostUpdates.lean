import ListenerOperator.Base.Concurrent
import ListenerOperator.Verif.Instances
import ListenerOperator.Verif.Mounts

/-!
# Concurrent publications

Publications of volumes that run at the same time, with their reads through a cache, lose none of
each other's updates. Each run owns the slot of its volume: only its own write changes the entry
there, and that write is the last. Everything else that a run writes only grows, so that a patch
made from an old copy takes nothing away.
-/

namespace ListenerOperator

open Interaction MergePatch Versioned Keyed

/-- The entry in a slot. -/
def Cluster.entry (cluster : Cluster) (slot : Slot) : Option PodListener :=
  (cluster.podListeners.get slot.podListeners).bind fun object =>
    object.listeners[slot.volumeName]?

/-- No key of a map is lost. -/
def KeysKept {β : Type} (before after : StringMap β) : Prop :=
  ∀ key : String, before[key]?.isSome → after[key]?.isSome

/-- The same Listener, by its identifier. -/
def Listener.Remains (before after : Listener) : Prop :=
  after.metadata.uid = before.metadata.uid

/-- An object with at least the entries of another one. -/
def PodListeners.Grows (before after : PodListeners) : Prop :=
  KeysKept before.listeners after.listeners

/-- The same pod, with at least its labels. -/
structure Pod.Grows (before after : Pod) : Prop where
  uid : after.metadata.uid = before.metadata.uid
  spec : after.spec = before.spec
  labels : KeysKept before.metadata.labels after.metadata.labels

/-- The same volume, with at least its labels and bound to its claim. -/
structure PersistentVolume.Grows (before after : PersistentVolume) : Prop where
  claimRef : ∀ claimRef, before.claimRef = some claimRef → after.claimRef = some claimRef
  labels : KeysKept before.metadata.labels after.metadata.labels

/-- No Listener, pod, volume or PodListeners object is deleted or replaced by another one, and no
label or entry is removed. -/
structure Cluster.Grows (before after : Cluster) : Prop where
  listeners : Store.Grows Listener.Remains before.listeners after.listeners
  pods : Store.Grows Pod.Grows before.pods after.pods
  pvs : Store.Grows PersistentVolume.Grows before.pvs after.pvs
  podListeners : Store.Grows PodListeners.Grows before.podListeners after.podListeners

/-- A Listener remains itself. -/
theorem Listener.Remains.refl (listener : Listener) : listener.Remains listener := rfl

/-- An object has its own entries. -/
theorem PodListeners.Grows.refl (object : PodListeners) : object.Grows object :=
  fun _ present => present

/-- A pod grows into itself. -/
theorem Pod.Grows.refl (pod : Pod) : pod.Grows pod := ⟨rfl, rfl, fun _ present => present⟩

/-- A volume grows into itself. -/
theorem PersistentVolume.Grows.refl (pv : PersistentVolume) : pv.Grows pv :=
  ⟨fun _ bound => bound, fun _ present => present⟩

/-- A cluster grows into itself. -/
theorem Cluster.Grows.refl (cluster : Cluster) : cluster.Grows cluster where
  listeners := .refl Listener.Remains.refl _
  pods := .refl Pod.Grows.refl _
  pvs := .refl PersistentVolume.Grows.refl _
  podListeners := .refl PodListeners.Grows.refl _

/-- Growth in two steps is growth. -/
theorem Cluster.Grows.trans {first second third : Cluster} (left : first.Grows second)
    (right : second.Grows third) : first.Grows third where
  listeners := left.listeners.trans (fun before after => after.trans before) right.listeners
  pods := left.pods.trans (fun before after => ⟨after.uid.trans before.uid,
    after.spec.trans before.spec, fun key present => after.labels key (before.labels key present)⟩)
    right.pods
  pvs := left.pvs.trans (fun before after => ⟨fun claimRef bound =>
    after.claimRef claimRef (before.claimRef claimRef bound),
    fun key present => after.labels key (before.labels key present)⟩) right.pvs
  podListeners := left.podListeners.trans (fun before after key present =>
    after key (before key present)) right.podListeners

/-- The pod and the claim of the volume of a request give a slot, as soon as they are there. -/
def Cluster.Assigns (cluster : Cluster) (request : NodePublishVolumeRequest) (slot : Slot) : Prop :=
  ∀ pod pv claimRef volumeName, cluster.pods.get request.podKey = some pod →
    cluster.pvs.get request.volumeId = some pv → pv.claimRef = some claimRef →
      findPodVolumeNameForPVC pod claimRef.name = .ok volumeName → pod.slot volumeName = slot

/-- No version has another entry in a slot than the present one. -/
def Settled (history : History) (slot : Slot) : Prop :=
  ∀ version, history.Has version →
    version.entry slot = none ∨ version.entry slot = history.current.entry slot

/-- The history of a cluster in which nothing was deleted and each request has its slot. -/
structure Steady {ι : Type} (request : ι → NodePublishVolumeRequest) (slot : ι → Slot)
    (history : History) : Prop where
  mounts : MountsKept history
  grows : history.Along Cluster.Grows
  assigned : ∀ index, history.current.Assigns (request index) (slot index)

/-- The entry in a slot stays as it is. -/
structure Leaves (slot : Slot) (before after : History) : Prop where
  entry : after.current.entry slot = before.current.entry slot
  versions : ∀ version, after.Has version →
    before.Has version ∨ version.entry slot = before.current.entry slot

/-- What other components do meanwhile: the cluster grows, and mount labels and entries stay. -/
structure Cluster.Maintains (before after : Cluster) : Prop where
  grows : before.Grows after
  mounts : Store.Grows (fun pod now => ∀ uid value,
    pod.metadata.labels[mountLabelKey uid]? = some value →
      now.metadata.labels[mountLabelKey uid]? = some value) before.pods after.pods
  entries : ∀ slot, after.entry slot = before.entry slot

/-- A step of other components, after which Listeners are still told apart by their identifiers
and requests have their slots. -/
def Outside {ι : Type} (request : ι → NodePublishVolumeRequest) (slot : ι → Slot)
    (before after : History) : Prop :=
  ∃ next, after = before.commit next ∧ before.current.Maintains next ∧ Identified after ∧
    ∀ index, next.Assigns (request index) (slot index)

/-- What a publication knows after some calls: the replies, that its slot is settled before its
write, and what is there after it. -/
structure Progress (slot : Slot) (transcript : Transcript) (history : History) : Prop where
  recalls : Recalls transcript history
  settled : Unwritten transcript → Settled history slot
  filled : ∀ call value entry, Answered transcript call value → call.Fills slot entry →
    history.current.entry slot = some entry

/-- What a publication knows stays true. -/
theorem Progress.stable {slot : Slot} {transcript : Transcript} {before after : History}
    (progress : Progress slot transcript before) (extended : before.Extends after)
    (leaves : Leaves slot before after) : Progress slot transcript after where
  recalls := progress.recalls.mono extended
  settled unwritten := by
    intro version had
    rcases leaves.versions version had with earlier | same
    · rw [leaves.entry]
      exact progress.settled unwritten version earlier
    · rw [leaves.entry]
      exact Or.inr same
  filled call value entry answered fills := by
    rw [leaves.entry]
    exact progress.filled call value entry answered fills

/-- A patch from a copy to one with more labels removes none. -/
theorem keysKept_patchLabels {original modified : StringMap String}
    (more : KeysKept original modified) (stored : StringMap String) :
    KeysKept stored (patchLabels original modified stored) := by
  intro key present
  cases sets : modified[key]? with
  | some value =>
    rw [patchLabels_get _ _ _ _ _ sets]
    split
    · exact present
    · rfl
  | none =>
    have absent : original[key]? = none := by
      by_contra held
      have := more key (Option.isSome_iff_ne_none.mpr held)
      simp [sets] at this
    rw [patchLabels, labelPatch, merge_diff_get_of_eq _ (absent.trans sets.symm)]
    exact present

/-- Copying entries over a map removes none. -/
theorem keysKept_copy {β : Type} (destination source : StringMap β) :
    KeysKept destination (destination.copy source) := by
  intro key present
  rw [StringMap.get_copy]
  cases source[key]? with
  | none => exact present
  | some value => rfl

section Writes

variable {api : ApiServer} {cluster : Cluster}

/-- Patching a pod for a Listener makes it grow. -/
theorem serve_patchPod_grows {original pod : Pod} {listener : Listener}
    (replied : (serve api (.patchPod original (original.mounting listener)) cluster).1 = .ok pod) :
    Store.Grows Pod.Grows cluster.pods
      (serve api (.patchPod original (original.mounting listener)) cluster).2.pods := by
  obtain ⟨old, held, labels, key, uid, spec, stored⟩ := serve_patchPod replied
  rw [stored]
  refine Store.grows_insert Pod.Grows.refl _ ?_
  intro before found
  rw [key, cluster.pods.keyed held, held] at found
  obtain rfl := Option.some.inj found
  refine ⟨uid, spec, ?_⟩
  rw [labels]
  exact keysKept_patchLabels (keysKept_copy _ _) _

/-- A patched volume is stored with its labels merged. -/
theorem serve_patchPV {original modified pv : PersistentVolume}
    (replied : (serve api (.patchPV original modified) cluster).1 = .ok pv) :
    ∃ old, cluster.pvs.get modified.metadata.name = some old ∧
      pv.metadata.labels = patchLabels original.metadata.labels modified.metadata.labels
        old.metadata.labels ∧
      pv.metadata.name = old.metadata.name ∧ pv.claimRef = old.claimRef ∧
      (serve api (.patchPV original modified) cluster).2.pvs = cluster.pvs.insert pv := by
  cases held : cluster.pvs.get modified.metadata.name with
  | none => simp [serve, held] at replied
  | some old =>
    simp only [serve, held, Except.ok.injEq] at replied
    subst replied
    refine ⟨old, rfl, by simp, ?_, rfl, by simp only [serve, held]⟩
    rw [Cluster.relabel_frame]

/-- Patching a volume for a Listener makes it grow. -/
theorem serve_patchPV_grows {original pv : PersistentVolume} {listener : Listener}
    (replied : (serve api (.patchPV original (original.tied listener)) cluster).1 = .ok pv) :
    Store.Grows PersistentVolume.Grows cluster.pvs
      (serve api (.patchPV original (original.tied listener)) cluster).2.pvs := by
  obtain ⟨old, held, labels, name, claimRef, stored⟩ := serve_patchPV replied
  rw [stored]
  refine Store.grows_insert PersistentVolume.Grows.refl _ ?_
  intro before found
  rw [name, cluster.pvs.keyed held, held] at found
  obtain rfl := Option.some.inj found
  refine ⟨fun bound same => claimRef.trans same, ?_⟩
  rw [labels]
  exact keysKept_patchLabels (keysKept_copy _ _) _

/-- Calls on Listeners neither delete nor replace one. -/
theorem serve_listeners_grows (request : Call) :
    Store.Grows Listener.Remains cluster.listeners
      (serve api request cluster).2.listeners := by
  have same : Store.Grows Listener.Remains cluster.listeners cluster.listeners :=
    .refl Listener.Remains.refl _
  by_cases part : request.part = some .listeners
  · cases request with
    | createListener sent =>
      cases held : cluster.listeners.get sent.metadata.key with
      | some other => simpa only [serve, held] using same
      | none =>
        simp only [serve, held]
        refine Store.grows_insert Listener.Remains.refl _ ?_
        intro old found
        cases held.symm.trans found
    | updateListenerStatus sent =>
      cases held : cluster.listeners.get sent.metadata.key with
      | none => simpa only [serve, held] using same
      | some current =>
        simp only [serve, held, Cluster.storeStatus]
        repeat' split
        · exact same
        · exact same
        · refine Store.grows_insert Listener.Remains.refl _ ?_
          intro old found
          have keyed : cluster.listeners.get current.metadata.key = some current := by
            rw [cluster.listeners.keyed held]
            exact held
          rw [Option.some.inj (found.symm.trans keyed)]
          exact rfl
    | _ => cases part
  · rw [(serve_sameBut api request cluster).listeners part]
    exact same

/-- A created object has the entries that were sent. -/
theorem serve_createPodListeners {sent stored : PodListeners}
    (replied : (serve api (.createPodListeners sent) cluster).1 = .ok stored) :
    cluster.podListeners.get sent.metadata.key = none ∧
      stored.metadata.key = sent.metadata.key ∧ stored.listeners = sent.listeners ∧
        (serve api (.createPodListeners sent) cluster).2.podListeners =
          cluster.podListeners.insert stored := by
  cases held : cluster.podListeners.get sent.metadata.key with
  | some other => simp [serve, held] at replied
  | none =>
    simp only [serve, held, Except.ok.injEq] at replied
    subst replied
    exact ⟨rfl, rfl, rfl, by simp only [serve, held]⟩

/-- A patched object has the merged entries. -/
theorem serve_patchPodListeners {original modified stored : PodListeners}
    (replied : (serve api (.patchPodListeners original modified) cluster).1 = .ok stored) :
    ∃ old, cluster.podListeners.get modified.metadata.key = some old ∧
      stored.metadata.key = old.metadata.key ∧
      stored.listeners = merge podListenerPatch
        (diff podListenerPatch original.listeners modified.listeners) old.listeners ∧
      (serve api (.patchPodListeners original modified) cluster).2.podListeners =
        cluster.podListeners.insert stored := by
  cases held : cluster.podListeners.get modified.metadata.key with
  | none => simp [serve, held] at replied
  | some old =>
    simp only [serve, held] at replied
    split at replied
    · cases replied
    · rename_i applies
      simp only [Except.ok.injEq] at replied
      subst replied
      refine ⟨old, rfl, ?_, ?_, by simp [serve, held, applies]⟩
      · rw [Cluster.relist]
        dsimp only
        split <;> rfl
      · rw [Cluster.relist]
        dsimp only
        split
        · rename_i same
          exact same.symm
        · rfl

/-- The entries of a cluster after an object is stored. -/
theorem entry_insert {after : Cluster} {stored : PodListeners}
    (inserted : after.podListeners = cluster.podListeners.insert stored) (slot : Slot) :
    after.entry slot = if slot.podListeners = stored.metadata.key then
      stored.listeners[slot.volumeName]? else cluster.entry slot := by
  rw [Cluster.entry, inserted, Store.get_insert]
  split <;> rfl

/-- What a write of an entry does: the slot has the entry, the other entries stay, and no key is
removed. -/
structure Filled (slot : Slot) (entry : PodListener) (before after : Cluster) : Prop where
  entry : after.entry slot = some entry
  others : ∀ other, other ≠ slot → after.entry other = before.entry other
  grows : Store.Grows PodListeners.Grows before.podListeners after.podListeners

/-- Two slots of one object are of different volumes. -/
theorem Slot.volumeName_ne {slot other : Slot} (different : other ≠ slot)
    (same : other.podListeners = slot.podListeners) : slot.volumeName ≠ other.volumeName := by
  obtain ⟨podListeners, volumeName⟩ := slot
  obtain ⟨otherPodListeners, otherName⟩ := other
  intro equal
  refine different ?_
  rw [Slot.mk.injEq]
  exact ⟨same, equal.symm⟩

/-- Creating the object of a slot fills it. -/
theorem serve_create_fills {sent stored : PodListeners} {slot : Slot} {entry : PodListener}
    (replied : (serve api (.createPodListeners sent) cluster).1 = .ok stored)
    (fills : Call.Fills slot entry (.createPodListeners sent)) :
    Filled slot entry cluster (serve api (.createPodListeners sent) cluster).2 := by
  obtain ⟨absent, key, listeners, inserted⟩ := serve_createPodListeners replied
  obtain ⟨own, single⟩ := fills
  refine ⟨?_, ?_, ?_⟩
  · rw [entry_insert inserted, if_pos (own.symm.trans key.symm), listeners, single,
      StringMap.get_single, if_pos rfl]
  · intro other different
    rw [entry_insert inserted]
    split
    · rename_i same
      have volume : slot.volumeName ≠ other.volumeName :=
        Slot.volumeName_ne different (same.trans (key.trans own))
      rw [listeners, single, StringMap.get_single, if_neg volume, Cluster.entry, same, key, absent]
      rfl
    · rfl
  · rw [inserted]
    refine Store.grows_insert PodListeners.Grows.refl _ ?_
    intro old found
    rw [key, absent] at found
    cases found

/-- Patching the object of a slot, from a copy that has nothing else there than the current
object, fills it. -/
theorem serve_patch_fills {existing modified stored : PodListeners} {slot : Slot}
    {entry : PodListener}
    (replied : (serve api (.patchPodListeners existing modified) cluster).1 = .ok stored)
    (fills : Call.Fills slot entry (.patchPodListeners existing modified))
    (own : existing.metadata.key = slot.podListeners)
    (current : existing.listeners[slot.volumeName]? = none ∨
      existing.listeners[slot.volumeName]? = cluster.entry slot) :
    Filled slot entry cluster (serve api (.patchPodListeners existing modified) cluster).2 := by
  obtain ⟨old, held, key, listeners, inserted⟩ := serve_patchPodListeners replied
  have modifies : modified =
      { existing with listeners := existing.listeners.insert slot.volumeName entry } := fills
  subst modifies
  have found : cluster.podListeners.get slot.podListeners = some old := own ▸ held
  have keyed : slot.podListeners = stored.metadata.key :=
    (cluster.podListeners.keyed found).symm.trans key.symm
  have before : cluster.entry slot = old.listeners[slot.volumeName]? := by
    rw [Cluster.entry, found]
    rfl
  have sets : stored.listeners[slot.volumeName]? = some entry := by
    rw [listeners]
    refine merge_diff_get _ ?_ (before ▸ current)
    rw [StringMap.get_insert, if_pos rfl]
  have others : ∀ name : String, slot.volumeName ≠ name →
      stored.listeners[name]? = old.listeners[name]? := by
    intro name different
    rw [listeners]
    refine merge_diff_get_of_eq _ ?_ _
    rw [StringMap.get_insert, if_neg different]
  refine ⟨?_, ?_, ?_⟩
  · rw [entry_insert inserted, if_pos keyed, sets]
  · intro other different
    rw [entry_insert inserted]
    split
    · rename_i same
      have volume : slot.volumeName ≠ other.volumeName :=
        Slot.volumeName_ne different (same.trans keyed.symm)
      rw [others _ volume, Cluster.entry, same, ← keyed, found]
      rfl
    · rfl
  · rw [inserted]
    refine Store.grows_insert PodListeners.Grows.refl _ ?_
    intro replaced there
    rw [← keyed, found] at there
    obtain rfl := Option.some.inj there
    intro name present
    by_cases same : slot.volumeName = name
    · rw [← same, sets]
      rfl
    · rw [others name same]
      exact present

/-- No call makes a pod, or changes what it is. -/
theorem serve_pod_origin {call : Call} {value : Value call} {key : ObjectKey} {pod : Pod}
    (replied : (serve api call cluster).1 = .ok value)
    (stored : (serve api call cluster).2.pods.get key = some pod) :
    ∃ old, cluster.pods.get key = some old ∧ pod.metadata.key = old.metadata.key ∧
      pod.metadata.uid = old.metadata.uid ∧ pod.spec = old.spec := by
  by_cases part : call.part = some .pods
  · cases call with
    | patchPod original modified =>
      obtain ⟨old, held, -, sameKey, uid, spec, inserted⟩ := serve_patchPod replied
      rw [inserted, Store.get_insert] at stored
      split at stored
      · rename_i same
        obtain rfl := Option.some.inj stored
        refine ⟨old, ?_, sameKey, uid, spec⟩
        rw [same, sameKey, cluster.pods.keyed held]
        exact held
      · exact ⟨pod, stored, rfl, rfl, rfl⟩
    | _ => cases part
  · rw [(serve_sameBut api call cluster).pods part] at stored
    exact ⟨pod, stored, rfl, rfl, rfl⟩

/-- No call makes a volume, or changes its claim. -/
theorem serve_pv_origin {call : Call} {value : Value call} {name : String} {pv : PersistentVolume}
    (replied : (serve api call cluster).1 = .ok value)
    (stored : (serve api call cluster).2.pvs.get name = some pv) :
    ∃ old, cluster.pvs.get name = some old ∧ pv.claimRef = old.claimRef := by
  by_cases part : call.part = some .pvs
  · cases call with
    | patchPV original modified =>
      obtain ⟨old, held, -, sameName, claimRef, inserted⟩ := serve_patchPV replied
      rw [inserted, Store.get_insert] at stored
      split at stored
      · rename_i same
        obtain rfl := Option.some.inj stored
        refine ⟨old, ?_, claimRef⟩
        rw [same, sameName, cluster.pvs.keyed held]
        exact held
      · exact ⟨pv, stored, rfl⟩
    | _ => cases part
  · rw [(serve_sameBut api call cluster).pvs part] at stored
    exact ⟨pv, stored, rfl⟩

end Writes

/-- The volume of a claim is found by the key and the specification of a pod. -/
theorem findPodVolumeNameForPVC_congr {first second : Pod}
    (key : first.metadata.key = second.metadata.key) (spec : first.spec = second.spec)
    (pvcName : String) :
    findPodVolumeNameForPVC first pvcName = findPodVolumeNameForPVC second pvcName := by
  have name : first.metadata.name = second.metadata.name := congrArg ObjectKey.name key
  have ns : first.metadata.ns = second.metadata.ns := congrArg ObjectKey.ns key
  have volumes : Volume.isFor first pvcName = Volume.isFor second pvcName := by
    funext volume
    rw [Volume.isFor, Volume.isFor, name]
  rw [findPodVolumeNameForPVC, findPodVolumeNameForPVC, spec, volumes, name, ns]

/-- The slot of a volume is found by the namespace and the identifier of a pod. -/
theorem slot_congr {first second : Pod} (key : first.metadata.key = second.metadata.key)
    (uid : first.metadata.uid = second.metadata.uid) (volumeName : String) :
    first.slot volumeName = second.slot volumeName := by
  have ns : first.metadata.ns = second.metadata.ns := congrArg ObjectKey.ns key
  rw [Pod.slot, Pod.slot, ns, uid]

/-- Calls keep the slots of requests. -/
theorem Cluster.Assigns.call {cluster : Cluster} {request : NodePublishVolumeRequest} {slot : Slot}
    (assigns : cluster.Assigns request slot) {api : ApiServer} {call : Call} {value : Value call}
    (replied : (serve api call cluster).1 = .ok value) :
    (serve api call cluster).2.Assigns request slot := by
  intro pod pv claimRef volumeName hasPod hasPV bound found
  obtain ⟨oldPod, heldPod, key, uid, spec⟩ := serve_pod_origin replied hasPod
  obtain ⟨oldPV, heldPV, claim⟩ := serve_pv_origin replied hasPV
  rw [slot_congr key uid]
  rw [findPodVolumeNameForPVC_congr key spec] at found
  exact assigns oldPod oldPV claimRef volumeName heldPod heldPV (claim ▸ bound) found

section Call

variable {ι : Type} {request : ι → NodePublishVolumeRequest} {slot : ι → Slot}
  {history : History} {transcript : Transcript} {index : ι}

/-- A publication mounts a known Listener on a version of its pod. -/
theorem ObjectCall.mounting {request : NodePublishVolumeRequest} {original modified : Pod}
    (made : ObjectCall request transcript (.patchPod original modified))
    (recalls : Recalls transcript history) : Mounting history original modified := by
  obtain ⟨read, listener, resolved, same⟩ := made
  obtain ⟨key, version, had, stored⟩ := recalls.pod read
  exact ⟨⟨version, had, by rw [key]; exact stored⟩, listener, resolved.known recalls, same⟩

/-- The slot that a publication located is that of the current pod and volume. -/
theorem Located.current {located : Slot} (here : Located (request index) transcript located)
    (recalls : Recalls transcript history) (grows : history.Along Cluster.Grows) :
    ∃ pod pv claimRef, history.current.pods.get (request index).podKey = some pod ∧
      history.current.pvs.get (request index).volumeId = some pv ∧ pv.claimRef = some claimRef ∧
        findPodVolumeNameForPVC pod claimRef.name = .ok located.volumeName ∧
          located = pod.slot located.volumeName := by
  obtain ⟨pod, mounted, pv, tied, listener, claimRef, readPod, patchedPod, readPV, patchedPV,
    bound, found, same⟩ := here
  obtain ⟨podKey, -⟩ := recalls.pod readPod
  obtain ⟨pvName, -⟩ := recalls.pv readPV
  obtain ⟨version, had, heldPod⟩ := recalls.stored _ _ patchedPod (by simp [Call.kind])
  have podStored : version.pods.get (request index).podKey = some mounted := podKey ▸ heldPod
  obtain ⟨now, nowStored, nowGrows⟩ := (grows version had).pods _ _ podStored
  obtain ⟨other, hadOther, heldPV⟩ := recalls.stored _ _ patchedPV (by simp [Call.kind])
  have pvStored : other.pvs.get (request index).volumeId = some tied := by
    have name : pv.metadata.name = (request index).volumeId := pvName
    exact name ▸ heldPV
  obtain ⟨nowPV, nowPVStored, nowPVGrows⟩ := (grows other hadOther).pvs _ _ pvStored
  have key : mounted.metadata.key = now.metadata.key :=
    (version.pods.keyed podStored).trans (history.current.pods.keyed nowStored).symm
  refine ⟨now, nowPV, claimRef, nowStored, nowPVStored, nowPVGrows.claimRef claimRef bound, ?_, ?_⟩
  · rw [← findPodVolumeNameForPVC_congr key nowGrows.spec.symm]
    exact found
  · rw [← slot_congr key nowGrows.uid.symm]
    exact same

/-- The slot that a publication locates is its own. -/
theorem Located.eq_slot {located : Slot} (here : Located (request index) transcript located)
    (recalls : Recalls transcript history) (steady : Steady request slot history) :
    located = slot index := by
  obtain ⟨pod, pv, claimRef, hasPod, hasPV, bound, found, same⟩ :=
    here.current recalls steady.grows
  rw [same]
  exact steady.assigned index pod pv claimRef _ hasPod hasPV bound found

/-- A publication lets pods grow. -/
theorem ObjectCall.pods_grow {request : NodePublishVolumeRequest} {call : Call}
    (made : ObjectCall request transcript call) {api : ApiServer} {cluster : Cluster}
    {value : Value call} (replied : (serve api call cluster).1 = .ok value) :
    Store.Grows Pod.Grows cluster.pods (serve api call cluster).2.pods := by
  by_cases part : call.part = some .pods
  · cases call with
    | patchPod original modified =>
      obtain ⟨-, listener, -, rfl⟩ := made
      exact serve_patchPod_grows replied
    | _ => cases part
  · rw [(serve_sameBut api call cluster).pods part]
    exact .refl Pod.Grows.refl _

/-- A publication lets volumes grow. -/
theorem ObjectCall.pvs_grow {request : NodePublishVolumeRequest} {call : Call}
    (made : ObjectCall request transcript call) {api : ApiServer} {cluster : Cluster}
    {value : Value call} (replied : (serve api call cluster).1 = .ok value) :
    Store.Grows PersistentVolume.Grows cluster.pvs (serve api call cluster).2.pvs := by
  by_cases part : call.part = some .pvs
  · cases call with
    | patchPV original modified =>
      obtain ⟨-, listener, -, rfl⟩ := made
      exact serve_patchPV_grows replied
    | _ => cases part
  · rw [(serve_sameBut api call cluster).pvs part]
    exact .refl PersistentVolume.Grows.refl _

/-- The object that a publication patches has nothing else in the slot than the current one. -/
theorem Progress.existing (progress : Progress (slot index) transcript history)
    (unwritten : Unwritten transcript) {existing : PodListeners}
    (read : Answered transcript (.getPodListeners (slot index).podListeners) existing) :
    existing.metadata.key = (slot index).podListeners ∧
      (existing.listeners[(slot index).volumeName]? = none ∨
        existing.listeners[(slot index).volumeName]? = history.current.entry (slot index)) := by
  obtain ⟨version, had, stored⟩ := progress.recalls.stored _ _ read (by simp [Call.kind])
  have found : version.podListeners.get (slot index).podListeners = some existing := stored
  have entry : version.entry (slot index) = existing.listeners[(slot index).volumeName]? := by
    rw [Cluster.entry, found]
    rfl
  rw [← entry]
  exact ⟨version.podListeners.keyed found, progress.settled unwritten version had⟩

/-- The entry that a publication writes is in its slot. -/
theorem ObjectCall.fills {call : Call} (made : ObjectCall (request index) transcript call)
    (steady : Steady request slot history) (progress : Progress (slot index) transcript history)
    (part : call.part = some .podListeners) :
    Unwritten transcript ∧ (∃ entry, call.Fills (slot index) entry) ∧
      ∀ (api : ApiServer) (value : Value call) (entry : PodListener),
        (serve api call history.current).1 = .ok value → call.Fills (slot index) entry →
          Filled (slot index) entry history.current (serve api call history.current).2 := by
  cases call with
  | createPodListeners sent =>
    obtain ⟨unwritten, located, entry, here, fills⟩ := made
    rw [here.eq_slot progress.recalls steady] at fills
    exact ⟨unwritten, ⟨entry, fills⟩, fun api value other replied filled =>
      serve_create_fills replied filled⟩
  | patchPodListeners existing modified =>
    obtain ⟨unwritten, located, entry, here, fills, read⟩ := made
    rw [here.eq_slot progress.recalls steady] at fills read
    obtain ⟨key, current⟩ := progress.existing unwritten read
    exact ⟨unwritten, ⟨entry, fills⟩, fun api value other replied filled =>
      serve_patch_fills replied filled key current⟩
  | _ => cases part

/-- A call that writes no PodListeners leaves the entries. -/
theorem serve_entry (api : ApiServer) {call : Call} (cluster : Cluster)
    (part : call.part ≠ some .podListeners) (slot : Slot) :
    (serve api call cluster).2.entry slot = cluster.entry slot := by
  rw [Cluster.entry, (serve_sameBut api call cluster).podListeners part]
  rfl

/-- A publication lets the cluster grow, and changes no entry but its own. -/
theorem ObjectCall.grows {call : Call} (made : ObjectCall (request index) transcript call)
    (steady : Steady request slot history) (progress : Progress (slot index) transcript history)
    {api : ApiServer} {value : Value call}
    (replied : (serve api call history.current).1 = .ok value) :
    history.current.Grows (serve api call history.current).2 ∧
      ∀ other, other ≠ slot index →
        (serve api call history.current).2.entry other = history.current.entry other := by
  have listeners : Store.Grows Listener.Remains history.current.listeners
      (serve api call history.current).2.listeners := serve_listeners_grows call
  have pods := made.pods_grow replied
  have pvs := made.pvs_grow replied
  by_cases part : call.part = some .podListeners
  · obtain ⟨-, ⟨entry, fills⟩, filled⟩ := made.fills steady progress part
    have written := filled api value entry replied fills
    exact ⟨⟨listeners, pods, pvs, written.grows⟩, written.others⟩
  · refine ⟨⟨listeners, pods, pvs, ?_⟩, fun other _ => serve_entry api _ part other⟩
    rw [(serve_sameBut api call history.current).podListeners part]
    exact .refl PodListeners.Grows.refl _

/-- Entries are written in PodListeners objects. -/
theorem Call.writesEntry_iff (call : Call) :
    call.WritesEntry ↔ call.part = some .podListeners := by
  cases call <;> simp [Call.WritesEntry, Call.part]

/-- A slot is filled by a write of an entry. -/
theorem Call.Fills.part {call : Call} {slot : Slot} {entry : PodListener}
    (fills : call.Fills slot entry) : call.part = some .podListeners := by
  cases call <;> first | rfl | cases fills

/-- The history without a new version is steady with a new one. -/
theorem Steady.record (steady : Steady request slot history) {call : Call} {next : Cluster}
    (mounts : MountsKept (history.record call next)) (grows : history.current.Grows next)
    (assigned : ∀ index, next.Assigns (request index) (slot index)) :
    Steady request slot (history.record call next) :=
  ⟨mounts, steady.grows.commit Cluster.Grows.refl Cluster.Grows.trans grows, assigned⟩

/-- A call that leaves the slot of a publication leaves what the publication knows. -/
theorem Progress.call (progress : Progress (slot index) transcript history) {call : Call}
    {reply : Reply call} {after : History} (answered : cached call history reply after)
    (leaves : Leaves (slot index) history after) (part : call.part ≠ some .podListeners) :
    Progress (slot index) (⟨call, reply⟩ :: transcript) after := by
  have kept := progress.stable (cached_extends answered) leaves
  refine ⟨progress.recalls.call answered, ?_, ?_⟩
  · intro unwritten
    exact kept.settled fun earlier listed => unwritten earlier (List.mem_cons_of_mem _ listed)
  · intro other value entry told fills
    rcases List.mem_cons.mp told with same | earlier
    · cases same
      exact absurd fills.part part
    · exact kept.filled other value entry earlier fills

/-- A write that was refused or lost tells nothing about the slot. -/
theorem Progress.lost (progress : Progress (slot index) transcript history) {call : Call}
    {reply : Reply call} {after : History} (answered : cached call history reply after)
    (idle : Idle call history reply after) (part : call.part = some .podListeners) :
    Progress (slot index) (⟨call, reply⟩ :: transcript) after := by
  have writes : call.WritesEntry := call.writesEntry_iff.mpr part
  refine ⟨progress.recalls.call answered, ?_, ?_⟩
  · intro unwritten
    exact absurd writes (unwritten _ List.mem_cons_self)
  · intro other value entry told fills
    rcases List.mem_cons.mp told with same | earlier
    · cases same
      have kind : call.kind = .write := by
        cases call <;> first | rfl | cases part
      rcases idle.value value rfl with file | ⟨reads, -⟩
      · rw [kind] at file
        cases file
      · rw [kind] at reads
        cases reads
    · rw [idle.unchanged]
      exact progress.filled other value entry earlier fills

/-- The write of an entry fills the slot of the publication. -/
theorem Progress.written (progress : Progress (slot index) transcript history) {call : Call}
    {reply : Reply call} {next : Cluster}
    (answered : cached call history reply (history.record call next))
    (part : call.part = some .podListeners) (unwritten : Unwritten transcript)
    (filled : ∀ entry, call.Fills (slot index) entry → next.entry (slot index) = some entry) :
    Progress (slot index) (⟨call, reply⟩ :: transcript) (history.record call next) := by
  refine ⟨progress.recalls.call answered, ?_, ?_⟩
  · intro none
    exact absurd (call.writesEntry_iff.mpr part) (none _ List.mem_cons_self)
  · intro other value entry told fills
    rcases List.mem_cons.mp told with same | earlier
    · cases same
      exact filled entry fills
    · exact absurd (other.writesEntry_iff.mpr fills.part) (unwritten _ earlier)

end Call

/-- A successful publication is what the cluster shows: the pod carries the label of the Listener,
and the entry that was built is in the slot of its volume. -/
def Cluster.Shows (cluster : Cluster) (request : NodePublishVolumeRequest)
    (publication : Publication) : Prop :=
  ∃ pod pv claimRef entry, cluster.pods.get request.podKey = some pod ∧
    pod.metadata.labels[mountLabelKey publication.listener.metadata.uid]? =
      some publication.listener.metadata.name ∧
    cluster.pvs.get request.volumeId = some pv ∧ pv.claimRef = some claimRef ∧
      findPodVolumeNameForPVC pod claimRef.name = .ok publication.volumeName ∧
    publication.podListeners.metadata.key = (pod.slot publication.volumeName).podListeners ∧
      publication.podListeners.listeners = .single publication.volumeName entry ∧
        cluster.entry (pod.slot publication.volumeName) = some entry

/-- The volume of a request is bound to a claim, and a Listener is the one of the name of the
claim. -/
def Cluster.ClaimListener (cluster : Cluster) (request : NodePublishVolumeRequest)
    (claimRef : ObjectKey) (listener : Listener) : Prop :=
  (∃ pv, cluster.pvs.get request.volumeId = some pv ∧ pv.claimRef = some claimRef) ∧
    ∃ now, cluster.listeners.get { ns := request.podKey.ns, name := claimRef.name } = some now ∧
      now.metadata.uid = listener.metadata.uid

section Outcome

variable {ι : Type} {request : ι → NodePublishVolumeRequest} {slot : ι → Slot}
  {history : History} {transcript : Transcript} {index : ι} {publication : Publication}

/-- What a publication was answered, the cluster shows. -/
theorem Published.shows (published : Published (request index) transcript publication)
    (steady : Steady request slot history) (progress : Progress (slot index) transcript history) :
    history.current.Shows (request index) publication := by
  obtain ⟨original, mounted, read, patched⟩ := published.mounted
  obtain ⟨podKey, -⟩ := progress.recalls.pod read
  obtain ⟨carrier, stored, label⟩ := steady.mounts.carried
    (published.resolved.known progress.recalls) (progress.recalls.logged _ _ patched rfl)
  obtain ⟨pod, pv, claimRef, hasPod, hasPV, bound, found, same⟩ :=
    published.located.current progress.recalls steady.grows
  obtain ⟨call, value, entry, answered, fills, single⟩ := published.written
  have own := published.located.eq_slot progress.recalls steady
  have pods : carrier = pod := by
    rw [podKey, hasPod] at stored
    exact (Option.some.inj stored).symm
  rw [pods] at label
  refine ⟨pod, pv, claimRef, entry, hasPod, label, hasPV, bound, found,
    congrArg Slot.podListeners same, single, ?_⟩
  rw [← same, own]
  exact progress.filled call value entry answered (own ▸ fills)

/-- A publication without a named Listener has the one of the name of the claim. -/
theorem Published.claimListener (published : Published (request index) transcript publication)
    (steady : Steady request slot history) (recalls : Recalls transcript history)
    (unnamed : (newVolumeContextFromMap (request index).volumeContext).listenerName = none) :
    ∃ claimRef, history.current.ClaimListener (request index) claimRef publication.listener := by
  obtain ⟨pv, claimRef, pvc, readPV, bound, readPVC, resolved⟩ := published.claimed unnamed
  obtain ⟨-, version, had, storedPV⟩ := recalls.pv readPV
  obtain ⟨now, nowStored, nowGrows⟩ := (steady.grows version had).pvs _ _ storedPV
  obtain ⟨other, -, heldPVC⟩ := recalls.stored _ _ readPVC (by simp [Call.kind])
  have claim : pvc.metadata.key = claimRef := other.pvcs.keyed heldPVC
  have name : pvc.metadata.name = claimRef.name := congrArg ObjectKey.name claim
  refine ⟨claimRef, ⟨now, nowStored, nowGrows.claimRef claimRef bound⟩, ?_⟩
  rw [← name]
  have held : ∃ last, history.Has last ∧ last.listeners.get
      { ns := (request index).podKey.ns, name := pvc.metadata.name } =
        some publication.listener := by
    rcases resolved with answered | ⟨sent, key, answered⟩
    · exact recalls.stored _ _ answered (by simp [Call.kind])
    · rw [← key]
      exact recalls.stored _ _ answered (by simp [Call.kind])
  obtain ⟨last, hadLast, stored⟩ := held
  exact (steady.grows last hadLast).listeners _ _ stored

/-- What is known of a publication that succeeded. -/
def Reported (request : ι → NodePublishVolumeRequest) (slot : ι → Slot) (index : ι)
    (outcome : Except Failure Publication) (history : History) : Prop :=
  ∀ publication, outcome = .ok publication → ∃ transcript,
    Published (request index) transcript publication ∧ Progress (slot index) transcript history

/-- Other components keep the history steady. -/
theorem Outside.steady {before after : History} (outside : Outside request slot before after)
    (steady : Steady request slot before) : Steady request slot after := by
  obtain ⟨next, rfl, maintains, identified, assigned⟩ := outside
  refine ⟨steady.mounts.commit identified ?_,
    steady.grows.commit Cluster.Grows.refl Cluster.Grows.trans maintains.grows, assigned⟩
  intro key pod stored
  obtain ⟨now, held, keeps⟩ := maintains.mounts key pod stored
  exact ⟨now, held, fun uid value found => Or.inl (keeps uid value found)⟩

end Outcome

/-- A pod with two volumes. -/
def pairPod : Pod := { webPod with spec := { webPod.spec with volumes := [
  { name := "listener", persistentVolumeClaim := some "web-data" },
  { name := "admin", persistentVolumeClaim := some "admin-data" }] } }

/-- The second volume of `pairPod`. -/
def adminVolume : PersistentVolume where
  metadata := { name := "pv-2", uid := "3f5e7d9c-1b0a-4c8d-8e2f-4a6b8c0d2e3f" }
  claimRef := some { ns := "default", name := "admin-data" }

/-- The requests to publish the volumes of `pairPod`. -/
def pairRequest : Bool → NodePublishVolumeRequest
  | false => webRequest
  | true => { webRequest with volumeId := "pv-2", targetPath := "/mnt/admin" }

/-- An identifier that no Listener of `pairHistory` has. -/
def pairUid : String := "9a8b7c6d-5e4f-4a3b-8c2d-1e0f9a8b7c6d"

end ListenerOperator
