import ListenerOperator.Verif.Attempts
import ListenerOperator.Verif.LostUpdates

/-!
# The volume of a claim

A claim of a pod is resolved to the name of a volume, by the claim that the volume names or, for an
ephemeral volume, by the name that is made for its claim. Volumes have names of their own and one
source, so a volume is resolved from one claim only. The entry of a volume is kept under its name,
and publications for other claims of the pod leave it as it is.
-/

namespace ListenerOperator

open Interaction MergePatch Keyed

/-- The volumes of a pod have names of their own, and none has both sources. -/
structure Pod.WellFormed (pod : Pod) : Prop where
  names : (pod.spec.volumes.map (·.name)).Nodup
  sources : ∀ volume ∈ pod.spec.volumes,
    volume.persistentVolumeClaim = none ∨ volume.ephemeral = false

/-- A volume of a pod that claims a PVC, or that is ephemeral with a PVC made for it. -/
def Pod.HasVolumeFor (pod : Pod) (pvcName : String) (volume : Volume) : Prop :=
  volume ∈ pod.spec.volumes ∧
    (volume.persistentVolumeClaim = some pvcName ∨
      volume.ephemeral = true ∧ pod.metadata.name ++ "-" ++ volume.name = pvcName)

/-- The test of the loop. -/
theorem Volume.isFor_iff {pod : Pod} {pvcName : String} {volume : Volume} :
    volume.isFor pod pvcName = true ↔ volume.persistentVolumeClaim = some pvcName ∨
      volume.ephemeral = true ∧ pod.metadata.name ++ "-" ++ volume.name = pvcName := by
  simp only [Volume.isFor, Bool.or_eq_true, Bool.and_eq_true, decide_eq_true_eq,
    eq_comm (a := pvcName)]

/-- The name that is returned is that of the first volume that passes the test. -/
theorem findPodVolumeNameForPVC_eq_ok {pod : Pod} {pvcName volumeName : String} :
    findPodVolumeNameForPVC pod pvcName = .ok volumeName ↔
      ∃ volume, pod.spec.volumes.find? (·.isFor pod pvcName) = some volume ∧
        volume.name = volumeName := by
  rw [findPodVolumeNameForPVC]
  cases pod.spec.volumes.find? (·.isFor pod pvcName) with
  | none => simp [errorText]
  | some volume => simp

/-- The volume that is returned is one for the claim. -/
theorem hasVolumeFor_of_found {pod : Pod} {pvcName volumeName : String}
    (found : findPodVolumeNameForPVC pod pvcName = .ok volumeName) :
    ∃ volume, pod.HasVolumeFor pvcName volume ∧ volume.name = volumeName := by
  obtain ⟨volume, first, named⟩ := findPodVolumeNameForPVC_eq_ok.mp found
  have listed := List.mem_of_find?_eq_some first
  have passes := List.find?_some first
  exact ⟨volume, ⟨listed, Volume.isFor_iff.mp passes⟩, named⟩

/-- A volume is found if and only if there is one for the claim. -/
theorem found_iff_hasVolumeFor {pod : Pod} {pvcName : String} :
    (∃ volumeName, findPodVolumeNameForPVC pod pvcName = .ok volumeName) ↔
      ∃ volume, pod.HasVolumeFor pvcName volume := by
  constructor
  · rintro ⟨volumeName, found⟩
    obtain ⟨volume, has, -⟩ := hasVolumeFor_of_found found
    exact ⟨volume, has⟩
  · rintro ⟨volume, listed, matching⟩
    have passes := Volume.isFor_iff.mpr matching
    have some := List.find?_isSome.mpr ⟨volume, listed, passes⟩
    obtain ⟨first, found⟩ := Option.isSome_iff_exists.mp some
    exact ⟨first.name, findPodVolumeNameForPVC_eq_ok.mpr ⟨first, found, rfl⟩⟩

namespace Pod.WellFormed

variable {pod : Pod} (wellFormed : pod.WellFormed)

include wellFormed

/-- Volumes of one name are one volume. -/
theorem eq_of_name {first second : Volume} (one : first ∈ pod.spec.volumes)
    (other : second ∈ pod.spec.volumes) (same : first.name = second.name) : first = second :=
  List.inj_on_of_nodup_map wellFormed.names one other same

/-- A volume is for one claim only. -/
theorem claim_unique {volume : Volume} {first second : String}
    (one : pod.HasVolumeFor first volume) (other : pod.HasVolumeFor second volume) :
    first = second := by
  obtain ⟨listed, one⟩ := one
  obtain ⟨-, other⟩ := other
  rcases wellFormed.sources volume listed with unclaimed | fixed
  · -- The name of the claim is made from the name of the volume.
    simp only [unclaimed, reduceCtorEq, false_or] at one other
    exact one.2.symm.trans other.2
  · simp only [fixed, Bool.false_eq_true, false_and, or_false] at one other
    exact Option.some.inj (one.symm.trans other)

/-- Different claims are resolved to volumes of different names. -/
theorem found_injective {first second volumeName : String}
    (one : findPodVolumeNameForPVC pod first = .ok volumeName)
    (other : findPodVolumeNameForPVC pod second = .ok volumeName) : first = second := by
  obtain ⟨volume, has, named⟩ := hasVolumeFor_of_found one
  obtain ⟨copy, alsoHas, alsoNamed⟩ := hasVolumeFor_of_found other
  obtain rfl := wellFormed.eq_of_name has.1 alsoHas.1 (named.trans alsoNamed.symm)
  exact wellFormed.claim_unique has alsoHas

end Pod.WellFormed

/-- The volume of a request is not bound to a claim of the given name. -/
def Cluster.BoundElsewhere (cluster : Cluster) (request : NodePublishVolumeRequest)
    (pvcName : String) : Prop :=
  ∀ pv claimRef, cluster.pvs.get request.volumeId = some pv → pv.claimRef = some claimRef →
    claimRef.name ≠ pvcName

/-- An attempt to publish a volume for another claim of a pod, with calls that may fail, which ends
or is cut off anywhere. -/
def Cluster.PublishesElsewhere (pod : ObjectKey) (pvcName : String) (before after : Cluster) : Prop :=
  ∃ (n : NodeServer) (request : NodePublishVolumeRequest), n.runtime.Documented ∧
    request.podKey = pod ∧ before.BoundElsewhere request pvcName ∧
      (nodePublishVolume n request).Interrupted flaky before after

/-- The pod is there, up to labels and versions, and a slot has the given entry. -/
structure Cluster.Preserves (pod : Pod) (slot : Slot) (entry : Option PodListener)
    (cluster : Cluster) : Prop where
  held : ∃ copy, cluster.pods.get pod.metadata.key = some copy ∧ pod.Alike copy
  entry : cluster.entry slot = entry

/-- All entries of a pod are in one object. -/
theorem Pod.Alike.slot_podListeners {pod copy : Pod} (alike : pod.Alike copy)
    (first second : String) :
    (pod.slot first).podListeners = (copy.slot second).podListeners := by
  rw [alike.slot]
  rfl

section Elsewhere

variable {pod : Pod} {pvcName volumeName : String} {entry : Option PodListener} {before after : Cluster}

/-- An entry of another volume of the pod is stored, and the entry stays. -/
theorem entry_of_stored {stored : PodListeners} (slot : Slot)
    (inserted : after.podListeners = before.podListeners.insert stored)
    (same : stored.metadata.key = slot.podListeners →
      stored.listeners[slot.volumeName]? = before.entry slot) :
    after.entry slot = before.entry slot := by
  rw [entry_insert inserted]
  split
  · rename_i here
    exact same here.symm
  · rfl

/-- A change of an attempt for another claim leaves the entry. -/
theorem Cluster.Preserves.change (wellFormed : pod.WellFormed)
    (found : findPodVolumeNameForPVC pod pvcName = .ok volumeName) {n : NodeServer}
    {request : NodePublishVolumeRequest} (key : request.podKey = pod.metadata.key)
    (preserves : before.Preserves pod (pod.slot volumeName) entry)
    (elsewhere : before.BoundElsewhere request pvcName) (change : before.Change n request after) :
    after.Preserves pod (pod.slot volumeName) entry ∧ after.BoundElsewhere request pvcName := by
  obtain ⟨⟨copy, held, alike⟩, entered⟩ := preserves
  -- The entry that an attempt writes has another name.
  have different : ∀ {pv : PersistentVolume} {stored : Pod} {written : String},
      before.Binds request pv stored → stored.NamesVolume pv written → stored = copy ∧
        volumeName ≠ written := by
    intro pv stored written binds named
    have same : stored = copy := by
      have there := binds.held
      rw [key, held] at there
      exact (Option.some.inj there).symm
    subst same
    refine ⟨rfl, fun same => ?_⟩
    subst same
    obtain ⟨claimRef, bound, resolved⟩ :=
      (alike.namesVolume (PersistentVolume.Alike.refl pv) volumeName).mp named
    exact elsewhere pv claimRef binds.volume bound (wellFormed.found_injective resolved found)
  cases change with
  | created uid version binds unnamed asked absent =>
    exact ⟨⟨⟨copy, held, alike⟩, entered⟩, elsewhere⟩
  | @tied pv stored listener version resolves =>
    refine ⟨⟨⟨copy, held, alike⟩, entered⟩, fun other claimRef there bound => ?_⟩
    have here : request.volumeId = ((pv.tied listener).versioned version).metadata.name :=
      (before.pvs.keyed resolves.volume).symm
    rw [Store.get_insert, if_pos here] at there
    obtain rfl := Option.some.inj there
    exact elsewhere pv claimRef resolves.volume bound
  | @mounted pv stored listener version resolves =>
    have same : stored = copy := by
      have there := resolves.held
      rw [key, held] at there
      exact (Option.some.inj there).symm
    subst same
    have here : pod.metadata.key = ((stored.mounting listener).versioned version).metadata.key :=
      (before.pods.keyed held).symm
    refine ⟨⟨⟨(stored.mounting listener).versioned version, ?_, alike.spec, alike.name, alike.ns,
      alike.uid⟩, entered⟩, elsewhere⟩
    rw [Store.get_insert, if_pos here]
  | @opened pv stored listener written scope data uid version resolves named absent =>
    obtain ⟨rfl, other⟩ := different resolves.toBinds named
    obtain ⟨slot, single⟩ := buildPodListenersObject_slot n stored listener written scope data
    refine ⟨⟨⟨stored, held, alike⟩, ?_⟩, elsewhere⟩
    rw [← entered]
    refine entry_of_stored (pod.slot volumeName) rfl fun _ => ?_
    have nothing : before.entry (pod.slot volumeName) = none := by
      rw [Cluster.entry, alike.slot_podListeners volumeName written, absent]
      rfl
    rw [nothing]
    show (buildPodListenersObject n stored listener written scope data).listeners[volumeName]? = none
    rw [single, StringMap.get_single, if_neg other.symm]
  | @entered pv stored listener written existing scope data version resolves named present =>
    obtain ⟨rfl, other⟩ := different resolves.toBinds named
    obtain ⟨slot, single⟩ := buildPodListenersObject_slot n stored listener written scope data
    refine ⟨⟨⟨stored, held, alike⟩, ?_⟩, elsewhere⟩
    rw [← entered]
    refine entry_of_stored (pod.slot volumeName) rfl fun _ => ?_
    rw [Cluster.entry, alike.slot_podListeners volumeName written, present,
      PodListeners.setEntry_single single]
    show (existing.listeners.insert written _)[volumeName]? = existing.listeners[volumeName]?
    rw [StringMap.get_insert, if_neg other.symm]

/-- An attempt for another claim leaves the entry. -/
theorem Cluster.Preserves.attempt (wellFormed : pod.WellFormed)
    (found : findPodVolumeNameForPVC pod pvcName = .ok volumeName)
    (preserves : before.Preserves pod (pod.slot volumeName) entry)
    (publishes : Cluster.PublishesElsewhere pod.metadata.key pvcName before after) :
    after.Preserves pod (pod.slot volumeName) entry := by
  obtain ⟨n, request, documented, key, elsewhere, attempted⟩ := publishes
  have changes := nodePublishVolume_changes documented attempted
  have kept : after.Preserves pod (pod.slot volumeName) entry ∧
      after.BoundElsewhere request pvcName := by
    clear attempted
    induction changes with
    | refl => exact ⟨preserves, elsewhere⟩
    | tail _ change kept => exact kept.1.change wellFormed found key kept.2 change
  exact kept.1

end Elsewhere

/-- The resolution of claims to volumes is exact, and different claims are resolved to different
names. Any number of attempts to publish volumes for other claims of the pod leave the entry of a
volume as it is. -/
theorem findPodVolumeNameForPVC_exact (pod : Pod) (wellFormed : pod.WellFormed) :
    (∀ pvcName, (∃ volumeName, findPodVolumeNameForPVC pod pvcName = .ok volumeName) ↔
      ∃ volume, pod.HasVolumeFor pvcName volume) ∧
    (∀ pvcName volumeName, findPodVolumeNameForPVC pod pvcName = .ok volumeName →
      ∃ volume, pod.HasVolumeFor pvcName volume ∧ volume.name = volumeName ∧
        ∀ other ∈ pod.spec.volumes, other.name = volumeName → other = volume) ∧
    (∀ first second volumeName, findPodVolumeNameForPVC pod first = .ok volumeName →
      findPodVolumeNameForPVC pod second = .ok volumeName → first = second) ∧
    ∀ pvcName volumeName before after,
      findPodVolumeNameForPVC pod pvcName = .ok volumeName →
      before.pods.get pod.metadata.key = some pod →
      Relation.ReflTransGen (Cluster.PublishesElsewhere pod.metadata.key pvcName) before after →
        after.entry (pod.slot volumeName) = before.entry (pod.slot volumeName) := by
  refine ⟨fun pvcName => found_iff_hasVolumeFor, fun pvcName volumeName found => ?_,
    fun first second volumeName one other => wellFormed.found_injective one other,
    fun pvcName volumeName before after found held attempts => ?_⟩
  · obtain ⟨volume, has, named⟩ := hasVolumeFor_of_found found
    refine ⟨volume, has, named, fun other listed same => ?_⟩
    exact wellFormed.eq_of_name listed has.1 (same.trans named.symm)
  · have start : before.Preserves pod (pod.slot volumeName)
        (before.entry (pod.slot volumeName)) := ⟨⟨pod, held, Pod.Alike.refl pod⟩, rfl⟩
    have kept : after.Preserves pod (pod.slot volumeName)
        (before.entry (pod.slot volumeName)) := by
      induction attempts with
      | refl => exact start
      | tail _ attempt kept => exact kept.attempt wellFormed found attempt
    exact kept.entry

/-- A pod with a volume of a claim and an ephemeral volume, with dashes in its names. -/
def dashedPod : Pod := { webPod with spec := { webPod.spec with volumes := [
  { name := "listener", persistentVolumeClaim := some "web-0-data" },
  { name := "http-admin", ephemeral := true }] } }

/-- The ephemeral volume of `dashedPod` is resolved from one claim. -/
theorem dashedPod_exact :
    (∃ volumeName, findPodVolumeNameForPVC dashedPod "web-0-http-admin" = .ok volumeName) ∧
      ∀ pvcName, findPodVolumeNameForPVC dashedPod pvcName = .ok "http-admin" →
        pvcName = "web-0-http-admin" := by
  have wellFormed : dashedPod.WellFormed := ⟨by decide, by decide⟩
  obtain ⟨succeeds, -, injective, -⟩ := findPodVolumeNameForPVC_exact dashedPod wellFormed
  have found : findPodVolumeNameForPVC dashedPod "web-0-http-admin" = .ok "http-admin" := by
    decide +kernel
  refine ⟨(succeeds "web-0-http-admin").mpr ?_, fun pvcName other => ?_⟩
  · exact ⟨{ name := "http-admin", ephemeral := true }, by decide, Or.inr ⟨rfl, by decide +kernel⟩⟩
  · exact injective pvcName "web-0-http-admin" "http-admin" other found

end ListenerOperator
