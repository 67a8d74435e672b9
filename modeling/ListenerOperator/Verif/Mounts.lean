import ListenerOperator.Verif.Cache
import ListenerOperator.Verif.Publish

/-!
# Mount labels over a history

The label of a mounted Listener on a pod stays, whatever copies the patches were made from: a
patch names the key of its own Listener only, and the keys of two Listeners differ, since their
identifiers do. The invariant is about all versions of the pods, because a patch may be made from
any of them.
-/

namespace ListenerOperator

open Interaction MergePatch Versioned Keyed

/-- Different canonical identifiers have different mount labels. -/
theorem mountLabelKey_inj {first second : String} (left : Uuid.Canonical first)
    (right : Uuid.Canonical second) (same : mountLabelKey first = mountLabelKey second) :
    first = second := by
  have lists := congrArg String.toList same
  simp only [mountLabelKey, stripDashes, String.toList_append, String.toList_ofList,
    List.append_cancel_left_eq] at lists
  exact left.eq_of_digits right lists

/-- The labels of a pod that mounts a Listener. -/
theorem Pod.mounting_labels (pod : Pod) (listener : Listener) (key : String) :
    (pod.mounting listener).metadata.labels[key]? =
      if mountLabelKey listener.metadata.uid = key then some listener.metadata.name
      else pod.metadata.labels[key]? := by
  simp only [Pod.mounting, StringMap.get_copy, listenerMountPodLabels, StringMap.get_single]
  split <;> rfl

/-- Over all versions, identifiers are canonical and tell Listeners apart. -/
structure Identified (history : History) : Prop where
  canonical : ∀ listener, Known history listener → Uuid.Canonical listener.metadata.uid
  unique : ∀ first second, Known history first → Known history second →
    first.metadata.uid = second.metadata.uid → first.metadata.key = second.metadata.key

/-- Listeners with the same mount label have the same name. -/
theorem Identified.name_eq {history : History} (identified : Identified history)
    {first second : Listener} (left : Known history first) (right : Known history second)
    (same : mountLabelKey first.metadata.uid = mountLabelKey second.metadata.uid) :
    first.metadata.name = second.metadata.name := by
  have uid := mountLabelKey_inj (identified.canonical first left)
    (identified.canonical second right) same
  exact congrArg ObjectKey.name (identified.unique first second left right uid)

/-- A served call stores a Listener with the identifier and the specification it had, or creates
it. -/
theorem serve_listener_origin {api : ApiServer} {request : Call} {cluster : Cluster}
    {key : ObjectKey} {listener : Listener}
    (stored : (serve api request cluster).2.listeners.get key = some listener) :
    (∃ old, cluster.listeners.get key = some old ∧
        old.metadata.uid = listener.metadata.uid ∧ old.spec = listener.spec) ∨
      listener.metadata.uid = api.uid ∧ ∃ sent, request = .createListener sent ∧
        sent.metadata.key = key ∧ sent.spec = listener.spec := by
  by_cases part : request.part = some .listeners
  · cases request with
    | createListener sent =>
      cases held : cluster.listeners.get sent.metadata.key with
      | some other =>
        simp only [serve, held] at stored
        exact Or.inl ⟨listener, stored, rfl, rfl⟩
      | none =>
        simp only [serve, held, Store.get_insert] at stored
        split at stored
        · rename_i same
          obtain rfl := Option.some.inj stored
          exact Or.inr ⟨rfl, sent, rfl, same.symm, rfl⟩
        · exact Or.inl ⟨listener, stored, rfl, rfl⟩
    | updateListenerStatus sent =>
      cases held : cluster.listeners.get sent.metadata.key with
      | none =>
        simp only [serve, held] at stored
        exact Or.inl ⟨listener, stored, rfl, rfl⟩
      | some current =>
        simp only [serve, held] at stored
        split at stored
        · exact Or.inl ⟨listener, stored, rfl, rfl⟩
        · simp only [Cluster.storeStatus] at stored
          split at stored
          · exact Or.inl ⟨listener, stored, rfl, rfl⟩
          · rw [Store.get_insert] at stored
            split at stored
            · rename_i same
              obtain rfl := Option.some.inj stored
              have keyed : cluster.listeners.get current.metadata.key = some current := by
                rw [cluster.listeners.keyed held]
                exact held
              refine Or.inl ⟨current, ?_, rfl, rfl⟩
              rw [same]
              exact keyed
            · exact Or.inl ⟨listener, stored, rfl, rfl⟩
    | _ => cases part
  · rw [(serve_sameBut api request cluster).listeners part] at stored
    exact Or.inl ⟨listener, stored, rfl, rfl⟩

/-- A served write keeps Listeners apart. -/
theorem Identified.record {history : History} (identified : Identified history) {api : ApiServer}
    (fresh : Fresh history api.uid) (request : Call) :
    Identified (history.record request (serve api request history.current).2) := by
  have origin : ∀ listener, Known (history.record request
      (serve api request history.current).2) listener →
      (∃ old, Known history old ∧ old.metadata.uid = listener.metadata.uid ∧
        old.metadata.key = listener.metadata.key) ∨
      listener.metadata.uid = api.uid ∧ ∃ sent, request = .createListener sent ∧
        sent.metadata.key = listener.metadata.key := by
    intro listener known
    rcases known_record.mp known with stored | earlier
    · rcases serve_listener_origin stored with ⟨old, held, uid, -⟩ | ⟨uid, sent, created, key, -⟩
      · exact Or.inl ⟨old, known_current held, uid, history.current.listeners.keyed held⟩
      · exact Or.inr ⟨uid, sent, created, key⟩
    · exact Or.inl ⟨listener, earlier, rfl, rfl⟩
  constructor
  · intro listener known
    rcases origin listener known with ⟨old, earlier, uid, -⟩ | ⟨uid, -⟩
    · rw [← uid]
      exact identified.canonical old earlier
    · rw [uid]
      exact fresh.1
  · intro first second left right same
    rcases origin first left with ⟨one, known, uid, key⟩ | ⟨uid, sent, created, key⟩
    · rcases origin second right with ⟨other, earlier, uid', key'⟩ | ⟨uid', -⟩
      · rw [← key, ← key']
        exact identified.unique one other known earlier (by rw [uid, uid', same])
      · exact absurd (uid.trans (same.trans uid')) (fresh.2 one known)
    · rcases origin second right with ⟨other, earlier, uid', -⟩ | ⟨-, sent', created', key'⟩
      · exact absurd (uid'.trans (same.symm.trans uid)) (fresh.2 other earlier)
      · obtain rfl : sent = sent' := Call.createListener.inj (created.symm.trans created')
        exact key.symm.trans key'

section Returned

variable {history : History} {transcript : Transcript}

/-- A Listener that was returned is known. -/
theorem Resolved.known {listener : Listener} (resolved : Resolved transcript listener)
    (recalls : Recalls transcript history) : Known history listener := by
  rcases resolved with ⟨key, answered⟩ | ⟨sent, answered⟩
  · obtain ⟨version, had, stored⟩ := recalls.stored _ _ answered (by simp [Call.kind])
    have found : version.listeners.get key = some listener := stored
    exact ⟨version, had, by rw [version.listeners.keyed found]; exact found⟩
  · obtain ⟨version, had, stored⟩ := recalls.stored _ _ answered (by simp [Call.kind])
    have found : version.listeners.get sent.metadata.key = some listener := stored
    exact ⟨version, had, by rw [version.listeners.keyed found]; exact found⟩

/-- A pod that was read is one of a version. -/
theorem Recalls.pod (recalls : Recalls transcript history) {key : ObjectKey} {pod : Pod}
    (answered : Answered transcript (.getPod key) pod) :
    pod.metadata.key = key ∧ ∃ version, history.Has version ∧
      version.pods.get key = some pod := by
  obtain ⟨version, had, stored⟩ := recalls.stored _ _ answered (by simp [Call.kind])
  have found : version.pods.get key = some pod := stored
  exact ⟨version.pods.keyed found, version, had, found⟩

/-- A volume that was read is one of a version. -/
theorem Recalls.pv (recalls : Recalls transcript history) {key : ObjectKey} {pv : PersistentVolume}
    (answered : Answered transcript (.getPV key) pv) :
    pv.metadata.name = key.name ∧ ∃ version, history.Has version ∧
      version.pvs.get key.name = some pv := by
  obtain ⟨version, had, stored⟩ := recalls.stored _ _ answered (by simp [Call.kind])
  have found : version.pvs.get key.name = some pv := stored
  exact ⟨version.pvs.keyed found, version, had, found⟩

end Returned

/-- Every mount label of a pod is on a later one, with its value or with the name of the Listener
that the label is of. -/
def KeepsMounts (history : History) (before now : Pod) : Prop :=
  ∀ uid value, before.metadata.labels[mountLabelKey uid]? = some value →
    now.metadata.labels[mountLabelKey uid]? = some value ∨
      ∃ listener, Known history listener ∧
        mountLabelKey listener.metadata.uid = mountLabelKey uid ∧
          now.metadata.labels[mountLabelKey uid]? = some listener.metadata.name

/-- The mount labels of a pod are on the current one of its key. -/
def Retains (history : History) (pod : Pod) : Prop :=
  ∃ now, history.current.pods.get pod.metadata.key = some now ∧ KeepsMounts history pod now

/-- A patch of a pod adds the mount label of a known Listener to a version of the pod. -/
def Mounting (history : History) (original modified : Pod) : Prop :=
  (∃ version, history.Has version ∧
      version.pods.get original.metadata.key = some original) ∧
    ∃ listener, Known history listener ∧ modified = original.mounting listener

/-- No mount label is lost: what any version of a pod carries and what any patch of it adds is on
the pod. -/
structure MountsKept (history : History) : Prop where
  identified : Identified history
  versions : ∀ version key pod, history.Has version → version.pods.get key = some pod →
    Retains history pod
  patches : ∀ original modified, .patchPod original modified ∈ history.log →
    Retains history modified

section Keep

variable {history : History}

/-- A pod keeps its own labels. -/
theorem KeepsMounts.refl (pod : Pod) : KeepsMounts history pod pod :=
  fun _ _ found => Or.inl found

/-- Labels that stay twice stay. -/
theorem KeepsMounts.trans {first second third : Pod} (left : KeepsMounts history first second)
    (right : KeepsMounts history second third) : KeepsMounts history first third := by
  intro uid value found
  rcases left uid value found with same | ⟨listener, known, key, named⟩
  · exact right uid value same
  · rcases right uid listener.metadata.name named with same | renamed
    · exact Or.inr ⟨listener, known, key, same⟩
    · exact Or.inr renamed

/-- More Listeners are known. -/
theorem KeepsMounts.mono {after : History} {before now : Pod}
    (keeps : KeepsMounts history before now) (extended : history.Extends after) :
    KeepsMounts after before now := by
  intro uid value found
  refine (keeps uid value found).imp_right ?_
  rintro ⟨listener, known, rest⟩
  exact ⟨listener, known.mono extended, rest⟩

/-- What is retained stays so, if the pods keep their labels. -/
theorem Retains.step {after : History} {pod : Pod} (retains : Retains history pod)
    (extended : history.Extends after)
    (pods : Store.Grows (KeepsMounts after) history.current.pods after.current.pods) :
    Retains after pod := by
  obtain ⟨now, stored, keeps⟩ := retains
  obtain ⟨later, held, onward⟩ := pods _ now stored
  exact ⟨later, held, (keeps.mono extended).trans onward⟩

/-- A mounted Listener has its label on the pod. -/
theorem MountsKept.carried (kept : MountsKept history) {original : Pod} {listener : Listener}
    (known : Known history listener)
    (logged : .patchPod original (original.mounting listener) ∈ history.log) :
    ∃ pod, history.current.pods.get original.metadata.key = some pod ∧
      pod.metadata.labels[mountLabelKey listener.metadata.uid]? = some listener.metadata.name := by
  obtain ⟨now, stored, keeps⟩ := kept.patches _ _ logged
  refine ⟨now, stored, ?_⟩
  have set : (original.mounting listener).metadata.labels[
      mountLabelKey listener.metadata.uid]? = some listener.metadata.name := by
    rw [Pod.mounting_labels, if_pos rfl]
  rcases keeps _ _ set with same | ⟨other, otherKnown, key, named⟩
  · exact same
  · rw [named, kept.identified.name_eq otherKnown known key]

/-- A new version that keeps the mount labels keeps the invariant. -/
theorem MountsKept.commit (kept : MountsKept history) {next : Cluster}
    (identified : Identified (history.commit next))
    (pods : Store.Grows (KeepsMounts (history.commit next)) history.current.pods next.pods) :
    MountsKept (history.commit next) where
  identified := identified
  versions := by
    intro version key pod had stored
    rcases (history.has_commit next version).mp had with rfl | earlier
    · exact ⟨pod, by rw [version.pods.keyed stored]; exact stored, .refl pod⟩
    · exact (kept.versions version key pod earlier stored).step (history.extends_commit next) pods
  patches original modified logged :=
    (kept.patches original modified logged).step (history.extends_commit next) pods

/-- A patched pod is stored with its labels merged. -/
theorem serve_patchPod {api : ApiServer} {original modified : Pod} {cluster : Cluster} {pod : Pod}
    (replied : (serve api (.patchPod original modified) cluster).1 = .ok pod) :
    ∃ old, cluster.pods.get modified.metadata.key = some old ∧
      pod.metadata.labels = patchLabels original.metadata.labels modified.metadata.labels
        old.metadata.labels ∧
      pod.metadata.key = old.metadata.key ∧ pod.metadata.uid = old.metadata.uid ∧
      pod.spec = old.spec ∧
      (serve api (.patchPod original modified) cluster).2.pods = cluster.pods.insert pod := by
  cases held : cluster.pods.get modified.metadata.key with
  | none => simp [serve, held] at replied
  | some old =>
    simp only [serve, held, Except.ok.injEq] at replied
    subst replied
    refine ⟨old, rfl, by simp, by simp, ?_, rfl, by simp only [serve, held]⟩
    rw [Cluster.relabel_frame]

/-- A label that a patch does not change is what it was, and one that it sets is set. -/
theorem patchLabels_get (original modified stored : StringMap String) (key value : String)
    (sets : modified[key]? = some value) :
    (patchLabels original modified stored)[key]? =
      if original[key]? = some value then stored[key]? else some value := by
  split
  · rename_i same
    exact merge_diff_get_of_eq _ (same.trans sets.symm) stored
  · rename_i different
    rw [patchLabels, merge_get, labelPatch, diff_get, sets]
    cases before : original[key]? with
    | none => rfl
    | some first =>
      have apart : first ≠ value := fun same => different (by rw [before, same])
      simp [ValuePatch.atomic, apart]

/-- Patching a pod for a Listener keeps its mount labels and adds that of the Listener. -/
theorem keepsMounts_patch {original old pod : Pod} {listener : Listener}
    (known : Known history listener)
    (labels : pod.metadata.labels = patchLabels original.metadata.labels
      (original.mounting listener).metadata.labels old.metadata.labels) :
    KeepsMounts history old pod := by
  intro uid value found
  by_cases own : mountLabelKey listener.metadata.uid = mountLabelKey uid
  · have sets : (original.mounting listener).metadata.labels[mountLabelKey uid]? =
        some listener.metadata.name := by
      rw [Pod.mounting_labels, if_pos own]
    rw [labels, patchLabels_get _ _ _ _ _ sets]
    split
    · exact Or.inl found
    · exact Or.inr ⟨listener, known, own, rfl⟩
  · have same : original.metadata.labels[mountLabelKey uid]? =
        (original.mounting listener).metadata.labels[mountLabelKey uid]? := by
      rw [Pod.mounting_labels, if_neg own]
    rw [labels, patchLabels, labelPatch, merge_diff_get_of_eq _ same]
    exact Or.inl found

/-- A patch that is made from a version of a pod leaves all it adds. -/
theorem keepsMounts_modified {original old pod : Pod} {listener : Listener}
    (read : KeepsMounts history original old)
    (labels : pod.metadata.labels = patchLabels original.metadata.labels
      (original.mounting listener).metadata.labels old.metadata.labels) :
    KeepsMounts history (original.mounting listener) pod := by
  intro uid value found
  rw [labels, patchLabels_get _ _ _ _ _ found]
  split
  · rename_i unchanged
    exact read uid value unchanged
  · exact Or.inl rfl

/-- A served call whose patch of a pod is a mount keeps the mount labels of all pods. -/
theorem serve_keepsMounts {after : History} (extended : history.Extends after) {request : Call}
    {api : ApiServer} {value : Value request}
    (replied : (serve api request history.current).1 = .ok value)
    (mounts : ∀ original modified, request = .patchPod original modified →
      Mounting history original modified) :
    Store.Grows (KeepsMounts after) history.current.pods
      (serve api request history.current).2.pods := by
  by_cases part : request.part = some .pods
  · cases request with
    | patchPod original modified =>
      obtain ⟨-, listener, known, rfl⟩ := mounts original modified rfl
      obtain ⟨old, held, labels, key, -, -, stored⟩ := serve_patchPod replied
      rw [stored]
      refine Store.grows_insert (fun pod => .refl pod) _ ?_
      intro before found
      rw [key, history.current.pods.keyed held, held] at found
      obtain rfl := Option.some.inj found
      exact keepsMounts_patch (known.mono extended) labels
    | _ => cases part
  · rw [(serve_sameBut api request history.current).pods part]
    exact Store.Grows.refl (fun pod => .refl pod) _

/-- A served patch of a pod that is a mount leaves what it adds. -/
theorem serve_retains (kept : MountsKept history) {original modified : Pod} {api : ApiServer}
    {pod : Pod} (replied : (serve api (.patchPod original modified) history.current).1 = .ok pod)
    (mounts : Mounting history original modified) :
    Retains (history.record (.patchPod original modified)
      (serve api (.patchPod original modified) history.current).2) modified := by
  obtain ⟨⟨version, had, read⟩, listener, known, rfl⟩ := mounts
  obtain ⟨old, held, labels, key, -, -, stored⟩ := serve_patchPod replied
  obtain ⟨now, current, keeps⟩ := kept.versions version _ original had read
  have same : old = now := Option.some.inj (held.symm.trans current)
  refine ⟨pod, ?_, (keepsMounts_modified (same ▸ keeps) labels).mono
    (history.extends_record _ _)⟩
  have podKey : (original.mounting listener).metadata.key = pod.metadata.key :=
    (history.current.pods.keyed held).symm.trans key.symm
  simp only [History.record, History.commit, stored, podKey]
  exact Store.get_insert_self _ _

/-- Calls whose patches of pods are mounts keep the mount labels. -/
theorem MountsKept.call (kept : MountsKept history) {request : Call} {reply : Reply request}
    {after : History} (answered : cached request history reply after)
    (mounts : ∀ original modified, request = .patchPod original modified →
      Mounting history original modified) : MountsKept after := by
  rcases cached_cases answered with idle | ⟨-, api, value, fresh, replied, rfl, -⟩
  · rw [idle.unchanged]
    exact kept
  have extended := history.extends_record request (serve api request history.current).2
  have pods := serve_keepsMounts extended replied mounts
  refine ⟨kept.identified.record fresh request, ?_, ?_⟩
  · intro version key pod had stored
    rcases (history.has_record request _ version).mp had with rfl | earlier
    · exact ⟨pod, (Cluster.pods _).keyed stored ▸ stored, .refl pod⟩
    · exact (kept.versions version key pod earlier stored).step extended pods
  · intro original modified logged
    rcases List.mem_cons.mp logged with rfl | earlier
    · exact serve_retains kept replied (mounts original modified rfl)
    · exact (kept.patches original modified earlier).step extended pods

end Keep

end ListenerOperator
