import ListenerOperator.Verif.Idempotence
import ListenerOperator.Verif.LostUpdates

/-!
# How long entries live

Publications, deletions of Listeners and deletions of pods, each followed by a run of the garbage
collector. A PodListeners object belongs to the Listener through which the first entry was published,
and to that one only, so that the other entries go with it and the pod has no part in it. Deletions
that do no harm are described exactly.
-/

namespace ListenerOperator

open Interaction MergePatch Keyed FilePath

/-- The reference to a Listener that controls an object. -/
def Listener.ownerReference (listener : Listener) : OwnerReference where
  kind := "Listener"
  name := listener.metadata.name
  uid := listener.metadata.uid
  controller := true

/-- Whether the object that a reference points to is there. Of the kinds that own something, Listeners
and pods are deleted here. -/
def Cluster.hasOwner (cluster : Cluster) (ns : String) (reference : OwnerReference) : Bool :=
  if reference.kind = "Listener" then
    (cluster.listeners.get ⟨ns, reference.name⟩).any (·.metadata.uid = reference.uid)
  else if reference.kind = "Pod" then
    (cluster.pods.get ⟨ns, reference.name⟩).any (·.metadata.uid = reference.uid)
  else true

/-- An object with owners, of which none is there. -/
def PodListeners.orphaned (object : PodListeners) (cluster : Cluster) : Bool :=
  object.metadata.ownerReferences ≠ [] &&
    object.metadata.ownerReferences.all fun reference =>
      !cluster.hasOwner object.metadata.ns reference

/-- The cluster after a run of the garbage collector. -/
def Cluster.collected (cluster : Cluster) : Cluster :=
  { cluster with podListeners := cluster.podListeners.filter (!·.orphaned cluster) }

/-- The key of the PodListeners object of a pod. -/
def Pod.objectKey (pod : Pod) : ObjectKey := ⟨pod.metadata.ns, "pod-" ++ pod.metadata.uid⟩

/-- An entry that was published: for a volume of a pod, through a Listener. -/
structure PublishedEntry where
  pod : ObjectKey
  volumeName : String
  listener : ObjectKey

/-- A cluster, with the published entries of which neither the pod nor the Listener was deleted
since, and the deleted pods. -/
structure Lifetime where
  cluster : Cluster
  published : List PublishedEntry := []
  deleted : List Pod := []

namespace Lifetime

/-- What happens. -/
inductive Event where
  | publish
  | deleteListener (key : ObjectKey)
  | deletePod (key : ObjectKey)

/-- After a Listener is deleted. -/
def deleteListener (state : Lifetime) (key : ObjectKey) : Lifetime where
  cluster := Cluster.collected { state.cluster with listeners := state.cluster.listeners.erase key }
  published := state.published.filter (·.listener ≠ key)
  deleted := state.deleted

/-- After a pod is deleted. -/
def deletePod (state : Lifetime) (key : ObjectKey) : Lifetime where
  cluster := Cluster.collected { state.cluster with pods := state.cluster.pods.erase key }
  published := state.published.filter (·.pod ≠ key)
  deleted := (state.cluster.pods.get key).toList ++ state.deleted

/-- A step. Calls of a publication may fail, and it may be cut off; it is published if it
succeeds. -/
inductive Step (state : Lifetime) : Event → Lifetime → Prop
  | published {n : NodeServer} {request : NodePublishVolumeRequest} {publication : Publication}
      {after : Cluster} (documented : n.runtime.Documented)
      (executed : (nodePublishVolume n request).Exec flaky state.cluster (.ok publication) after) :
      Step state .publish { state with
        cluster := after.collected
        published := ⟨request.podKey, publication.volumeName, publication.listener.metadata.key⟩ ::
          state.published }
  | failed {n : NodeServer} {request : NodePublishVolumeRequest} {after : Cluster}
      (documented : n.runtime.Documented)
      (interrupted : (nodePublishVolume n request).Interrupted flaky state.cluster after) :
      Step state .publish { state with cluster := after.collected }
  | listenerDeleted (key : ObjectKey) : Step state (.deleteListener key) (state.deleteListener key)
  | podDeleted (key : ObjectKey) : Step state (.deletePod key) (state.deletePod key)

/-- A run, with the state after each step. -/
inductive Run : Lifetime → List (Event × Lifetime) → Prop
  | nil (state : Lifetime) : Run state []
  | cons {state after : Lifetime} {event : Event} {rest : List (Event × Lifetime)}
      (step : Step state event after) (run : Run after rest) : Run state ((event, after) :: rest)

/-- The object of a pod has the entries that were published for it, and a deleted pod has no object. -/
structure Lives (state : Lifetime) : Prop where
  entries : ∀ entry ∈ state.published, ∀ pod, state.cluster.pods.get entry.pod = some pod →
    ∃ object, state.cluster.podListeners.get pod.objectKey = some object ∧
      object.listeners[entry.volumeName]?.isSome
  objects : ∀ pod ∈ state.deleted, state.cluster.podListeners.get pod.objectKey = none

/-- An object that a Listener controls. -/
def ControlledBy (object : PodListeners) (listener : Listener) : Prop :=
  object.metadata.ns = listener.metadata.ns ∧
    listener.ownerReference ∈ object.metadata.ownerReferences

/-- A deletion that does no harm. The object of no pod that is controlled by a deleted Listener has
entries of other ones, and a deleted pod has no object. -/
def Allows (state : Lifetime) : Event → Prop
  | .publish => True
  | .deleteListener key => ∀ listener, state.cluster.listeners.get key = some listener →
      ∀ entry ∈ state.published, entry.listener ≠ key →
        ∀ pod object, state.cluster.pods.get entry.pod = some pod →
          state.cluster.podListeners.get pod.objectKey = some object →
            ¬ ControlledBy object listener
  | .deletePod key => ∀ pod, state.cluster.pods.get key = some pod →
      state.cluster.podListeners.get pod.objectKey = none

/-- Every deletion of a run does no harm. -/
def Orderly : Lifetime → List (Event × Lifetime) → Prop
  | _, [] => True
  | state, (event, after) :: rest => state.Allows event ∧ Orderly after rest

/-- An object that belongs to a Listener and to nothing else. -/
structure BelongsTo (object : PodListeners) (listener : Listener) : Prop where
  ns : object.metadata.ns = listener.metadata.ns
  owned : object.metadata.ownerReferences ≠ []
  only : ∀ reference ∈ object.metadata.ownerReferences, reference = listener.ownerReference

/-- The Listener that an object belongs to controls it. -/
theorem BelongsTo.controlledBy {object : PodListeners} {listener : Listener}
    (belongs : BelongsTo object listener) : ControlledBy object listener := by
  obtain ⟨reference, listed⟩ := List.exists_mem_of_ne_nil _ belongs.owned
  refine ⟨belongs.ns, ?_⟩
  rw [← belongs.only reference listed]
  exact listed

/-- An object with the same owners belongs to the same Listener. -/
theorem BelongsTo.congr {object later : PodListeners} {listener : Listener}
    (belongs : BelongsTo object listener) (ns : later.metadata.ns = object.metadata.ns)
    (references : later.metadata.ownerReferences = object.metadata.ownerReferences) :
    BelongsTo later listener := by
  refine ⟨ns.trans belongs.ns, ?_, ?_⟩
  · rw [references]
    exact belongs.owned
  · rw [references]
    exact belongs.only

/-- An object that belongs to a Listener is an orphan if and only if the Listener is not there. -/
theorem BelongsTo.orphaned {object : PodListeners} {listener : Listener}
    (belongs : BelongsTo object listener) (cluster : Cluster) :
    object.orphaned cluster =
      !(cluster.listeners.get listener.metadata.key).any (·.metadata.uid = listener.metadata.uid) := by
  have owner : ∀ reference ∈ object.metadata.ownerReferences,
      cluster.hasOwner object.metadata.ns reference =
        (cluster.listeners.get listener.metadata.key).any
          (·.metadata.uid = listener.metadata.uid) := by
    intro reference listed
    rw [belongs.only reference listed, belongs.ns]
    rfl
  rw [PodListeners.orphaned, decide_eq_true belongs.owned, Bool.true_and]
  obtain ⟨reference, listed⟩ := List.exists_mem_of_ne_nil _ belongs.owned
  cases there : (cluster.listeners.get listener.metadata.key).any
      (·.metadata.uid = listener.metadata.uid) with
  | true =>
    rw [Bool.not_true, List.all_eq_false]
    refine ⟨reference, listed, ?_⟩
    simp [owner reference listed, there]
  | false =>
    rw [Bool.not_false, List.all_eq_true]
    intro other among
    simp [owner other among, there]

/-- The Listener of a request is in the namespace of its pod. -/
theorem listenerKey_ns {cluster : Cluster} {n : NodeServer} {request : NodePublishVolumeRequest}
    {pv : PersistentVolume} {pod : Pod} {key : ObjectKey} (binds : cluster.Binds request pv pod)
    (found : cluster.ListenerKey n request pv pod key) : key.ns = request.podKey.ns := by
  rw [Cluster.ListenerKey] at found
  cases named : request.context.listenerName with
  | some listenerName =>
    simp only [named] at found
    rw [found]
  | none =>
    simp only [named] at found
    obtain ⟨sent, asked, rfl⟩ := found
    obtain ⟨-, -, podNamespace, spaced, listenerClass, -, claimRef, -, pvc, -, ports, -, -, -, rfl⟩ :=
      Cluster.askedListener_eq_ok.mp asked
    exact Option.some.inj (spaced.symm.trans binds.podNamespace)

/-- An object that is built for a pod belongs to the Listener. -/
theorem belongsTo_build {n : NodeServer} (documented : n.runtime.Documented) {cluster : Cluster}
    {request : NodePublishVolumeRequest} {pv : PersistentVolume} {pod : Pod} {listener : Listener}
    (resolves : cluster.Resolves n request pv pod listener) (volumeName : String)
    (scope : PodListenerScope) (data : List IngressAddress) :
    BelongsTo (buildPodListenersObject n pod listener volumeName scope data) listener := by
  have spaced : listener.metadata.ns = pod.metadata.ns := by
    have here := listenerKey_ns resolves.toBinds resolves.key
    have there : pod.metadata.key = request.podKey := cluster.pods.keyed resolves.held
    exact here.trans (congrArg ObjectKey.ns there).symm
  -- The object has no other owner yet, so the reference can be set.
  have settable : ∃ references, n.runtime.setControllerReference "Listener" listener.metadata
      { name := "pod-" ++ pod.metadata.uid, ns := pod.metadata.ns } = .ok references :=
    n.runtime.succeeds (Or.inr spaced) (by simp)
  obtain ⟨references, set⟩ := settable
  have listed := documented.controls set
  have only := documented.adds set
  rw [buildPodListenersObject]
  simp only [set]
  refine ⟨spaced.symm, List.ne_nil_of_mem listed, fun reference among => ?_⟩
  rcases only reference among with old | same
  · cases old
  · exact same

/-- Every object belongs to a stored Listener, and pods are told apart by the keys of their objects,
the deleted ones too. -/
structure Sound (state : Lifetime) : Prop where
  owners : ∀ key object, state.cluster.podListeners.get key = some object →
    ∃ listener, state.cluster.listeners.get listener.metadata.key = some listener ∧
      BelongsTo object listener
  distinct : ∀ key other pod copy, state.cluster.pods.get key = some pod →
    state.cluster.pods.get other = some copy → pod.objectKey = copy.objectKey → key = other
  apart : ∀ pod ∈ state.deleted, ∀ key other, state.cluster.pods.get key = some other →
    other.objectKey ≠ pod.objectKey

/-- While the owners are there, the garbage collector removes nothing. -/
theorem collected_get {cluster : Cluster}
    (owners : ∀ key object, cluster.podListeners.get key = some object →
      ∃ listener, cluster.listeners.get listener.metadata.key = some listener ∧
        BelongsTo object listener) (key : ObjectKey) :
    cluster.collected.podListeners.get key = cluster.podListeners.get key := by
  show (cluster.podListeners.get key).filter _ = _
  cases stored : cluster.podListeners.get key with
  | none => rfl
  | some object =>
    obtain ⟨listener, there, belongs⟩ := owners key object stored
    simp [belongs.orphaned, there]

/-- What the changes of an attempt have in common. Listeners stay, pods keep the keys of their objects,
objects keep their owners and entries, and a new object is that of a stored pod and belongs to a stored
Listener. -/
structure Extends (before after : Cluster) : Prop where
  listeners : ∀ key listener, before.listeners.get key = some listener →
    after.listeners.get key = some listener
  pods : ∀ key, (after.pods.get key).map Pod.objectKey = (before.pods.get key).map Pod.objectKey
  kept : ∀ key object, before.podListeners.get key = some object →
    ∃ later, after.podListeners.get key = some later ∧
      later.metadata.ns = object.metadata.ns ∧
      later.metadata.ownerReferences = object.metadata.ownerReferences ∧
      ∀ volumeName : String, object.listeners[volumeName]?.isSome →
        later.listeners[volumeName]?.isSome
  fresh : ∀ key object, after.podListeners.get key = some object →
    before.podListeners.get key = none →
      (∃ other pod, before.pods.get other = some pod ∧ key = pod.objectKey) ∧
        ∃ listener, after.listeners.get listener.metadata.key = some listener ∧
          BelongsTo object listener

/-- A pod of an extension was there before. -/
theorem Extends.pod {before after : Cluster} (more : Extends before after) {key : ObjectKey}
    {pod : Pod} (held : after.pods.get key = some pod) :
    ∃ old, before.pods.get key = some old ∧ pod.objectKey = old.objectKey := by
  have same := more.pods key
  rw [held, Option.map_some] at same
  obtain ⟨old, there, sameKey⟩ := Option.map_eq_some_iff.mp same.symm
  exact ⟨old, there, sameKey.symm⟩

/-- A change of something else than objects extends the cluster. -/
theorem extends_of_objects {before after : Cluster}
    (same : after.podListeners = before.podListeners)
    (listeners : ∀ key listener, before.listeners.get key = some listener →
      after.listeners.get key = some listener)
    (pods : ∀ key, (after.pods.get key).map Pod.objectKey =
      (before.pods.get key).map Pod.objectKey) : Extends before after where
  listeners := listeners
  pods := pods
  kept key object stored := ⟨object, same ▸ stored, rfl, rfl, fun _ present => present⟩
  fresh key object stored absent := by
    rw [same, absent] at stored
    cases stored

/-- Every change of an attempt extends the cluster. -/
theorem change_extends {n : NodeServer} (documented : n.runtime.Documented)
    {request : NodePublishVolumeRequest} {before after : Cluster}
    (change : before.Change n request after) : Extends before after := by
  cases change with
  | created uid version binds unnamed asked absent =>
    refine extends_of_objects rfl (fun key listener stored => ?_) (fun _ => rfl)
    refine (Store.get_insert_of_ne _ fun same => ?_).trans stored
    rw [same] at stored
    cases stored.symm.trans absent
  | tied version resolves =>
    exact extends_of_objects rfl (fun _ _ stored => stored) (fun _ => rfl)
  | @mounted pv pod listener version resolves =>
    refine extends_of_objects rfl (fun _ _ stored => stored) (fun key => ?_)
    have here : pod.metadata.key = request.podKey := before.pods.keyed resolves.held
    show ((before.pods.insert ((pod.mounting listener).versioned version)).get key).map _ = _
    rw [Store.get_insert]
    split
    · rename_i same
      rw [same.trans here, resolves.held]
      rfl
    · rfl
  | @opened pv pod listener volumeName scope data uid version resolves named absent =>
    have belongs := belongsTo_build documented resolves volumeName scope data
    obtain ⟨slot, -⟩ := buildPodListenersObject_slot n pod listener volumeName scope data
    refine ⟨fun _ _ stored => stored, fun _ => rfl, fun key object stored => ?_,
      fun key object stored before => ?_⟩
    · refine ⟨object, (Store.get_insert_of_ne _ fun same => ?_).trans stored, rfl, rfl,
        fun _ present => present⟩
      rw [same.trans slot] at stored
      cases stored.symm.trans absent
    · rw [Store.get_insert] at stored
      split at stored
      · rename_i same
        obtain rfl := Option.some.inj stored
        exact ⟨⟨_, pod, resolves.held, same.trans slot⟩, listener, resolves.stored,
          belongs.ns, belongs.owned, belongs.only⟩
      · cases stored.symm.trans before
  | @entered pv pod listener volumeName existing scope data version resolves named present =>
    obtain ⟨-, single⟩ := buildPodListenersObject_slot n pod listener volumeName scope data
    have here : existing.metadata.key = (pod.slot volumeName).podListeners :=
      before.podListeners.keyed present
    rw [PodListeners.setEntry_single single]
    refine ⟨fun _ _ stored => stored, fun _ => rfl, fun key object stored => ?_,
      fun key object stored absent => ?_⟩
    · by_cases same : key = existing.metadata.key
      · subst same
        obtain rfl := Option.some.inj ((here ▸ stored).symm.trans present)
        refine ⟨_, Store.get_insert_self _ _, rfl, rfl, fun other among => ?_⟩
        simp only [PodListeners.versioned, StringMap.get_insert]
        split
        · rfl
        · exact among
      · refine ⟨object, ?_, rfl, rfl, fun _ present => present⟩
        rw [Store.get_insert, if_neg]
        · exact stored
        · exact same
    · rw [Store.get_insert] at stored
      split at stored
      · rename_i same
        rw [same.trans here] at absent
        cases absent.symm.trans present
      · cases stored.symm.trans absent

/-- A cluster extends itself. -/
theorem Extends.refl (cluster : Cluster) : Extends cluster cluster :=
  extends_of_objects rfl (fun _ _ stored => stored) (fun _ => rfl)

/-- An extension in two steps is an extension. -/
theorem Extends.trans {first second third : Cluster} (left : Extends first second)
    (right : Extends second third) : Extends first third := by
  refine ⟨fun key listener stored => ?_, fun key => (right.pods key).trans (left.pods key),
    fun key object stored => ?_, fun key object stored absent => ?_⟩
  · exact right.listeners key listener (left.listeners key listener stored)
  · obtain ⟨middle, storedMiddle, ns, references, entries⟩ := left.kept key object stored
    obtain ⟨last, storedLast, lastNs, lastReferences, lastEntries⟩ :=
      right.kept key middle storedMiddle
    exact ⟨last, storedLast, lastNs.trans ns, lastReferences.trans references,
      fun volumeName present => lastEntries volumeName (entries volumeName present)⟩
  · cases between : second.podListeners.get key with
    | none =>
      obtain ⟨⟨other, pod, held, same⟩, belongs⟩ := right.fresh key object stored between
      obtain ⟨old, heldOld, sameKey⟩ := left.pod held
      exact ⟨⟨other, old, heldOld, same.trans sameKey⟩, belongs⟩
    | some middle =>
      obtain ⟨pod, listener, there, belongs⟩ := left.fresh key middle between absent
      obtain ⟨last, storedLast, ns, references, -⟩ := right.kept key middle between
      obtain rfl := Option.some.inj (storedLast.symm.trans stored)
      exact ⟨pod, listener, right.listeners _ _ there, belongs.congr ns references⟩

section Kept

variable {before after : Cluster} {published : List PublishedEntry} {deleted : List Pod}

/-- An extension keeps the owners and the keys of the objects. -/
theorem Sound.extend (sound : Sound ⟨before, published, deleted⟩) (more : Extends before after) :
    Sound ⟨after, published, deleted⟩ := by
  refine ⟨fun key object stored => ?_, fun key other pod copy held alsoHeld same => ?_,
    fun pod gone key other held => ?_⟩
  · cases old : before.podListeners.get key with
    | none => exact (more.fresh key object stored old).2
    | some first =>
      obtain ⟨listener, there, belongs⟩ := sound.owners key first old
      obtain ⟨later, now, ns, references, -⟩ := more.kept key first old
      obtain rfl := Option.some.inj (now.symm.trans stored)
      exact ⟨listener, more.listeners _ _ there, belongs.congr ns references⟩
  · obtain ⟨first, firstHeld, firstKey⟩ := more.pod held
    obtain ⟨second, secondHeld, secondKey⟩ := more.pod alsoHeld
    exact sound.distinct key other first second firstHeld secondHeld
      (firstKey.symm.trans (same.trans secondKey))
  · obtain ⟨old, oldHeld, oldKey⟩ := more.pod held
    rw [oldKey]
    exact sound.apart pod gone key old oldHeld

/-- An extension keeps the entries, and creates no objects of deleted pods. -/
theorem Lives.extend (lives : Lives ⟨before, published, deleted⟩)
    (sound : Sound ⟨before, published, deleted⟩) (more : Extends before after) :
    Lives ⟨after, published, deleted⟩ := by
  refine ⟨fun entry listed pod held => ?_, fun pod gone => ?_⟩
  · obtain ⟨old, oldHeld, sameKey⟩ := more.pod held
    obtain ⟨object, stored, present⟩ := lives.entries entry listed old oldHeld
    obtain ⟨later, now, -, -, entries⟩ := more.kept _ object stored
    rw [sameKey]
    exact ⟨later, now, entries _ present⟩
  · have absent := lives.objects pod gone
    show after.podListeners.get pod.objectKey = none
    cases now : after.podListeners.get pod.objectKey with
    | none => rfl
    | some object =>
      obtain ⟨⟨key, other, held, same⟩, -⟩ := more.fresh _ object now absent
      exact absurd same.symm (sound.apart pod gone key other held)

/-- An attempt, wherever it is cut off, extends the cluster. -/
theorem attempt_extends {n : NodeServer} (documented : n.runtime.Documented)
    {request : NodePublishVolumeRequest}
    (attempted : (nodePublishVolume n request).Interrupted flaky before after) :
    Extends before after := by
  have changes := nodePublishVolume_changes documented attempted
  clear attempted
  induction changes with
  | refl => exact .refl before
  | tail _ change more => exact more.trans (change_extends documented change)

/-- So does an attempt with a run of the garbage collector after it. -/
theorem attempt_collected {n : NodeServer} (documented : n.runtime.Documented)
    {request : NodePublishVolumeRequest}
    (attempted : (nodePublishVolume n request).Interrupted flaky before after)
    (sound : Sound ⟨before, published, deleted⟩) : Extends before after.collected := by
  have more := attempt_extends documented attempted
  have same := collected_get (sound.extend more).owners
  refine more.trans ⟨fun _ _ stored => stored, fun _ => rfl, fun key object stored => ?_,
    fun key object stored absent => ?_⟩
  · exact ⟨object, (same key).trans stored, rfl, rfl, fun _ present => present⟩
  · cases ((same key).symm.trans stored).symm.trans absent

/-- The entry of a publication that succeeds is in the object of the pod. -/
theorem published_entry {n : NodeServer} (documented : n.runtime.Documented)
    {request : NodePublishVolumeRequest} {publication : Publication}
    (executed : (nodePublishVolume n request).Exec flaky before (.ok publication) after) {pod : Pod}
    (held : after.pods.get request.podKey = some pod) :
    ∃ object, after.podListeners.get pod.objectKey = some object ∧
      object.listeners[publication.volumeName]?.isSome := by
  obtain ⟨pv, copy, data, finished⟩ := (nodePublishVolume_guarded documented).exec executed
  obtain rfl := Option.some.inj (finished.held.symm.trans held)
  obtain ⟨object, stored, set⟩ := finished.recorded
  obtain ⟨-, single⟩ := buildPodListenersObject_slot n copy publication.listener
    publication.volumeName (determinePodListenerScope publication.listener) data
  rw [finished.slot] at stored
  refine ⟨object, stored, ?_⟩
  rw [← set, PodListeners.setEntry_single single]
  simp

end Kept

section Deletions

variable {state : Lifetime} (sound : state.Sound) (key : ObjectKey)

include sound

/-- The deletion of a pod removes no object. -/
theorem deletePod_get (other : ObjectKey) :
    (state.deletePod key).cluster.podListeners.get other =
      state.cluster.podListeners.get other := by
  let erased : Cluster := { state.cluster with pods := state.cluster.pods.erase key }
  have owners : ∀ key object, erased.podListeners.get key = some object →
      ∃ listener, erased.listeners.get listener.metadata.key = some listener ∧
        BelongsTo object listener := sound.owners
  exact collected_get owners other

/-- The deletion of a pod keeps the owners, and the pod is apart from those that remain. -/
theorem Sound.deletePod : (state.deletePod key).Sound := by
  have remaining : ∀ {other : ObjectKey} {pod : Pod},
      (state.deletePod key).cluster.pods.get other = some pod →
        other ≠ key ∧ state.cluster.pods.get other = some pod := by
    intro other pod held
    have erased : (state.cluster.pods.erase key).get other = some pod := held
    rw [Store.get_erase] at erased
    split at erased
    · cases erased
    · exact ⟨‹_›, erased⟩
  refine ⟨fun other object stored => ?_, fun first second pod copy held alsoHeld => ?_,
    fun pod gone other copy held => ?_⟩
  · rw [deletePod_get sound] at stored
    exact sound.owners other object stored
  · exact sound.distinct first second pod copy (remaining held).2 (remaining alsoHeld).2
  · obtain ⟨different, before⟩ := remaining held
    rcases List.mem_append.mp gone with now | earlier
    · exact fun same => different
        (sound.distinct other key copy pod before (Option.mem_toList.mp now) same)
    · exact sound.apart pod earlier other copy before

/-- The deletion of a pod does no harm if and only if the pod has no object. -/
theorem deletePod_lives (lives : state.Lives) :
    (state.deletePod key).Lives ↔ state.Allows (.deletePod key) := by
  constructor
  · intro after pod held
    rw [← deletePod_get sound key]
    exact after.objects pod (List.mem_append_left _ (Option.mem_toList.mpr held))
  · intro allowed
    refine ⟨fun entry listed pod held => ?_, fun pod gone => ?_⟩
    · obtain ⟨among, different⟩ := List.mem_filter.mp listed
      have before : state.cluster.pods.get entry.pod = some pod := by
        have erased : (state.cluster.pods.erase key).get entry.pod = some pod := held
        rw [Store.get_erase, if_neg (of_decide_eq_true different)] at erased
        exact erased
      rw [deletePod_get sound]
      exact lives.entries entry among pod before
    · rw [deletePod_get sound]
      rcases List.mem_append.mp gone with now | earlier
      · exact allowed pod (Option.mem_toList.mp now)
      · exact lives.objects pod earlier

omit sound in
/-- The deletion of a Listener removes the objects that belong to it. -/
theorem deleteListener_get {other : ObjectKey} {object : PodListeners} {listener : Listener}
    (stored : state.cluster.podListeners.get other = some object)
    (there : state.cluster.listeners.get listener.metadata.key = some listener)
    (belongs : BelongsTo object listener) :
    (state.deleteListener key).cluster.podListeners.get other =
      if listener.metadata.key = key then none else some object := by
  show (state.cluster.podListeners.get other).filter _ = _
  rw [stored, Option.filter_some, belongs.orphaned, Store.get_erase]
  split
  · rfl
  · simp [there]

omit sound in
/-- An object that is there after the deletion of a Listener was there before. -/
theorem deleteListener_stored {other : ObjectKey} {object : PodListeners}
    (stored : (state.deleteListener key).cluster.podListeners.get other = some object) :
    state.cluster.podListeners.get other = some object :=
  (Option.filter_eq_some_iff.mp stored).1

/-- The deletion of a Listener leaves the owners of the objects that remain. -/
theorem Sound.deleteListener : (state.deleteListener key).Sound := by
  refine ⟨fun other object stored => ?_, sound.distinct, sound.apart⟩
  have before := deleteListener_stored key stored
  obtain ⟨listener, there, belongs⟩ := sound.owners other object before
  rw [deleteListener_get key before there belongs] at stored
  split at stored
  · cases stored
  · rename_i different
    refine ⟨listener, ?_, belongs⟩
    show (state.cluster.listeners.erase key).get listener.metadata.key = some listener
    rw [Store.get_erase, if_neg different]
    exact there

omit sound in
/-- The deletion of a Listener loses the entries of other ones in the objects that belong to it. -/
theorem deleteListener_loses {entry : PublishedEntry} (listed : entry ∈ state.published)
    (different : entry.listener ≠ key) {pod : Pod} {object : PodListeners} {owner : Listener}
    (held : state.cluster.pods.get entry.pod = some pod)
    (stored : state.cluster.podListeners.get pod.objectKey = some object)
    (owns : state.cluster.listeners.get owner.metadata.key = some owner)
    (belongs : BelongsTo object owner) (here : owner.metadata.key = key) :
    entry ∈ (state.deleteListener key).published ∧
      (state.deleteListener key).cluster.listeners.get entry.listener =
        state.cluster.listeners.get entry.listener ∧
      (state.deleteListener key).cluster.pods.get entry.pod = some pod ∧
      (state.deleteListener key).cluster.podListeners.get pod.objectKey = none := by
  refine ⟨List.mem_filter.mpr ⟨listed, decide_eq_true different⟩, ?_, held, ?_⟩
  · show (state.cluster.listeners.erase key).get entry.listener = _
    rw [Store.get_erase, if_neg different]
  · rw [deleteListener_get key stored owns belongs, if_pos here]

/-- The deletion of a Listener does no harm if and only if it controls no object with an entry of
another Listener. -/
theorem deleteListener_lives (lives : state.Lives) :
    (state.deleteListener key).Lives ↔ state.Allows (.deleteListener key) := by
  constructor
  · intro after listener there entry listed different pod object held stored controlled
    obtain ⟨owner, owns, belongs⟩ := sound.owners _ object stored
    -- The object has one owner, which is the deleted Listener.
    have same := belongs.only _ controlled.2
    have ns : listener.metadata.ns = owner.metadata.ns := controlled.1.symm.trans belongs.ns
    have name : listener.metadata.name = owner.metadata.name := congrArg OwnerReference.name same
    have here : owner.metadata.key = key := by
      rw [← state.cluster.listeners.keyed there]
      show (⟨owner.metadata.ns, owner.metadata.name⟩ : ObjectKey) = ⟨_, _⟩
      rw [ns, name]
    obtain ⟨still, -, heldNow, gone⟩ :=
      deleteListener_loses key listed different held stored owns belongs here
    obtain ⟨later, kept, -⟩ := after.entries entry still pod heldNow
    cases kept.symm.trans gone
  · intro allowed
    refine ⟨fun entry listed pod held => ?_, fun pod gone => ?_⟩
    · obtain ⟨among, different⟩ := List.mem_filter.mp listed
      obtain ⟨object, stored, present⟩ := lives.entries entry among pod held
      obtain ⟨owner, owns, belongs⟩ := sound.owners _ object stored
      refine ⟨object, ?_, present⟩
      rw [deleteListener_get key stored owns belongs, if_neg]
      intro here
      exact allowed owner (here ▸ owns) entry among (of_decide_eq_true different) pod object held
        stored belongs.controlledBy
    · show (state.cluster.podListeners.get pod.objectKey).filter _ = none
      rw [lives.objects pod gone]
      rfl

end Deletions

/-- A step keeps the owners and the keys of the objects. -/
theorem Step.sound {state after : Lifetime} {event : Event} (step : Step state event after)
    (sound : state.Sound) : after.Sound := by
  cases step with
  | published documented executed =>
    obtain ⟨owners, distinct, apart⟩ :=
      sound.extend (attempt_collected documented executed.interrupted sound)
    exact ⟨owners, distinct, apart⟩
  | failed documented interrupted =>
    exact sound.extend (attempt_collected documented interrupted sound)
  | listenerDeleted key => exact sound.deleteListener key
  | podDeleted key => exact sound.deletePod key

/-- A step does no harm if and only if it is allowed. -/
theorem Step.lives_iff {state after : Lifetime} {event : Event} (step : Step state event after)
    (sound : state.Sound) (lives : state.Lives) : after.Lives ↔ state.Allows event := by
  cases step with
  | @published n request publication after documented executed =>
    have kept := lives.extend sound (attempt_collected documented executed.interrupted sound)
    have owners := (sound.extend (attempt_extends documented executed.interrupted)).owners
    refine ⟨fun _ => trivial, fun _ => ⟨fun entry listed pod held => ?_, kept.objects⟩⟩
    rcases List.mem_cons.mp listed with rfl | earlier
    · show ∃ object, after.collected.podListeners.get pod.objectKey = some object ∧ _
      rw [collected_get owners]
      exact published_entry documented executed held
    · exact kept.entries entry earlier pod held
  | failed documented interrupted =>
    exact ⟨fun _ => trivial, fun _ =>
      lives.extend sound (attempt_collected documented interrupted sound)⟩
  | listenerDeleted key => exact deleteListener_lives sound key lives
  | podDeleted key => exact deletePod_lives sound key lives

/-- From any sound state, every state of a run has the entries and no other objects if and only if
every deletion does no harm. -/
theorem Run.lives_iff {state : Lifetime} {moments : List (Event × Lifetime)}
    (run : Run state moments) (sound : state.Sound) (lives : state.Lives) :
    (∀ moment ∈ moments, moment.2.Lives) ↔ Orderly state moments := by
  induction run with
  | nil state => simp [Orderly]
  | @cons state after event rest step run ih =>
    have first := step.lives_iff sound lives
    rw [List.forall_mem_cons, Orderly, first]
    -- The rest of the run starts from a state that has its entries.
    refine and_congr_right fun allowed => ?_
    exact ih (step.sound sound) (first.mpr allowed)

/-- A cluster without PodListeners objects, in which no two pods have the same identifier, is
sound. -/
theorem sound_of_unpublished {cluster : Cluster}
    (unpublished : ∀ key, cluster.podListeners.get key = none)
    (identified : ∀ key other pod copy, cluster.pods.get key = some pod →
      cluster.pods.get other = some copy → pod.metadata.uid = copy.metadata.uid → key = other) :
    Sound { cluster } := by
  refine ⟨fun key object stored => ?_, fun key other pod copy held alsoHeld same => ?_, ?_⟩
  · cases stored.symm.trans (unpublished key)
  · have names : "pod-" ++ pod.metadata.uid = "pod-" ++ copy.metadata.uid :=
      congrArg ObjectKey.name same
    have uid : pod.metadata.uid = copy.metadata.uid := by simpa using names
    exact identified key other pod copy held alsoHeld uid
  · intro pod gone
    cases gone

/-- In a cluster without PodListeners objects, in which no two pods have the same identifier, every
entry lives as long as its pod and its Listener, and no object outlives its pod, if and only if every
deletion does no harm. -/
theorem entries_live_iff_orderly {cluster : Cluster}
    (unpublished : ∀ key, cluster.podListeners.get key = none)
    (identified : ∀ key other pod copy, cluster.pods.get key = some pod →
      cluster.pods.get other = some copy → pod.metadata.uid = copy.metadata.uid → key = other)
    {moments : List (Event × Lifetime)} (run : Run { cluster } moments) :
    (∀ moment ∈ moments, moment.2.Lives) ↔ Orderly { cluster } moments := by
  have lives : Lives { cluster } := by
    constructor
    · intro entry listed
      cases listed
    · intro pod gone
      cases gone
  exact run.lives_iff (sound_of_unpublished unpublished identified) lives

/-- A server of objects, on a node where every call on files succeeds. -/
def serveReady (api : ApiServer) (call : Call) (cluster : Cluster) : Reply call × Cluster :=
  match call.kind with
  | .file => (fileReply call, cluster)
  | .read | .write => serve api call cluster

/-- Its answers are among the possible ones. -/
theorem flaky_serveReady (api : ApiServer) (call : Call) (cluster : Cluster) :
    flaky call cluster (serveReady api call cluster).1 (serveReady api call cluster).2 := by
  cases kind : call.kind with
  | file => simp only [flaky, serveReady, kind]
  | read =>
    simp only [flaky, serveReady, kind]
    exact Or.inl ⟨api, rfl⟩
  | write =>
    simp only [flaky, serveReady, kind]
    exact Or.inl ⟨api, rfl⟩

section Succeeds

variable (api : ApiServer) (n : NodeServer) (cluster : Cluster)

/-- The ports are written. -/
theorem writePorts_serveReady (portPath : String) (ports : List (String × Int)) :
    (writePorts portPath ports).run (serveReady api) cluster = (.ok (), cluster) := by
  induction ports with
  | nil => rfl
  | cons port ports ih =>
    obtain ⟨name, number⟩ := port
    rw [writePorts, Program.run_bind_ok _ (run_ask_ok _ rfl)]
    exact ih

/-- The addresses are written. -/
theorem writeAddresses_serveReady (addressesPath defaultAddressPath : String)
    (data : List IngressAddress) :
    ∃ path, (writeAddresses n addressesPath defaultAddressPath data).run (serveReady api) cluster =
      (.ok path, cluster) := by
  induction data generalizing defaultAddressPath with
  | nil => exact ⟨defaultAddressPath, rfl⟩
  | cons address data ih =>
    obtain ⟨path, rest⟩ := ih (join addressesPath address.address)
    have written : (writeAddress n (join addressesPath address.address) address).run (serveReady api)
        cluster = (.ok (), cluster) := by
      rw [writeAddress, Program.run_bind_ok _ (run_ask_ok _ rfl),
        Program.run_bind_ok _ (run_ask_ok _ rfl)]
      exact writePorts_serveReady api cluster _ _
    refine ⟨path, ?_⟩
    rw [writeAddresses, Program.run_bind_ok _ (run_ask_ok _ rfl), Program.run_bind_ok _ written]
    exact rest

/-- The part of a publication on the node succeeds. -/
theorem publishToNode_serveReady (targetPath : String) (data : List IngressAddress) :
    (publishToNode n targetPath data).run (serveReady api) cluster = (.ok (), cluster) := by
  obtain ⟨path, addresses⟩ := writeAddresses_serveReady api n cluster (join targetPath "addresses")
    "" data
  have written : (writeData n targetPath (some data)).run (serveReady api) cluster =
      (.ok (), cluster) := by
    rw [writeData, Program.run_bind_ok _ (run_ask_ok _ rfl), Program.run_bind_ok _ addresses]
    exact run_ask_ok _ rfl
  have mounted : (mount targetPath).run (serveReady api) cluster = (.ok (), cluster) := rfl
  rw [publishToNode, Program.run_bind_ok _ (run_withStatus_ok _ _ mounted)]
  exact run_withStatus_ok _ _ written

variable {n} {cluster} {request : NodePublishVolumeRequest} {pv : PersistentVolume} {pod : Pod}
  {listener : Listener} {volumeName : String} {data : List IngressAddress}

/-- The part of a publication after the Listener is found succeeds, if there are addresses and the
pod has the volume. -/
theorem publishListener_serve (volume : cluster.pvs.get pv.metadata.name = some pv)
    (held : cluster.pods.get pod.metadata.key = some pod)
    (stored : cluster.listeners.get listener.metadata.key = some listener)
    (addresses : cluster.addressesFor listener pod = .ok data)
    (named : pod.NamesVolume pv volumeName) :
    ∃ object after, (publishListener n pod pv listener).run (serve api) cluster =
      (.ok (⟨listener, volumeName, object⟩, data), after) := by
  obtain ⟨tied, mounted, revision, tiedIs, mountedIs, run⟩ :=
    publishListener_labelled n api listener volume held
  generalize labelled : ({ cluster with
    pvs := cluster.pvs.insert tied, pods := cluster.pods.insert mounted, revision } : Cluster) =
      both at run
  have volumes : pv.Alike tied := by
    rw [tiedIs]
    exact pv.alike_tied listener _
  have pods : pod.Alike mounted := by
    rw [mountedIs]
    exact pod.alike_mounting listener _
  have still : both.listeners.get listener.metadata.key = some listener := by
    rw [← labelled]
    exact stored
  have nodes : both.nodes = cluster.nodes := by rw [← labelled]
  have addressRun := getAddresses_run api mounted still
  rw [Cluster.addressesFor_congr nodes listener pods, addresses] at addressRun
  have answered : ∀ call, serve api call both = serve ((fun _ => api) call) call both :=
    fun _ => rfl
  obtain ⟨after, _, published, -⟩ := publishPodListener_run answered (n := n)
    ((pods.namesVolume volumes volumeName).mpr named) listener data
  refine ⟨listener.entryFor n mounted volumeName data, after, ?_⟩
  rw [run, Program.run_bind_ok _ (run_withStatus_ok _ _ addressRun)]
  show Program.run _ (withStatus .internal (publishPodListener n mounted tied listener data) >>= _)
    both = _
  rw [Program.run_bind_ok _ (run_withStatus_ok _ _ published)]
  rfl

/-- A publication through a Listener that the request names succeeds where all calls do. -/
theorem nodePublishVolume_serveReady
    (accepted : validateNodePublishVolumeRequest request = .ok ())
    (called : request.context.listenerName = some listener.metadata.name)
    (resolves : cluster.Resolves n request pv pod listener)
    (addresses : cluster.addressesFor listener pod = .ok data)
    (named : pod.NamesVolume pv volumeName) :
    ∃ object after, (nodePublishVolume n request).run (serveReady api) cluster =
      (.ok ⟨listener, volumeName, object⟩, after) := by
  have volume : cluster.pvs.get pv.metadata.name = some pv := by
    rw [cluster.pvs.keyed resolves.volume, resolves.volume]
  have held : cluster.pods.get pod.metadata.key = some pod := by
    rw [cluster.pods.keyed resolves.held, resolves.held]
  have publishes : ∃ object after, (publishListener n pod pv listener).run (serve api) cluster =
      (.ok (⟨listener, volumeName, object⟩, data), after) :=
    publishListener_serve api volume held resolves.stored addresses named
  obtain ⟨object, after, publishRun⟩ := publishes
  have volumeRun : (getPV request.volumeId).run (serve api) cluster = (.ok pv, cluster) :=
    run_ask_ok _ (by simp [serve, resolves.volume])
  have podRun : (getPod request.podKey.name request.podKey.ns).run (serve api) cluster =
      (.ok pod, cluster) := run_ask_ok _ (Prod.ext (found_eq_ok.mpr resolves.held) rfl)
  have listenerRun : (getListener n pod pv request.context).run (serve api) cluster =
      (.ok listener, cluster) := by
    have key := resolves.key
    simp only [Cluster.ListenerKey, called] at key
    rw [getListener, called, resolves.podNamespace]
    refine run_ask_ok _ ?_
    rw [← key]
    simp [serve, resolves.stored]
  have clusterRun : (publishToCluster n request).run (serve api) cluster =
      (.ok (⟨listener, volumeName, object⟩, data), after) := by
    rw [publishToCluster_found accepted resolves.toBinds volumeRun podRun listenerRun]
    exact publishRun
  -- The part on the cluster makes calls on objects only, which both servers answer alike.
  have same : (publishToCluster n request).run (serveReady api) cluster =
      (publishToCluster n request).run (serve api) cluster := by
    refine (publishToCluster_ensures n request).run_congr (fun _ => True) ?_
      (fun _ _ _ _ => trivial) trivial
    intro call state objects _
    rw [serveReady]
    cases kind : call.kind with
    | file => exact absurd kind objects
    | read => rfl
    | write => rfl
  refine ⟨object, after, ?_⟩
  rw [nodePublishVolume, Program.run_bind_ok _ (same.trans clusterRun)]
  show Program.run _ (publishToNode n request.targetPath data >>= _) after = _
  rw [Program.run_bind_ok _ (publishToNode_serveReady api n after request.targetPath data)]
  rfl

end Succeeds

/-- The server of the publications. -/
def pairApi : ApiServer := .filling pairUid

/-- What a publication on that server returns and leaves. -/
def ranOn (state : Lifetime) (request : NodePublishVolumeRequest) :
    Except Failure Publication × Cluster :=
  (nodePublishVolume .standard request).run (serveReady pairApi) state.cluster

/-- After a publication on that server. -/
def publish (state : Lifetime) (request : NodePublishVolumeRequest) : Lifetime where
  cluster := (state.ranOn request).2.collected
  published := match (state.ranOn request).1 with
    | .ok publication =>
      ⟨request.podKey, publication.volumeName, publication.listener.metadata.key⟩ :: state.published
    | .error _ => state.published
  deleted := state.deleted

/-- A publication on that server is executed. -/
theorem ranOn_exec (state : Lifetime) (request : NodePublishVolumeRequest) :
    (nodePublishVolume .standard request).Exec flaky state.cluster (state.ranOn request).1
      (state.ranOn request).2 :=
  Program.exec_run (flaky_serveReady pairApi) (nodePublishVolume .standard request) state.cluster

/-- A publication is a step. -/
theorem publish_step (state : Lifetime) (request : NodePublishVolumeRequest) :
    Step state .publish (state.publish request) := by
  have executed := state.ranOn_exec request
  rw [publish]
  cases result : (state.ranOn request).1 with
  | error failure => exact .failed ControllerRuntime.standard_documented executed.interrupted
  | ok publication =>
    rw [result] at executed
    exact .published ControllerRuntime.standard_documented executed

/-- A publication extends the cluster. -/
theorem publish_extends {state : Lifetime} (sound : state.Sound)
    (request : NodePublishVolumeRequest) :
    Extends state.cluster (state.publish request).cluster :=
  attempt_collected ControllerRuntime.standard_documented (state.ranOn_exec request).interrupted sound

/-- A second Listener. -/
def adminListener : Listener := { webListenerReady with
  metadata := { name := "admin", ns := "default", uid := "6d5c4b3a-2918-4f7e-8d6c-b5a493827160" } }

/-- A cluster in which the volumes of `pairPod` are published through two Listeners. -/
def adminCluster : Cluster := { webVolumeCluster with
  listeners := .ofList [webListenerReady, adminListener]
  pods := .ofList [pairPod]
  pvs := .ofList [webVolume, adminVolume] }

/-- The request to publish the second volume of `pairPod` through `adminListener`. -/
def adminRequest : NodePublishVolumeRequest := { pairRequest true with
  volumeContext := webRequest.volumeContext.insert annotationListenerName "admin" }

/-- The entry of the second volume. -/
def adminEntry : PublishedEntry where
  pod := ⟨"default", "web-0"⟩
  volumeName := "admin"
  listener := ⟨"default", "admin"⟩

/-- After the first volume is published. -/
@[irreducible] def webPublished : Lifetime := publish { cluster := adminCluster } webRequest

/-- After both volumes are published. -/
@[irreducible] def bothPublished : Lifetime := webPublished.publish adminRequest

/-- The only pod of `adminCluster`. -/
theorem adminCluster_pod {key : ObjectKey} {pod : Pod} (held : adminCluster.pods.get key = some pod) :
    pod = pairPod ∧ key = pairPod.metadata.key := by
  have here := adminCluster.pods.keyed held
  have pods : adminCluster.pods.values = [pairPod] := rfl
  have listed := (adminCluster.pods.mem_values pod).mpr (here ▸ held)
  rw [pods, List.mem_singleton] at listed
  rw [← here, listed]
  exact ⟨rfl, rfl⟩

/-- `adminCluster` is sound. -/
theorem adminCluster_sound : Sound { cluster := adminCluster } := by
  refine sound_of_unpublished (fun _ => rfl) ?_
  intro key other pod copy held alsoHeld _
  rw [(adminCluster_pod held).2, (adminCluster_pod alsoHeld).2]

/-- The first publication is a step. -/
theorem webPublished_step : Step { cluster := adminCluster } .publish webPublished := by
  unfold webPublished
  exact publish_step _ _

/-- So is the second one. -/
theorem bothPublished_step : Step webPublished .publish bothPublished := by
  unfold bothPublished
  exact publish_step _ _

/-- After the first publication. -/
theorem webPublished_sound : webPublished.Sound := webPublished_step.sound adminCluster_sound

/-- The first publication extends the cluster. -/
theorem webPublished_extends : Extends adminCluster webPublished.cluster := by
  unfold webPublished
  exact publish_extends adminCluster_sound webRequest

/-- So does the second one. -/
theorem bothPublished_extends : Extends webPublished.cluster bothPublished.cluster := by
  unfold bothPublished
  exact publish_extends webPublished_sound adminRequest

/-- What the first publication leaves for the second one: the pod and the volume, addresses for the
second Listener, and an object of the first Listener. -/
theorem webPublished_leaves :
    (∃ pod, webPublished.cluster.pods.get adminEntry.pod = some pod ∧ pairPod.Alike pod) ∧
    webPublished.cluster.pvs.get "pv-2" = some adminVolume ∧
    (∃ data, webPublished.cluster.addressesFor adminListener pairPod = .ok data) ∧
    ∃ object, webPublished.cluster.podListeners.get pairPod.objectKey = some object ∧
      ∀ reference ∈ object.metadata.ownerReferences, reference.name = "web" := by
  have pods : (webPublished.cluster.pods.get adminEntry.pod).any fun pod =>
      pod.spec = pairPod.spec ∧ pod.metadata.name = pairPod.metadata.name ∧
        pod.metadata.ns = pairPod.metadata.ns ∧ pod.metadata.uid = pairPod.metadata.uid := by
    decide +kernel
  have addressed : (webPublished.cluster.addressesFor adminListener pairPod).isOk = true := by
    decide +kernel
  have objects : (webPublished.cluster.podListeners.get pairPod.objectKey).any fun object =>
      ∀ reference ∈ object.metadata.ownerReferences, reference.name = "web" := by decide +kernel
  obtain ⟨pod, held, alike⟩ := (Option.any_eq_true _ _).mp pods
  obtain ⟨object, stored, named⟩ := (Option.any_eq_true _ _).mp objects
  obtain ⟨spec, name, ns, uid⟩ := of_decide_eq_true alike
  refine ⟨⟨pod, held, spec, name, ns, uid⟩, by decide +kernel, ?_, object, stored,
    of_decide_eq_true named⟩
  cases found : webPublished.cluster.addressesFor adminListener pairPod with
  | ok data => exact ⟨data, rfl⟩
  | error failure => simp [found, Except.isOk, Except.toBool] at addressed

/-- The second Listener is there. -/
theorem adminListener_stored :
    webPublished.cluster.listeners.get adminEntry.listener = some adminListener ∧
      bothPublished.cluster.listeners.get adminEntry.listener = some adminListener := by
  have stored : adminCluster.listeners.get adminEntry.listener = some adminListener := by
    decide +kernel
  have first := webPublished_extends.listeners _ _ stored
  exact ⟨first, bothPublished_extends.listeners _ _ first⟩

/-- The second publication succeeds. -/
theorem bothPublished_published :
    bothPublished.published = adminEntry :: webPublished.published := by
  obtain ⟨⟨pod, held, alike⟩, volume, ⟨data, addresses⟩, -⟩ := webPublished_leaves
  have podKey : adminRequest.podKey = adminEntry.pod := by decide +kernel
  have called : adminRequest.context.listenerName = some "admin" := by decide +kernel
  have key : adminListener.metadata.key = adminEntry.listener := rfl
  have resolves : webPublished.cluster.Resolves .standard adminRequest adminVolume pod
      adminListener := by
    refine ⟨⟨by decide +kernel, by decide +kernel, volume, ?_⟩, ?_, ?_⟩
    · rw [podKey]
      exact held
    · rw [Cluster.ListenerKey, called, podKey]
      rfl
    · rw [key]
      exact adminListener_stored.1
  rw [← Cluster.addressesFor_congr rfl adminListener alike] at addresses
  have named := (alike.namesVolume (PersistentVolume.Alike.refl adminVolume) "admin").mpr
    ⟨_, rfl, rfl⟩
  obtain ⟨object, after, ran⟩ := nodePublishVolume_serveReady pairApi (by decide +kernel) called
    resolves addresses named
  have result : webPublished.ranOn adminRequest = (.ok ⟨adminListener, "admin", object⟩, after) := by
    rw [ranOn]
    exact ran
  rw [bothPublished, publish, result]
  simp only [podKey, key]
  rfl

/-- After both publications. -/
theorem bothPublished_sound : bothPublished.Sound := bothPublished_step.sound webPublished_sound

/-- The object of the pod still belongs to the first Listener. -/
theorem bothPublished_object :
    ∃ object, bothPublished.cluster.podListeners.get pairPod.objectKey = some object ∧
      ∀ reference ∈ object.metadata.ownerReferences, reference.name = "web" := by
  obtain ⟨-, -, -, object, stored, named⟩ := webPublished_leaves
  obtain ⟨later, now, -, references, -⟩ := bothPublished_extends.kept _ object stored
  refine ⟨later, now, ?_⟩
  rw [references]
  exact named

/-- The pod of `adminCluster` is the only one. -/
theorem bothPublished_pod {key : ObjectKey} {pod : Pod}
    (held : bothPublished.cluster.pods.get key = some pod) : pod.objectKey = pairPod.objectKey := by
  obtain ⟨middle, heldMiddle, same⟩ := bothPublished_extends.pod held
  obtain ⟨old, heldOld, before⟩ := webPublished_extends.pod heldMiddle
  rw [same, before, (adminCluster_pod heldOld).1]

/-- Both volumes are published, and the second Listener is deleted. -/
def adminDeleted : List (Event × Lifetime) :=
  [(.publish, webPublished), (.publish, bothPublished),
    (.deleteListener ⟨"default", "admin"⟩, bothPublished.deleteListener ⟨"default", "admin"⟩)]

/-- Every state of `adminDeleted` has its entries. -/
theorem adminDeleted_lives :
    Run { cluster := adminCluster } adminDeleted ∧ ∀ moment ∈ adminDeleted, moment.2.Lives := by
  have run : Run { cluster := adminCluster } adminDeleted :=
    .cons webPublished_step (.cons bothPublished_step (.cons (.listenerDeleted _) (.nil _)))
  refine ⟨run, (entries_live_iff_orderly (fun _ => rfl) ?_ run).mpr ⟨trivial, trivial, ?_, trivial⟩⟩
  · intro key other pod copy held alsoHeld _
    rw [(adminCluster_pod held).2, (adminCluster_pod alsoHeld).2]
  · -- The object belongs to the first Listener, so the second one controls nothing.
    intro listener there entry _ _ pod object held stored controlled
    obtain ⟨first, storedFirst, named⟩ := bothPublished_object
    rw [bothPublished_pod held] at stored
    obtain rfl := Option.some.inj (storedFirst.symm.trans stored)
    have here : listener.metadata.name = "admin" :=
      congrArg ObjectKey.name (bothPublished.cluster.listeners.keyed there)
    have name := named _ controlled.2
    have same : "admin" = "web" := here.symm.trans name
    exact absurd same (by decide)

/-- The first Listener is deleted, and the entry of the second one is lost. The pod is deleted, and its
object remains. -/
theorem entries_lost :
    (∃ (moments : List (Event × Lifetime)) (lost : Lifetime), Run { cluster := adminCluster }
        (moments ++ [(.deleteListener ⟨"default", "web"⟩, lost)]) ∧
      (∃ entry ∈ lost.published, (lost.cluster.listeners.get entry.listener).isSome ∧
        ∃ pod, lost.cluster.pods.get entry.pod = some pod ∧
          lost.cluster.podListeners.get pod.objectKey = none) ∧ ¬ lost.Lives) ∧
    ∃ (moments : List (Event × Lifetime)) (left : Lifetime), Run { cluster := adminCluster }
        (moments ++ [(.deletePod ⟨"default", "web-0"⟩, left)]) ∧
      (∃ pod ∈ left.deleted, (left.cluster.podListeners.get pod.objectKey).isSome) ∧
      ¬ left.Lives := by
  constructor
  · -- The owner of the object is the first Listener.
    obtain ⟨object, stored, named⟩ := bothPublished_object
    obtain ⟨owner, owns, belongs⟩ := bothPublished_sound.owners _ object stored
    have here : owner.metadata.key = ⟨"default", "web"⟩ := by
      have key : object.metadata.key = pairPod.objectKey :=
        bothPublished.cluster.podListeners.keyed stored
      have ns : owner.metadata.ns = "default" := belongs.ns.symm.trans (congrArg ObjectKey.ns key)
      have name : owner.metadata.name = "web" := named _ belongs.controlledBy.2
      rw [ObjectMeta.key, ns, name]
    obtain ⟨⟨before, heldBefore, -⟩, -⟩ := webPublished_leaves
    have there := bothPublished_extends.pods adminEntry.pod
    rw [heldBefore, Option.map_some] at there
    obtain ⟨pod, held, -⟩ := Option.map_eq_some_iff.mp there
    rw [← bothPublished_pod held] at stored
    have listed : adminEntry ∈ bothPublished.published := by
      rw [bothPublished_published]
      exact List.mem_cons_self
    obtain ⟨left, same, heldNow, gone⟩ := deleteListener_loses ⟨"default", "web"⟩ listed (by decide)
      held stored owns belongs here
    refine ⟨[(.publish, webPublished), (.publish, bothPublished)], _,
      .cons webPublished_step (.cons bothPublished_step (.cons (.listenerDeleted _) (.nil _))),
      ⟨_, left, ?_, pod, heldNow, gone⟩, fun lives => ?_⟩
    · rw [same, adminListener_stored.2]
      rfl
    · obtain ⟨object, present, -⟩ := lives.entries _ left pod heldNow
      cases present.symm.trans gone
  · obtain ⟨⟨pod, held, alike⟩, -, -, object, stored, -⟩ := webPublished_leaves
    have same : pod.objectKey = pairPod.objectKey := by
      rw [Pod.objectKey, Pod.objectKey, alike.ns, alike.uid]
    have key : adminEntry.pod = ⟨"default", "web-0"⟩ := rfl
    rw [key] at held
    have deleted : pod ∈ (webPublished.deletePod ⟨"default", "web-0"⟩).deleted :=
      List.mem_append_left _ (Option.mem_toList.mpr held)
    have remains := deletePod_get webPublished_sound ⟨"default", "web-0"⟩ pod.objectKey
    rw [same, stored] at remains
    refine ⟨[(.publish, webPublished)], _, .cons webPublished_step (.cons (.podDeleted _) (.nil _)),
      ⟨pod, deleted, ?_⟩, fun lives => ?_⟩
    · rw [same, remains]
      rfl
    · have none := lives.objects pod deleted
      rw [same, remains] at none
      cases none

end Lifetime

end ListenerOperator
