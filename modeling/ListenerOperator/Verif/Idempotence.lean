import ListenerOperator.Verif.Attempts

/-!
# Repeated attempts

Publishing a volume again, after attempts that failed anywhere, leaves what a single attempt leaves.
What a request leads to can be read off any state on the way, because each change of an attempt puts
in place a part of it that later attempts compute again. Meanwhile the controller writes the status
of Listeners.
-/

namespace ListenerOperator

open Interaction MergePatch Keyed

/-- The controller writes the status of a Listener, if it is there. -/
def Cluster.report (cluster : Cluster) (key : ObjectKey) (status : ListenerStatus) : Cluster :=
  match cluster.listeners.get key with
  | some listener => cluster.storeStatus listener status
  | none => cluster

/-- A Listener without its status and its version. -/
def Listener.core (listener : Listener) : Listener := { listener.versioned 0 with status := {} }

section Report

variable (cluster : Cluster) (key : ObjectKey) (status : ListenerStatus)

/-- A status write concerns Listeners only. -/
theorem Cluster.report_sameBut :
    cluster.SameBut (some .listeners) (cluster.report key status) := by
  rw [Cluster.report]
  split
  · rw [Cluster.storeStatus_frame]
    constructor <;> simp
  · constructor <;> simp

/-- A status write leaves every Listener up to its status and its version. -/
theorem Cluster.report_core (other : ObjectKey) :
    ((cluster.report key status).listeners.get other).map Listener.core =
      (cluster.listeners.get other).map Listener.core := by
  rw [Cluster.report]
  split
  · rename_i listener stored
    rw [Cluster.storeStatus]
    split
    · rfl
    · dsimp only
      rw [Store.get_insert]
      split
      · rename_i same
        have here : listener.metadata.key = key := cluster.listeners.keyed stored
        rw [show other = key from same.trans here, stored]
        rfl
      · rfl
  · rfl

/-- The status is there after the write. -/
theorem Cluster.report_status {listener : Listener}
    (stored : (cluster.report key status).listeners.get key = some listener) :
    listener.status = status := by
  rw [Cluster.report] at stored
  split at stored
  · rename_i current found
    have here : current.metadata.key = key := cluster.listeners.keyed found
    rw [← here] at found stored
    obtain ⟨written, held, same, -⟩ := cluster.storeStatus_get current status found
    rw [← same, Option.some.inj (held.symm.trans stored)]
  · rename_i absent
    rw [absent] at stored
    cases stored

variable {cluster key status}

/-- A status that is there already is not written. -/
theorem Cluster.report_of_status (reported : ∀ listener,
    cluster.listeners.get key = some listener → listener.status = status) :
    cluster.report key status = cluster := by
  rw [Cluster.report]
  split
  · rename_i listener stored
    rw [Cluster.storeStatus, if_pos (reported listener stored)]
  · rfl

end Report

/-- The objects that a publication leaves, up to their versions. -/
structure PublishedObjects where
  listener : Listener
  volumeLabels : StringMap String
  podLabels : StringMap String
  podListeners : PodListeners

/-- The PodListeners object after an entry is recorded, for an identifier that a new one gets. -/
def Cluster.recorded (cluster : Cluster) (sent : PodListeners) (volumeName uid : String) :
    PodListeners :=
  match cluster.podListeners.get sent.metadata.key with
  | some existing => existing.setEntry sent volumeName
  | none => sent.identified uid

/-- The Listener of an outcome is there, or it is the one that is asked for. -/
def Cluster.Supplies (cluster : Cluster) (n : NodeServer) (request : NodePublishVolumeRequest)
    (pv : PersistentVolume) (pod : Pod) (listener : Listener) : Prop :=
  (cluster.listeners.get listener.metadata.key).map Listener.core = some listener.core ∨
    cluster.listeners.get listener.metadata.key = none ∧ request.context.listenerName = none ∧
      ∃ sent, cluster.askedListener n request.context pv pod = .ok sent ∧
        (sent.identified listener.metadata.uid).core = listener.core

/-- The entry of a Listener and its addresses, in an object for a pod. -/
def Listener.entryFor (listener : Listener) (n : NodeServer) (pod : Pod) (volumeName : String)
    (data : List IngressAddress) : PodListeners :=
  buildPodListenersObject n pod listener volumeName (determinePodListenerScope listener) data

/-- From the stored volume and pod, a request leads to an outcome. -/
structure Cluster.Plans (cluster : Cluster) (n : NodeServer) (request : NodePublishVolumeRequest)
    (pv : PersistentVolume) (pod : Pod) (volumeName : String) (data : List IngressAddress)
    (outcome : PublishedObjects) : Prop extends cluster.Binds request pv pod where
  key : cluster.ListenerKey n request pv pod outcome.listener.metadata.key
  provides : cluster.Supplies n request pv pod outcome.listener
  addresses : cluster.addressesFor outcome.listener pod = .ok data
  named : pod.NamesVolume pv volumeName
  volumeLabels : outcome.volumeLabels = (pv.tied outcome.listener).metadata.labels
  podLabels : outcome.podLabels = (pod.mounting outcome.listener).metadata.labels
  object : outcome.podListeners =
    (cluster.recorded (outcome.listener.entryFor n pod volumeName data) volumeName
      outcome.podListeners.metadata.uid).versioned 0

/-- A request leads to an outcome. -/
def Cluster.Leads (cluster : Cluster) (n : NodeServer) (request : NodePublishVolumeRequest)
    (outcome : PublishedObjects) : Prop :=
  ∃ pv pod volumeName data, cluster.Plans n request pv pod volumeName data outcome

/-- Nothing else than a Listener under a key and a PodListeners object under a key is created or
changed, up to the status and the version of Listeners. -/
structure Cluster.Apart (listenerKey podListenersKey : ObjectKey) (before after : Cluster) :
    Prop where
  listeners : ∀ key, key ≠ listenerKey →
    (after.listeners.get key).map Listener.core = (before.listeners.get key).map Listener.core
  podListeners : ∀ key, key ≠ podListenersKey →
    after.podListeners.get key = before.podListeners.get key

/-- The objects of an outcome are there. -/
structure Cluster.HasObjects (cluster : Cluster) (request : NodePublishVolumeRequest)
    (outcome : PublishedObjects) : Prop where
  listener : (cluster.listeners.get outcome.listener.metadata.key).map (·.versioned 0) =
    some (outcome.listener.versioned 0)
  volume : (cluster.pvs.get request.volumeId).map (·.metadata.labels) = some outcome.volumeLabels
  pod : (cluster.pods.get request.podKey).map (·.metadata.labels) = some outcome.podLabels
  podListeners : (cluster.podListeners.get outcome.podListeners.metadata.key).map (·.versioned 0) =
    some outcome.podListeners

section Core

variable {listener other : Listener} (same : listener.core = other.core)

include same

/-- Listeners that agree up to status and version have the same identity. -/
theorem Listener.identity_of_core : listener.metadata.name = other.metadata.name ∧
    listener.metadata.ns = other.metadata.ns ∧ listener.metadata.uid = other.metadata.uid :=
  ⟨congrArg (fun core => core.metadata.name) same, congrArg (fun core => core.metadata.ns) same,
    congrArg (fun core => core.metadata.uid) same⟩

/-- They give a volume the same labels. -/
theorem PersistentVolume.tied_congr (pv : PersistentVolume) : pv.tied listener = pv.tied other := by
  obtain ⟨name, ns, -⟩ := Listener.identity_of_core same
  rw [PersistentVolume.tied, PersistentVolume.tied, listenerMetaLabels, listenerMetaLabels, name, ns]

/-- They give a pod the same label. -/
theorem Pod.mounting_congr (pod : Pod) : pod.mounting listener = pod.mounting other := by
  obtain ⟨name, -, uid⟩ := Listener.identity_of_core same
  rw [Pod.mounting, Pod.mounting, listenerMountPodLabels, listenerMountPodLabels, name, uid]

/-- With the same status they are the same, up to their versions. -/
theorem Listener.versioned_congr (status : listener.status = other.status) :
    listener.versioned 0 = other.versioned 0 := by
  have rebuilt : ∀ one : Listener, one.versioned 0 = { one.core with status := one.status } :=
    fun _ => rfl
  rw [rebuilt, rebuilt, same, status]

/-- They own the objects that are built for the same pod. -/
theorem buildPodListenersObject_metadata {n : NodeServer} (documented : n.runtime.Documented)
    {pod copy : Pod} (pods : pod.Alike copy) (volumeName : String)
    (scope scope' : PodListenerScope) (data data' : List IngressAddress) :
    (buildPodListenersObject n copy listener volumeName scope data).metadata =
      (buildPodListenersObject n pod other volumeName scope' data').metadata := by
  obtain ⟨name, ns, uid⟩ := Listener.identity_of_core same
  rw [buildPodListenersObject, buildPodListenersObject, pods.ns, pods.uid]
  dsimp only
  rw [documented.identity "Listener" _ name ns uid]
  split <;> rfl

end Core

/-- They give the same pod the same entry, with the same status. -/
theorem Listener.entryFor_congr {n : NodeServer} (documented : n.runtime.Documented)
    {listener other : Listener} (same : listener.core = other.core)
    (status : listener.status = other.status) {pod copy : Pod} (pods : pod.Alike copy)
    (volumeName : String) (data : List IngressAddress) :
    listener.entryFor n copy volumeName data = other.entryFor n pod volumeName data := by
  have scope : determinePodListenerScope listener = determinePodListenerScope other := by
    rw [determinePodListenerScope, determinePodListenerScope, status]
  have metadata := buildPodListenersObject_metadata same documented pods volumeName
    (determinePodListenerScope listener) (determinePodListenerScope other) data data
  have first := (buildPodListenersObject_slot n copy listener volumeName
    (determinePodListenerScope listener) data).2
  have second := (buildPodListenersObject_slot n pod other volumeName
    (determinePodListenerScope other) data).2
  rw [← scope] at second
  have parts : ∀ left right : PodListeners, left.metadata = right.metadata →
      left.listeners = right.listeners → left = right := by
    rintro ⟨-, -⟩ ⟨-, -⟩ rfl rfl
    rfl
  exact parts _ _ metadata (first.trans (scope ▸ second.symm))

section Unique

variable {cluster : Cluster} {n : NodeServer} {request : NodePublishVolumeRequest}
  {pv : PersistentVolume} {pod : Pod}

/-- The volume and the pod of a request are given. -/
theorem Cluster.Binds.unique {other : PersistentVolume} {copy : Pod}
    (binds : cluster.Binds request pv pod) (again : cluster.Binds request other copy) :
    pv = other ∧ pod = copy :=
  ⟨Option.some.inj (binds.volume.symm.trans again.volume),
    Option.some.inj (binds.held.symm.trans again.held)⟩

/-- The key of the Listener of a request is given. -/
theorem Cluster.ListenerKey.unique {key other : ObjectKey}
    (first : cluster.ListenerKey n request pv pod key)
    (second : cluster.ListenerKey n request pv pod other) : key = other := by
  rw [Cluster.ListenerKey] at first second
  cases named : request.context.listenerName with
  | some listenerName =>
    simp only [named] at first second
    rw [first, second]
  | none =>
    simp only [named] at first second
    obtain ⟨sent, asked, rfl⟩ := first
    obtain ⟨again, same, rfl⟩ := second
    rw [Except.ok.inj (asked.symm.trans same)]

/-- The name of a volume is given. -/
theorem Pod.NamesVolume.unique {volumeName other : String} (first : pod.NamesVolume pv volumeName)
    (second : pod.NamesVolume pv other) : volumeName = other := by
  obtain ⟨claimRef, claimed, found⟩ := first
  obtain ⟨again, same, named⟩ := second
  obtain rfl := Option.some.inj (claimed.symm.trans same)
  exact Except.ok.inj (found.symm.trans named)

/-- A stored Listener is provided, up to status and version. -/
theorem Cluster.Resolves.provides {listener other : Listener}
    (resolves : cluster.Resolves n request pv pod listener) (same : listener.core = other.core) :
    cluster.ListenerKey n request pv pod other.metadata.key ∧
      cluster.Supplies n request pv pod other := by
  obtain ⟨name, ns, -⟩ := Listener.identity_of_core same
  have key : listener.metadata.key = other.metadata.key := by
    rw [ObjectMeta.key, ObjectMeta.key, name, ns]
  refine ⟨key ▸ resolves.key, Or.inl ?_⟩
  rw [← key, resolves.stored, ← same]
  rfl

/-- The Listener that an attempt works with is the one of the outcome. -/
theorem Cluster.Plans.core_eq {listener : Listener} {volumeName : String}
    {data : List IngressAddress} {outcome : PublishedObjects}
    (plans : cluster.Plans n request pv pod volumeName data outcome)
    (key : cluster.ListenerKey n request pv pod listener.metadata.key)
    (stored : cluster.listeners.get listener.metadata.key = some listener) :
    listener.core = outcome.listener.core := by
  rw [key.unique plans.key] at stored
  rcases plans.provides with found | ⟨absent, -⟩
  · rw [stored] at found
    exact Option.some.inj found
  · rw [stored] at absent
    cases absent

end Unique

section Entries

variable {sent built : PodListeners} {volumeName : String} {entry old : PodListener}
  (single : sent.listeners = .single volumeName entry)

include single

/-- An entry that is set over another one of the volume replaces it. -/
theorem PodListeners.setEntry_entered (was : built.listeners = .single volumeName old)
    (existing : PodListeners) (version : Nat) :
    (((existing.setEntry built volumeName).versioned version).setEntry sent volumeName).versioned 0 =
      (existing.setEntry sent volumeName).versioned 0 := by
  have listeners : (existing.listeners.insert volumeName old).insert volumeName entry =
      existing.listeners.insert volumeName entry := by
    apply StringMap.ext
    intro key
    simp only [StringMap.get_insert]
    split <;> rfl
  simp only [PodListeners.setEntry_single single, PodListeners.setEntry_single was,
    PodListeners.versioned, listeners]
  rfl

/-- In an object that was created with another entry of the volume, too. -/
theorem PodListeners.setEntry_opened (was : built.listeners = .single volumeName old)
    (metadata : built.metadata = sent.metadata) (uid : String) (version : Nat) :
    (((built.identified uid).versioned version).setEntry sent volumeName).versioned 0 =
      (sent.identified uid).versioned 0 := by
  have listeners : (StringMap.single volumeName old).insert volumeName entry =
      StringMap.single volumeName entry := by
    apply StringMap.ext
    intro key
    simp only [StringMap.get_insert, StringMap.get_single]
    split <;> rfl
  rw [PodListeners.setEntry_single single]
  simp only [PodListeners.identified, PodListeners.versioned, metadata, was, single, listeners]
  rfl

/-- The object of the pod keeps its key. -/
theorem Cluster.recorded_key (cluster : Cluster) (uid : String) :
    (cluster.recorded sent volumeName uid).metadata.key = sent.metadata.key := by
  rw [Cluster.recorded]
  split
  · rename_i existing stored
    have key : existing.metadata.key = sent.metadata.key := cluster.podListeners.keyed stored
    rw [PodListeners.setEntry_single single]
    exact key
  · rfl

end Entries

/-- The entry is kept in the slot of the volume. -/
theorem Listener.entryFor_slot (listener : Listener) (n : NodeServer) (pod : Pod)
    (volumeName : String) (data : List IngressAddress) :
    (listener.entryFor n pod volumeName data).metadata.key = (pod.slot volumeName).podListeners ∧
      ∃ entry, (listener.entryFor n pod volumeName data).listeners = .single volumeName entry :=
  have built := buildPodListenersObject_slot n pod listener volumeName
    (determinePodListenerScope listener) data
  ⟨built.1, _, built.2⟩

/-- The object of an outcome is the one of the pod. -/
theorem Cluster.Plans.object_key {cluster : Cluster} {n : NodeServer}
    {request : NodePublishVolumeRequest} {pv : PersistentVolume} {pod : Pod} {volumeName : String}
    {data : List IngressAddress} {outcome : PublishedObjects}
    (plans : cluster.Plans n request pv pod volumeName data outcome) :
    outcome.podListeners.metadata.key = (pod.slot volumeName).podListeners := by
  obtain ⟨slot, entry, single⟩ := outcome.listener.entryFor_slot n pod volumeName data
  rw [plans.object, ← slot]
  exact cluster.recorded_key single _

section Change

variable {n : NodeServer} (documented : n.runtime.Documented) {request : NodePublishVolumeRequest}
  {before : Cluster} {pv : PersistentVolume} {pod : Pod} {outcome : PublishedObjects}

/-- Before the Listener is created, a request leads to the same outcome. -/
theorem Cluster.Leads.created {sent : Listener} {uid : String} {version : Nat}
    (binds : before.Binds request pv pod) (unnamed : request.context.listenerName = none)
    (asked : before.askedListener n request.context pv pod = .ok sent)
    (absent : before.listeners.get sent.metadata.key = none)
    (leads : ({ before with
      listeners := before.listeners.insert ((sent.identified uid).versioned version)
      revision := before.nextRevision } : Cluster).Leads n request outcome) :
    before.Leads n request outcome ∧ outcome.listener.metadata.key = sent.metadata.key := by
  obtain ⟨pv', pod', volumeName, data, plans⟩ := leads
  have still : before.Binds request pv' pod' :=
    ⟨plans.podName, plans.podNamespace, plans.volume, plans.held⟩
  obtain ⟨rfl, rfl⟩ := binds.unique still
  have asks : before.ListenerKey n request pv pod sent.metadata.key := by
    rw [Cluster.ListenerKey, unnamed]
    exact ⟨sent, asked, rfl⟩
  have key : before.ListenerKey n request pv pod outcome.listener.metadata.key := plans.key
  have here : outcome.listener.metadata.key = sent.metadata.key := key.unique asks
  refine ⟨⟨pv, pod, volumeName, data, { still with
    key, provides := Or.inr ⟨?_, unnamed, sent, asked, ?_⟩, addresses := plans.addresses
    named := plans.named, volumeLabels := plans.volumeLabels, podLabels := plans.podLabels
    object := plans.object }⟩, here⟩
  · rw [here, absent]
  · have found := plans.provides
    rw [Cluster.Supplies, here] at found
    have held : (before.listeners.insert ((sent.identified uid).versioned version)).get
        sent.metadata.key = some ((sent.identified uid).versioned version) :=
      Store.get_insert_self _ _
    rcases found with found | ⟨gone, -⟩
    · rw [held] at found
      have same : ((sent.identified uid).versioned version).core = outcome.listener.core :=
        Option.some.inj found
      rw [← (Listener.identity_of_core same).2.2]
      exact same
    · rw [held] at gone
      cases gone

/-- A request is planned for the volume and the pod that are there, whatever entries are. -/
theorem Cluster.Resolves.plans {listener : Listener} {volumeName : String}
    {podListeners : Store fun podListeners : PodListeners => podListeners.metadata.key}
    {revision : Nat}
    (resolves : before.Resolves n request pv pod listener) (named : pod.NamesVolume pv volumeName)
    (leads : ({ before with podListeners, revision } : Cluster).Leads n request outcome) :
    ∃ data, ({ before with podListeners, revision } : Cluster).Plans n request pv pod volumeName data
      outcome := by
  obtain ⟨pv', pod', volumeName', data, plans⟩ := leads
  have still : before.Binds request pv' pod' :=
    ⟨plans.podName, plans.podNamespace, plans.volume, plans.held⟩
  obtain ⟨rfl, rfl⟩ := resolves.toBinds.unique still
  obtain rfl := named.unique plans.named
  exact ⟨data, plans⟩

/-- Before an entry of the volume is set, a request leads to the same outcome. -/
theorem Cluster.Leads.entered {listener : Listener} {volumeName : String}
    {existing : PodListeners} {scope : PodListenerScope} {data : List IngressAddress}
    {version : Nat} (resolves : before.Resolves n request pv pod listener)
    (named : pod.NamesVolume pv volumeName)
    (present : before.podListeners.get (pod.slot volumeName).podListeners = some existing)
    (leads : ({ before with
      podListeners := before.podListeners.insert ((existing.setEntry
        (buildPodListenersObject n pod listener volumeName scope data) volumeName).versioned
          version)
      revision := before.nextRevision } : Cluster).Leads n request outcome) :
    before.Leads n request outcome ∧
      outcome.podListeners.metadata.key = (pod.slot volumeName).podListeners := by
  obtain ⟨data', plans⟩ := resolves.plans named leads
  obtain ⟨key, provides⟩ := resolves.provides (plans.core_eq resolves.key resolves.stored)
  obtain ⟨slot, entry, single⟩ := outcome.listener.entryFor_slot n pod volumeName data'
  obtain ⟨-, builtSingle⟩ := buildPodListenersObject_slot n pod listener volumeName scope data
  have here : ((existing.setEntry (buildPodListenersObject n pod listener volumeName scope data)
      volumeName).versioned version).metadata.key = (pod.slot volumeName).podListeners := by
    have kept : existing.metadata.key = _ := before.podListeners.keyed present
    rw [PodListeners.setEntry_single builtSingle]
    exact kept
  have object := plans.object
  rw [Cluster.recorded, slot] at object
  simp only [Store.get_insert] at object
  rw [if_pos here.symm] at object
  dsimp only at object
  rw [PodListeners.setEntry_entered single builtSingle] at object
  refine ⟨⟨pv, pod, volumeName, data', { resolves.toBinds with
    key, provides, named, addresses := plans.addresses, volumeLabels := plans.volumeLabels
    podLabels := plans.podLabels, object := ?_ }⟩, plans.object_key⟩
  rw [Cluster.recorded, slot, present]
  exact object

include documented

/-- Before the volume gets its labels, a request leads to the same outcome. -/
theorem Cluster.Leads.tied {listener : Listener} {version : Nat}
    (resolves : before.Resolves n request pv pod listener)
    (leads : ({ before with
      pvs := before.pvs.insert ((pv.tied listener).versioned version)
      revision := before.nextRevision } : Cluster).Leads n request outcome) :
    before.Leads n request outcome := by
  obtain ⟨pv', pod', volumeName, data, plans⟩ := leads
  have there := resolves.tie documented version
  obtain ⟨rfl, rfl⟩ := there.toBinds.unique plans.toBinds
  have same := plans.core_eq there.key there.stored
  obtain ⟨key, provides⟩ := resolves.provides same
  have named := ((Pod.Alike.refl pod).namesVolume (pv.alike_tied listener version) volumeName).mp
    plans.named
  refine ⟨pv, pod, volumeName, data, { resolves.toBinds with
    key, provides, named, addresses := plans.addresses, podLabels := plans.podLabels
    object := plans.object, volumeLabels := ?_ }⟩
  rw [plans.volumeLabels, ← PersistentVolume.tied_congr same, pv.tied_tied,
    ← PersistentVolume.tied_congr same]
  rfl

/-- Before the pod gets its label, a request leads to the same outcome. -/
theorem Cluster.Leads.mounted {listener : Listener} {version : Nat}
    (resolves : before.Resolves n request pv pod listener)
    (leads : ({ before with
      pods := before.pods.insert ((pod.mounting listener).versioned version)
      revision := before.nextRevision } : Cluster).Leads n request outcome) :
    before.Leads n request outcome := by
  obtain ⟨pv', pod', volumeName, data, plans⟩ := leads
  have there := resolves.mount documented version
  obtain ⟨rfl, rfl⟩ := there.toBinds.unique plans.toBinds
  have same := plans.core_eq there.key there.stored
  obtain ⟨key, provides⟩ := resolves.provides same
  have alike := pod.alike_mounting listener version
  have named := (alike.namesVolume (PersistentVolume.Alike.refl pv) volumeName).mp plans.named
  have addresses := plans.addresses
  rw [Cluster.addressesFor_congr rfl outcome.listener alike] at addresses
  have object := plans.object
  rw [Listener.entryFor_congr documented rfl rfl alike] at object
  refine ⟨pv, pod, volumeName, data, { resolves.toBinds with
    key, provides, named, addresses, volumeLabels := plans.volumeLabels, object
    podLabels := ?_ }⟩
  rw [plans.podLabels, ← Pod.mounting_congr same, pod.mounting_mounting, ← Pod.mounting_congr same]
  rfl

/-- Before the object of the pod is created, a request leads to the same outcome. -/
theorem Cluster.Leads.opened {listener : Listener} {volumeName : String}
    {scope : PodListenerScope} {data : List IngressAddress} {uid : String} {version : Nat}
    (resolves : before.Resolves n request pv pod listener) (named : pod.NamesVolume pv volumeName)
    (absent : before.podListeners.get (pod.slot volumeName).podListeners = none)
    (leads : ({ before with
      podListeners := before.podListeners.insert
        (((buildPodListenersObject n pod listener volumeName scope data).identified uid).versioned
          version)
      revision := before.nextRevision } : Cluster).Leads n request outcome) :
    before.Leads n request outcome ∧
      outcome.podListeners.metadata.key = (pod.slot volumeName).podListeners := by
  obtain ⟨data', plans⟩ := resolves.plans named leads
  have same := plans.core_eq resolves.key resolves.stored
  obtain ⟨key, provides⟩ := resolves.provides same
  obtain ⟨slot, entry, single⟩ := outcome.listener.entryFor_slot n pod volumeName data'
  obtain ⟨builtSlot, builtSingle⟩ :=
    buildPodListenersObject_slot n pod listener volumeName scope data
  have metadata := buildPodListenersObject_metadata same documented (Pod.Alike.refl pod) volumeName
    scope (determinePodListenerScope outcome.listener) data data'
  have object := plans.object
  rw [Cluster.recorded, slot, ← builtSlot] at object
  simp only [Store.get_insert] at object
  rw [if_pos (by rfl)] at object
  dsimp only at object
  rw [PodListeners.setEntry_opened single builtSingle metadata] at object
  have given : outcome.podListeners.metadata.uid = uid :=
    congrArg (fun object => object.metadata.uid) object
  refine ⟨⟨pv, pod, volumeName, data', { resolves.toBinds with
    key, provides, named, addresses := plans.addresses, volumeLabels := plans.volumeLabels
    podLabels := plans.podLabels, object := ?_ }⟩, plans.object_key⟩
  rw [Cluster.recorded, slot, absent, given]
  exact object

/-- A change is a step to the outcome that the request leads to, and touches no other Listener or
PodListeners object. -/
theorem Cluster.Change.leads {after : Cluster} (change : before.Change n request after)
    (leads : after.Leads n request outcome) :
    before.Leads n request outcome ∧ Cluster.Apart outcome.listener.metadata.key
      outcome.podListeners.metadata.key before after := by
  cases change with
  | created uid version binds unnamed asked absent =>
    obtain ⟨earlier, here⟩ := leads.created binds unnamed asked absent
    refine ⟨earlier, fun key other => ?_, fun _ _ => rfl⟩
    rw [here] at other
    exact congrArg (Option.map Listener.core) (Store.get_insert_of_ne _ other)
  | tied version resolves =>
    exact ⟨leads.tied documented resolves, fun _ _ => rfl, fun _ _ => rfl⟩
  | mounted version resolves =>
    exact ⟨leads.mounted documented resolves, fun _ _ => rfl, fun _ _ => rfl⟩
  | opened scope data uid version resolves named absent =>
    obtain ⟨earlier, here⟩ := leads.opened documented resolves named absent
    refine ⟨earlier, fun _ _ => rfl, fun key other => ?_⟩
    rw [here, ← (buildPodListenersObject_slot n _ _ _ scope data).1] at other
    exact Store.get_insert_of_ne _ other
  | @entered pv pod listener volumeName existing scope data version resolves named present =>
    obtain ⟨earlier, here⟩ := leads.entered resolves named present
    refine ⟨earlier, fun _ _ => rfl, fun key other => ?_⟩
    have kept : existing.metadata.key = _ := before.podListeners.keyed present
    rw [here, ← kept] at other
    refine Store.get_insert_of_ne _ ?_
    rw [PodListeners.setEntry_single
      (buildPodListenersObject_slot n pod listener volumeName scope data).2]
    exact other

end Change

/-- What happens before the last attempt: an attempt for the same volume and context that is cut off
or fails anywhere, or a write of the status of a Listener by the controller. -/
inductive Round (n : NodeServer) (request : NodePublishVolumeRequest) (before : Cluster) :
    Cluster → Prop
  /-- An attempt. Its target path and the order of its loops are its own. -/
  | attempt {m : NodeServer} {again : NodePublishVolumeRequest} {after : Cluster}
      (runtime : m.runtime = n.runtime) (volumeId : again.volumeId = request.volumeId)
      (context : again.volumeContext = request.volumeContext)
      (attempted : (nodePublishVolume m again).Interrupted flaky before after) :
      Round n request before after
  /-- A write of the controller. -/
  | report (key : ObjectKey) (status : ListenerStatus) :
      Round n request before (before.report key status)

/-- Nothing is touched. -/
theorem Cluster.Apart.refl (listenerKey podListenersKey : ObjectKey) (cluster : Cluster) :
    Cluster.Apart listenerKey podListenersKey cluster cluster :=
  ⟨fun _ _ => rfl, fun _ _ => rfl⟩

/-- What is not touched in two steps is not touched. -/
theorem Cluster.Apart.trans {listenerKey podListenersKey : ObjectKey} {first second third : Cluster}
    (left : Cluster.Apart listenerKey podListenersKey first second)
    (right : Cluster.Apart listenerKey podListenersKey second third) :
    Cluster.Apart listenerKey podListenersKey first third :=
  ⟨fun key other => (right.listeners key other).trans (left.listeners key other),
    fun key other => (right.podListeners key other).trans (left.podListeners key other)⟩

/-- Attempts for the same volume and context make the same changes. -/
theorem Cluster.Change.congr {n m : NodeServer} {request again : NodePublishVolumeRequest}
    {before after : Cluster} (runtime : m.runtime = n.runtime)
    (volumeId : again.volumeId = request.volumeId)
    (context : again.volumeContext = request.volumeContext)
    (change : before.Change m again after) : before.Change n request after := by
  obtain ⟨_, entries, perm⟩ := m
  obtain ⟨_, targetPath, capability, _⟩ := again
  dsimp only at runtime volumeId context
  subst runtime volumeId context
  have binds : ∀ {pv pod}, before.Binds ⟨request.volumeId, targetPath, capability,
      request.volumeContext⟩ pv pod → before.Binds request pv pod := by
    intro pv pod bound
    exact ⟨bound.podName, bound.podNamespace, bound.volume, bound.held⟩
  have resolves : ∀ {pv pod listener}, before.Resolves ⟨n.runtime, entries, perm⟩
      ⟨request.volumeId, targetPath, capability, request.volumeContext⟩ pv pod listener →
        before.Resolves n request pv pod listener := by
    intro pv pod listener resolved
    exact ⟨binds resolved.toBinds, resolved.key, resolved.stored⟩
  cases change with
  | created uid version bound unnamed asked absent =>
    exact .created uid version (binds bound) unnamed asked absent
  | tied version resolved => exact .tied version (resolves resolved)
  | mounted version resolved => exact .mounted version (resolves resolved)
  | opened scope data uid version resolved named absent =>
    exact .opened scope data uid version (resolves resolved) named absent
  | entered scope data version resolved named present =>
    exact .entered scope data version (resolves resolved) named present

/-- A chain of steps that each lead to the outcome of their end leads to the outcome of its end. -/
theorem Cluster.chain_leads {n : NodeServer} {request : NodePublishVolumeRequest}
    {outcome : PublishedObjects} {steps : Cluster → Cluster → Prop}
    (step : ∀ before after, steps before after →
      after.Leads n request outcome → before.Leads n request outcome ∧ Cluster.Apart
        outcome.listener.metadata.key outcome.podListeners.metadata.key before after)
    {before after : Cluster} (chain : Relation.ReflTransGen steps before after)
    (leads : after.Leads n request outcome) :
    before.Leads n request outcome ∧ Cluster.Apart outcome.listener.metadata.key
      outcome.podListeners.metadata.key before after := by
  induction chain using Relation.ReflTransGen.head_induction_on with
  | refl => exact ⟨leads, .refl _ _ _⟩
  | head first _ ih =>
    obtain ⟨earlier, apart⟩ := step _ _ first ih.1
    exact ⟨earlier, apart.trans ih.2⟩

section Rounds

variable {n : NodeServer} (documented : n.runtime.Documented) {request : NodePublishVolumeRequest}
  {outcome : PublishedObjects} {before after : Cluster}

include documented

/-- The way to an outcome goes on with other Listeners, if they provide the one of the outcome. -/
theorem Cluster.Plans.congr {pv : PersistentVolume} {pod : Pod} {volumeName : String}
    {data : List IngressAddress} (same : before.SameBut (some .listeners) after)
    (plans : after.Plans n request pv pod volumeName data outcome)
    (provides : before.Supplies n request pv pod outcome.listener) :
    before.Plans n request pv pod volumeName data outcome := by
  have key := (Cluster.listenerKey_congr documented same.others.1 same.others.2.2.1
    (PersistentVolume.Alike.refl pv) (Pod.Alike.refl pod) request _).mp plans.key
  have addresses := plans.addresses
  rw [Cluster.addressesFor_congr same.others.2.1 _ (Pod.Alike.refl pod)] at addresses
  have object := plans.object
  rw [Cluster.recorded, same.podListeners (by simp)] at object
  have volume := plans.volume
  rw [same.pvs (by simp)] at volume
  have held := plans.held
  rw [same.pods (by simp)] at held
  exact { plans with volume, held, key, provides, addresses, object }

/-- What a request leads to does not depend on the status of Listeners. -/
theorem Cluster.Leads.congr (same : before.SameBut (some .listeners) after)
    (cores : ∀ key, (after.listeners.get key).map Listener.core =
      (before.listeners.get key).map Listener.core)
    (leads : after.Leads n request outcome) : before.Leads n request outcome := by
  obtain ⟨pv, pod, volumeName, data, plans⟩ := leads
  refine ⟨pv, pod, volumeName, data, plans.congr documented same ?_⟩
  have asked := Cluster.askedListener_congr documented same.others.1 same.others.2.2.1
    (PersistentVolume.Alike.refl pv) (Pod.Alike.refl pod) request.context
  rcases plans.provides with found | ⟨absent, unnamed, sent, sends, given⟩
  · rw [cores] at found
    exact Or.inl found
  · refine Or.inr ⟨?_, unnamed, sent, asked ▸ sends, given⟩
    have none := cores outcome.listener.metadata.key
    rw [absent] at none
    exact Option.map_eq_none_iff.mp none.symm

/-- A round is a way to the outcome of its end. -/
theorem Round.leads (round : Round n request before after)
    (leads : after.Leads n request outcome) :
    before.Leads n request outcome ∧ Cluster.Apart outcome.listener.metadata.key
      outcome.podListeners.metadata.key before after := by
  cases round with
  | attempt runtime volumeId context attempted =>
    refine Cluster.chain_leads ?_ (nodePublishVolume_changes (runtime ▸ documented) attempted) leads
    intro first second change later
    exact (change.congr runtime volumeId context).leads documented later
  | report key status =>
    have same := before.report_sameBut key status
    have cores := before.report_core key status
    refine ⟨leads.congr documented same cores, fun key _ => cores key, fun key _ => ?_⟩
    rw [same.podListeners (by simp)]

end Rounds

/-- The objects that a publication left are the outcome that its request leads to. -/
theorem Cluster.Finished.leads {cluster : Cluster} {n : NodeServer}
    {request : NodePublishVolumeRequest} {pv : PersistentVolume} {pod : Pod}
    {publication : Publication} {data : List IngressAddress}
    (finished : cluster.Finished n request pv pod publication data) :
    ∃ outcome, outcome.listener = publication.listener ∧
      outcome.podListeners.metadata.key = publication.podListeners.metadata.key ∧
        cluster.Leads n request outcome ∧ cluster.HasObjects request outcome := by
  obtain ⟨object, stored, entered⟩ := finished.recorded
  have key : object.metadata.key = publication.podListeners.metadata.key :=
    cluster.podListeners.keyed stored
  obtain ⟨slot, -⟩ := publication.listener.entryFor_slot n pod publication.volumeName data
  let outcome : PublishedObjects := ⟨publication.listener, pv.metadata.labels, pod.metadata.labels,
    object.versioned 0⟩
  have recorded : outcome.podListeners = (cluster.recorded
      (publication.listener.entryFor n pod publication.volumeName data) publication.volumeName
        outcome.podListeners.metadata.uid).versioned 0 := by
    rw [Cluster.recorded, slot, ← finished.slot, stored]
    exact congrArg (·.versioned 0) entered.symm
  refine ⟨outcome, rfl, key, ⟨pv, pod, publication.volumeName, data, { finished.toBinds with
    key := finished.key, provides := Or.inl ?_, addresses := finished.addresses
    named := finished.named, volumeLabels := ?_, podLabels := ?_, object := recorded }⟩, ?_⟩
  · rw [finished.stored]
    rfl
  · rw [finished.tied]
  · rw [finished.mounted]
  · constructor
    · rw [finished.stored]
      rfl
    · rw [finished.volume]
      rfl
    · rw [finished.held]
      rfl
    · show (cluster.podListeners.get object.metadata.key).map _ = _
      rw [key, stored]
      rfl

/-- A server without failures that gives new objects the identifiers of its choice, with a
controller that has written the status of a Listener before each call. -/
def attended (assign : Call → ApiServer) (key : ObjectKey) (status : ListenerStatus)
    (request : Call) (cluster : Cluster) : Reply request × Cluster :=
  serve (assign request) request (cluster.report key status)

/-- With the volume, the pod and the Listener found, a publication goes on after that. -/
theorem publishToCluster_found
    {server : (request : Call) → Cluster → Reply request × Cluster} {n : NodeServer}
    {request : NodePublishVolumeRequest} {start seen after : Cluster} {pv : PersistentVolume}
    {pod : Pod} {listener : Listener}
    (accepted : validateNodePublishVolumeRequest request = .ok ()) (binds : seen.Binds request pv pod)
    (volumeRun : (getPV request.volumeId).run server start = (.ok pv, seen))
    (podRun : (getPod request.podKey.name request.podKey.ns).run server seen = (.ok pod, seen))
    (listenerRun : (getListener n pod pv request.context).run server seen = (.ok listener, after)) :
    (publishToCluster n request).run server start =
      (publishListener n pod pv listener).run server after := by
  have context : newVolumeContextFromMap request.volumeContext = request.context := rfl
  rw [publishToCluster, accepted]
  simp only [context, binds.podName, binds.podNamespace, deref, Program.lift_eq,
    Program.done_ok_bind]
  rw [Program.run_bind_ok _ volumeRun, Program.run_bind_ok _ (run_withStatus_ok _ _ podRun),
    Program.run_bind_ok _ (run_withStatus_ok _ _ listenerRun)]
  rfl

section Recording

variable {server : (request : Call) → Cluster → Reply request × Cluster} {assign : Call → ApiServer}
  {cluster : Cluster} (served : ∀ call, server call cluster = serve (assign call) call cluster)

include served

/-- The entry is recorded, in a new object with the identifier that the server assigns. -/
theorem createOrUpdatePodListeners_run {sent : PodListeners} {volumeName : String}
    {entry : PodListener} (single : sent.listeners = .single volumeName entry) :
    ∃ version, (createOrUpdatePodListeners sent volumeName).run server cluster =
      (.ok (), { cluster with
        podListeners := cluster.podListeners.insert ((cluster.recorded sent volumeName
          (assign (.createPodListeners sent)).uid).versioned version)
        revision := cluster.nextRevision }) := by
  rw [createOrUpdatePodListeners, Program.run_call, served, Cluster.recorded]
  cases stored : cluster.podListeners.get sent.metadata.key with
  | none =>
    have created : (ask (.createPodListeners sent)).run server cluster = _ :=
      run_ask_ok _ ((served _).trans (serve_createPodListeners_absent _ stored))
    refine ⟨cluster.nextRevision, ?_⟩
    simp only [serve, stored, found_none, ↓reduceIte]
    rw [Program.run_bind_ok _ (run_withText_ok _ _ created)]
    rfl
  | some existing =>
    obtain ⟨version, patches⟩ := serve_patchPodListeners_entry
      (assign (.patchPodListeners existing (existing.setEntry sent volumeName))) single stored
    have patched : (ask (.patchPodListeners existing (existing.setEntry sent volumeName))).run
        server cluster = _ := run_ask_ok _ ((served _).trans patches)
    refine ⟨version, ?_⟩
    simp only [serve, stored, found_some]
    rw [Program.run_bind_ok _ (run_withText_ok _ _ patched)]
    rfl

/-- The entry of a Listener is recorded in the object of the pod, which is all that changes. -/
theorem publishPodListener_run {n : NodeServer} {pv : PersistentVolume} {pod : Pod}
    {volumeName : String} (named : pod.NamesVolume pv volumeName) (listener : Listener)
    (data : List IngressAddress) :
    ∃ after version, (publishPodListener n pod pv listener data).run server cluster =
        (.ok (volumeName, listener.entryFor n pod volumeName data), after) ∧
      after = { cluster with
        podListeners := cluster.podListeners.insert ((cluster.recorded
          (listener.entryFor n pod volumeName data) volumeName (assign (.createPodListeners
            (listener.entryFor n pod volumeName data))).uid).versioned version)
        revision := cluster.nextRevision } := by
  obtain ⟨claimRef, claimed, found⟩ := named
  obtain ⟨-, _, single⟩ := listener.entryFor_slot n pod volumeName data
  obtain ⟨version, run⟩ := createOrUpdatePodListeners_run served single
  refine ⟨_, version, ?_, rfl⟩
  rw [publishPodListener, claimed]
  simp only [deref, Program.lift_eq, Program.done_ok_bind, found]
  show Program.run _ (createOrUpdatePodListeners (listener.entryFor n pod volumeName data)
    volumeName >>= fun _ => pure (volumeName, listener.entryFor n pod volumeName data)) cluster = _
  rw [Program.run_bind_ok _ run]
  rfl

end Recording

section Attended

variable (assign : Call → ApiServer) {n : NodeServer} (documented : n.runtime.Documented)
  {request : NodePublishVolumeRequest} {cluster : Cluster} {outcome : PublishedObjects}

/-- The server of a single attempt, for the Listener of an outcome. -/
abbrev PublishedObjects.attended (outcome : PublishedObjects) (assign : Call → ApiServer) :
    (request : Call) → Cluster → Reply request × Cluster :=
  ListenerOperator.attended assign outcome.listener.metadata.key outcome.listener.status

/-- The status of an outcome is there. -/
def PublishedObjects.Reported (outcome : PublishedObjects) (cluster : Cluster) : Prop :=
  ∀ listener, cluster.listeners.get outcome.listener.metadata.key = some listener →
    listener.status = outcome.listener.status

/-- Where the status is there, calls are served as they are. -/
theorem PublishedObjects.Reported.attended (reported : outcome.Reported cluster) (call : Call) :
    outcome.attended assign call cluster = serve (assign call) call cluster := by
  rw [PublishedObjects.attended, ListenerOperator.attended, Cluster.report_of_status reported]

/-- Reads do not depend on the server. -/
theorem PublishedObjects.Reported.read (reported : outcome.Reported cluster) (api : ApiServer)
    (call : Call) (reads : call.kind = .read) :
    outcome.attended assign call cluster = serve api call cluster := by
  rw [reported.attended]
  refine Prod.ext (serve_read_reply _ _ call cluster reads) ?_
  rw [serve_read _ call cluster reads, serve_read _ call cluster reads]

/-- The Listener is found, or created with the identifier of the outcome. -/
theorem getListener_attended {pv : PersistentVolume} {pod : Pod} {volumeName : String}
    {data : List IngressAddress} (reported : outcome.Reported cluster)
    (plans : cluster.Plans n request pv pod volumeName data outcome)
    (identified : ∀ sent, (assign (.createListener sent)).uid = outcome.listener.metadata.uid) :
    ∃ listener after, (getListener n pod pv request.context).run (outcome.attended assign) cluster =
        (.ok listener, after) ∧
      listener.core = outcome.listener.core ∧ cluster.SameBut (some .listeners) after ∧
      after.listeners.get outcome.listener.metadata.key = some listener ∧
      ∀ key, key ≠ outcome.listener.metadata.key →
        after.listeners.get key = cluster.listeners.get key := by
  have same : cluster.SameBut (some .listeners) cluster := by constructor <;> simp
  have key := plans.key
  cases named : request.context.listenerName with
  | some listenerName =>
    simp only [Cluster.ListenerKey, named] at key
    rcases plans.provides with found | ⟨-, unnamed, -⟩
    · obtain ⟨listener, stored, core⟩ := Option.map_eq_some_iff.mp found
      refine ⟨listener, cluster, ?_, core, same, stored, fun _ _ => rfl⟩
      rw [getListener, named, plans.podNamespace]
      refine run_ask_ok _ ?_
      rw [reported.attended, ← key]
      simp [serve, stored]
    · rw [named] at unnamed
      cases unnamed
  | none =>
    simp only [Cluster.ListenerKey, named] at key
    obtain ⟨sent, asked, here⟩ := key
    have run := createListener_run n (assign .listListeners) cluster
      (reported.read assign (assign .listListeners)) request.context pv pod
    rw [asked] at run
    rw [getListener, named, run, Program.lift_eq, Program.done_ok_bind, storeListener,
      Program.run_call, reported.attended]
    rcases plans.provides with found | ⟨absent, -, again, asks, given⟩
    · obtain ⟨listener, stored, core⟩ := Option.map_eq_some_iff.mp found
      refine ⟨listener, cluster, ?_, core, same, stored, fun _ _ => rfl⟩
      rw [here] at stored
      have read : (ask (.getListener sent.metadata.key)).run (outcome.attended assign) cluster =
          (.ok listener, cluster) := by
        refine run_ask_ok _ ?_
        rw [reported.attended]
        simp [serve, stored]
      simp only [serve, stored]
      exact run_withText_ok _ _ read
    · obtain rfl := Except.ok.inj (asked.symm.trans asks)
      rw [here] at absent
      rw [serve_createListener_absent _ absent, identified]
      refine ⟨_, _, rfl, given, ?_, ?_, ?_⟩
      · constructor <;> simp
      · rw [here]
        exact Store.get_insert_self _ _
      · intro key other
        rw [here] at other
        exact Store.get_insert_of_ne _ other

/-- The addresses are read from the stored Listener. -/
theorem getAddresses_attended (reported : outcome.Reported cluster) {listener fresh : Listener}
    (stored : cluster.listeners.get listener.metadata.key = some fresh) (pod : Pod) :
    (getAddresses listener pod).run (outcome.attended assign) cluster =
      ((cluster.addressesFor fresh pod).map (fresh, ·), cluster) := by
  have reads : (getAddresses listener pod).Ensures (fun call => call.kind = .read)
      (fun _ => True) := by
    have read : ∀ call : Call, call.kind = .read →
        (ask call).Ensures (fun call => call.kind = .read) (fun _ => True) :=
      fun call reads => ensures_ask reads
    have address : (getNodeAddressByPod pod).Ensures (fun call => call.kind = .read)
        (fun _ => True) := (read _ rfl).bind fun _ _ => ensures_lift fun _ _ => trivial
    refine (read _ rfl).bind fun current _ => ?_
    split
    · exact address.bind fun _ _ => trivial
    · split <;> trivial
  let api := assign .listListeners
  rw [← getAddresses_run api pod stored]
  -- The calls are reads, so the cluster stays as it is.
  refine reads.run_congr (· = cluster) ?_ ?_ rfl
  · rintro call _ read rfl
    exact reported.read assign api call read
  · rintro call _ read rfl
    exact serve_read api call _ read

include documented

/-- The volume and the pod get the labels of the stored Listener. -/
theorem labels_attended {pv : PersistentVolume} {pod : Pod} {listener fresh : Listener}
    {now : Cluster}
    (controlled : cluster.report outcome.listener.metadata.key outcome.listener.status = now)
    (reported : outcome.Reported now) (resolves : now.Resolves n request pv pod fresh)
    (met : listener.core = fresh.core) :
    ∃ tied middle mounted after,
      (patchPVLabelsWithListener pv listener).run (outcome.attended assign) cluster =
        (.ok tied, middle) ∧
      (patchPodLabelsWithListener pod listener).run (outcome.attended assign) middle =
        (.ok mounted, after) ∧
      after.Resolves n request tied mounted fresh ∧ pv.Alike tied ∧ pod.Alike mounted ∧
      tied.metadata.labels = (pv.tied fresh).metadata.labels ∧
      mounted.metadata.labels = (pod.mounting fresh).metadata.labels ∧
      after.listeners = now.listeners ∧ after.podListeners = now.podListeners ∧
      after.nodes = now.nodes := by
  obtain ⟨first, tied⟩ := serve_patchPV_tied
    (assign (.patchPV pv (pv.tied fresh))) fresh resolves.toBinds
  have tiedResolves := resolves.tie documented first
  obtain ⟨second, mounted⟩ := serve_patchPod_mounting
    (assign (.patchPod pod (pod.mounting fresh))) fresh tiedResolves.toBinds
  have served : outcome.attended assign (.patchPV pv (pv.tied fresh)) cluster =
      serve (assign (.patchPV pv (pv.tied fresh))) (.patchPV pv (pv.tied fresh)) now := by
    rw [PublishedObjects.attended, attended, controlled]
  have tiedRun := run_ask_ok _ (served.trans tied)
  let labelled : Cluster := { now with
    pvs := now.pvs.insert ((pv.tied fresh).versioned first), revision := now.nextRevision }
  have still : outcome.Reported labelled := reported
  have mountedRun := run_ask_ok _
    ((still.attended assign (.patchPod pod (pod.mounting fresh))).trans mounted)
  have pvProgram : patchPVLabelsWithListener pv listener = ask (.patchPV pv (pv.tied fresh)) := by
    rw [← PersistentVolume.tied_congr met]
    rfl
  have podProgram : patchPodLabelsWithListener pod listener =
      ask (.patchPod pod (pod.mounting fresh)) := by
    rw [← Pod.mounting_congr met]
    rfl
  rw [pvProgram, podProgram]
  exact ⟨_, _, _, _, tiedRun, mountedRun, tiedResolves.mount documented second,
    pv.alike_tied fresh first, pod.alike_mounting fresh second,
    rfl, rfl, rfl, rfl, rfl⟩

/-- With the Listener of the outcome there, the rest of a publication leaves the outcome. -/
theorem publishListener_attended {pv : PersistentVolume} {pod : Pod} {volumeName : String}
    {data : List IngressAddress} {listener fresh : Listener} {now : Cluster}
    (controlled : cluster.report outcome.listener.metadata.key outcome.listener.status = now)
    (plans : now.Plans n request pv pod volumeName data outcome)
    (stored : now.listeners.get outcome.listener.metadata.key = some fresh)
    (core : listener.core = outcome.listener.core)
    (identified : ∀ sent,
      (assign (.createPodListeners sent)).uid = outcome.podListeners.metadata.uid) :
    ∃ result after, (publishListener n pod pv listener).run (outcome.attended assign) cluster =
        (.ok result, after) ∧ after.HasObjects request outcome ∧
      after.listeners = now.listeners ∧
      ∀ key, key ≠ outcome.podListeners.metadata.key →
        after.podListeners.get key = now.podListeners.get key := by
  have reported : outcome.Reported now := by
    intro current found
    rw [← controlled] at found
    exact cluster.report_status _ _ found
  have freshKey : fresh.metadata.key = outcome.listener.metadata.key := now.listeners.keyed stored
  have resolves : now.Resolves n request pv pod fresh :=
    { plans.toBinds with key := freshKey ▸ plans.key, stored := by rw [freshKey, stored] }
  have same : fresh.core = outcome.listener.core := plans.core_eq resolves.key resolves.stored
  have status : fresh.status = outcome.listener.status := reported fresh stored
  obtain ⟨tied, middle, mounted, last, tiedRun, mountedRun, there, alikePV, alikePod, tiedLabels,
    mountedLabels, listeners, podListeners, nodes⟩ :=
    labels_attended assign documented controlled reported resolves (core.trans same.symm)
  have still : outcome.Reported last := by
    rw [PublishedObjects.Reported, listeners]
    exact reported
  have key : listener.metadata.key = outcome.listener.metadata.key := by
    obtain ⟨name, ns, -⟩ := Listener.identity_of_core core
    rw [ObjectMeta.key, ObjectMeta.key, name, ns]
  have addresses : last.addressesFor fresh mounted = .ok data := by
    rw [Cluster.addressesFor_congr nodes fresh alikePod, Cluster.addressesFor, status]
    exact plans.addresses
  have addressRun := getAddresses_attended assign still
    (show last.listeners.get listener.metadata.key = some fresh by rw [key, listeners, stored])
    mounted
  rw [addresses] at addressRun
  -- The entry is the one of the outcome, so it is recorded as the outcome has it.
  have named := (alikePod.namesVolume alikePV volumeName).mpr plans.named
  have publishes := publishPodListener_run (still.attended assign) (n := n) named fresh data
  rw [identified] at publishes
  obtain ⟨after, version, publishRun, changed⟩ := publishes
  rw [Listener.entryFor_congr documented same status alikePod volumeName data] at publishRun changed
  have object : ((last.recorded (outcome.listener.entryFor n pod volumeName data) volumeName
      outcome.podListeners.metadata.uid).versioned version).versioned 0 = outcome.podListeners := by
    refine Eq.trans ?_ plans.object.symm
    rw [Cluster.recorded, Cluster.recorded, podListeners]
    rfl
  have objectKey := congrArg (fun object => object.metadata.key) object
  generalize (last.recorded (outcome.listener.entryFor n pod volumeName data) volumeName
      outcome.podListeners.metadata.uid).versioned version = written at *
  have kept : after.listeners = now.listeners := by rw [changed, ← listeners]
  refine ⟨(⟨listener, volumeName, outcome.listener.entryFor n pod volumeName data⟩, data), after,
    ?_, ⟨?_, ?_, ?_, ?_⟩, kept, ?_⟩
  · rw [publishListener, Program.run_bind_ok _ (run_withStatus_ok _ _ tiedRun),
      Program.run_bind_ok _ (run_withStatus_ok _ _ mountedRun),
      Program.run_bind_ok _ (run_withStatus_ok _ _ addressRun)]
    show Program.run _ (withStatus .internal (publishPodListener n mounted tied fresh data) >>= _)
      last = _
    rw [Program.run_bind_ok _ (run_withStatus_ok _ _ publishRun)]
    rfl
  · rw [kept, stored]
    exact congrArg some (Listener.versioned_congr same status)
  · rw [changed]
    show (last.pvs.get request.volumeId).map _ = _
    rw [there.volume, plans.volumeLabels, ← PersistentVolume.tied_congr same, ← tiedLabels]
    rfl
  · rw [changed]
    show (last.pods.get request.podKey).map _ = _
    rw [there.held, plans.podLabels, ← Pod.mounting_congr same, ← mountedLabels]
    rfl
  · rw [changed, ← objectKey]
    show ((last.podListeners.insert written).get written.metadata.key).map _ = _
    rw [Store.get_insert_self, ← object]
    rfl
  · intro key other
    rw [← objectKey] at other
    rw [changed, ← podListeners]
    exact Store.get_insert_of_ne _ other

/-- A single attempt that sees the status of an outcome leaves the outcome that its request leads to,
and touches no other Listener or PodListeners object. -/
theorem publishToCluster_attended {start : Cluster}
    (accepted : validateNodePublishVolumeRequest request = .ok ())
    (leads : start.Leads n request outcome)
    (listenerUid : ∀ sent, (assign (.createListener sent)).uid = outcome.listener.metadata.uid)
    (podListenersUid : ∀ sent,
      (assign (.createPodListeners sent)).uid = outcome.podListeners.metadata.uid) :
    ∃ result alone, (publishToCluster n request).run (outcome.attended assign) start =
        (.ok result, alone) ∧ alone.HasObjects request outcome ∧
      Cluster.Apart outcome.listener.metadata.key outcome.podListeners.metadata.key start alone := by
  -- From the first call on, the status is there.
  generalize controlled : start.report outcome.listener.metadata.key outcome.listener.status = seen
  have sameSeen := start.report_sameBut outcome.listener.metadata.key outcome.listener.status
  have coresSeen := start.report_core outcome.listener.metadata.key outcome.listener.status
  have reported : outcome.Reported seen := by
    intro listener found
    rw [← controlled] at found
    exact start.report_status _ _ found
  rw [controlled] at sameSeen coresSeen
  obtain ⟨pv, pod, volumeName, data, plans⟩ :=
    leads.congr documented sameSeen.symm fun key => (coresSeen key).symm
  have volumeRun : (getPV request.volumeId).run (outcome.attended assign) start = (.ok pv, seen) := by
    refine run_ask_ok _ ?_
    rw [PublishedObjects.attended, attended, controlled]
    simp [serve, plans.volume]
  have podRun : (getPod request.podKey.name request.podKey.ns).run (outcome.attended assign) seen =
      (.ok pod, seen) := by
    refine run_ask_ok _ ?_
    rw [reported.attended]
    exact Prod.ext (found_eq_ok.mpr plans.held) rfl
  obtain ⟨listener, after, listenerRun, core, sameAfter, stored, others⟩ :=
    getListener_attended assign reported plans listenerUid
  -- The controller writes the status of a Listener that was created.
  have coresNow := after.report_core outcome.listener.metadata.key outcome.listener.status
  have sameNow := sameAfter.trans
    (after.report_sameBut outcome.listener.metadata.key outcome.listener.status)
  have found := coresNow outcome.listener.metadata.key
  rw [stored, Option.map_some, core] at found
  obtain ⟨fresh, storedNow, -⟩ := Option.map_eq_some_iff.mp found
  have plansNow := plans.congr documented sameNow.symm (Or.inl found)
  obtain ⟨result, alone, publishRun, shows, listeners, podListeners⟩ :=
    publishListener_attended assign documented rfl plansNow storedNow core podListenersUid
  refine ⟨result, alone, ?_, shows, ?_, ?_⟩
  · rw [publishToCluster_found accepted plans.toBinds volumeRun podRun listenerRun]
    exact publishRun
  · intro key other
    rw [listeners, coresNow, others key other, coresSeen]
  · intro key other
    rw [podListeners key other, sameNow.podListeners (by simp), sameSeen.podListeners (by simp)]

end Attended

/-- Two clusters with the same objects of a request: the Listener and the PodListeners object under
the given keys, up to their versions, and the labels of the volume and of the pod. -/
structure Cluster.SameObjects (request : NodePublishVolumeRequest)
    (listenerKey podListenersKey : ObjectKey) (first second : Cluster) : Prop where
  listener : (first.listeners.get listenerKey).map (·.versioned 0) =
    (second.listeners.get listenerKey).map (·.versioned 0)
  volume : (first.pvs.get request.volumeId).map (·.metadata.labels) =
    (second.pvs.get request.volumeId).map (·.metadata.labels)
  pod : (first.pods.get request.podKey).map (·.metadata.labels) =
    (second.pods.get request.podKey).map (·.metadata.labels)
  podListeners : (first.podListeners.get podListenersKey).map (·.versioned 0) =
    (second.podListeners.get podListenersKey).map (·.versioned 0)

/-- An outcome determines the objects of a request. -/
theorem Cluster.HasObjects.sameObjects {request : NodePublishVolumeRequest}
    {outcome : PublishedObjects} {first second : Cluster} (one : first.HasObjects request outcome)
    (other : second.HasObjects request outcome) :
    Cluster.SameObjects request outcome.listener.metadata.key outcome.podListeners.metadata.key
      first second where
  listener := one.listener.trans other.listener.symm
  volume := one.volume.trans other.volume.symm
  pod := one.pod.trans other.pod.symm
  podListeners := one.podListeners.trans other.podListeners.symm

/-- After any number of attempts that fail anywhere and of status writes by the controller, an
attempt whose calls on the cluster all succeed leaves the objects that a single attempt without
failures leaves, which sees the same status and gives new objects the same identifiers. Neither of
them creates or changes another Listener or PodListeners object. -/
theorem nodePublishVolume_idempotent {n : NodeServer} (documented : n.runtime.Documented)
    {request : NodePublishVolumeRequest} {start current final : Cluster}
    (rounds : Relation.ReflTransGen (Round n request) start current)
    {server : Call → ApiServer} {last : Publication × List IngressAddress}
    (succeeded : (publishToCluster n request).run (fun call => serve (server call) call) current =
      (.ok last, final)) :
    ∃ listener object, final.listeners.get last.1.listener.metadata.key = some listener ∧
      final.podListeners.get last.1.podListeners.metadata.key = some object ∧
      ∀ assign : Call → ApiServer,
        (∀ sent, (assign (.createListener sent)).uid = listener.metadata.uid) →
        (∀ sent, (assign (.createPodListeners sent)).uid = object.metadata.uid) →
          ∃ single alone, (publishToCluster n request).run
              (attended assign listener.metadata.key listener.status) start = (.ok single, alone) ∧
            Cluster.SameObjects request listener.metadata.key object.metadata.key final alone ∧
            Cluster.Apart listener.metadata.key object.metadata.key start final ∧
            Cluster.Apart listener.metadata.key object.metadata.key start alone := by
  -- The last attempt is finished, and what it left is what its request led to at the start.
  have executed := Program.exec_run (fun call state => flaky_serve (server call) call state)
    (publishToCluster n request) current
  rw [succeeded] at executed
  obtain ⟨accepted, pv, pod, finished⟩ := (publishToCluster_guarded documented).exec executed
  obtain ⟨outcome, resolved, recorded, leads, shows⟩ := finished.leads
  have changes := changes_of_guarded (publishToCluster_guarded documented) executed.interrupted
  obtain ⟨led, apart⟩ := Cluster.chain_leads
    (fun _ _ change later => change.leads documented later) changes leads
  obtain ⟨earlier, before⟩ := Cluster.chain_leads
    (fun _ _ round later => round.leads documented later) rounds led
  obtain ⟨object, stored, -⟩ := finished.recorded
  have key : object.metadata.key = outcome.podListeners.metadata.key := by
    rw [recorded]
    exact final.podListeners.keyed stored
  have uid : object.metadata.uid = outcome.podListeners.metadata.uid := by
    have shown := shows.podListeners
    rw [recorded, stored] at shown
    exact congrArg (fun shown => shown.metadata.uid) (Option.some.inj shown)
  refine ⟨last.1.listener, object, finished.stored, stored, fun assign listenerUid objectUid => ?_⟩
  rw [← resolved] at listenerUid ⊢
  rw [uid] at objectUid
  obtain ⟨single, alone, run, shown, others⟩ :=
    publishToCluster_attended assign documented accepted earlier listenerUid objectUid
  rw [key]
  exact ⟨single, alone, run, shows.sameObjects shown, before.trans apart, others⟩

/-- The request to publish `webVolume` with a Listener of the class. -/
def classRequest : NodePublishVolumeRequest := { webRequest with volumeContext := classContext }

/-- The server of the attempts. -/
def claimApi : ApiServer := .filling "4b3a2918-0f7e-4d6c-b5a4-938271605f4e"

/-- An attempt that is cut off when its Listener is created, then the status of the Listener. -/
def claimReported : Cluster :=
  (Program.stateAfter (serve claimApi) 5 (nodePublishVolume .standard classRequest)
    (claimCluster [])).report ⟨"default", "web-data"⟩ webListenerReady.status

/-- A server that gives a Listener and other objects the given identifiers. -/
def assigning (listenerUid otherUid : String) : Call → ApiServer
  | .createListener _ => .filling listenerUid
  | _ => .filling otherUid

/-- The attempt after `claimReported` leaves what a single attempt leaves. -/
theorem claimReported_idempotent : ∃ last final, ∃ listener : Listener, ∃ object : PodListeners,
    ∃ single alone,
    (publishToCluster .standard classRequest).run (serve claimApi) claimReported =
      (.ok last, final) ∧
    (publishToCluster .standard classRequest).run
      (attended (assigning listener.metadata.uid object.metadata.uid) listener.metadata.key
        listener.status) (claimCluster []) = (.ok single, alone) ∧
    Cluster.SameObjects classRequest listener.metadata.key object.metadata.key final alone := by
  have rounds : Relation.ReflTransGen (Round .standard classRequest) (claimCluster [])
      claimReported :=
    .tail (.single (.attempt rfl rfl rfl (Program.interrupted_stateAfter (flaky_serve claimApi) 5
      (nodePublishVolume .standard classRequest) (claimCluster [])))) (.report _ _)
  have returns : ((publishToCluster .standard classRequest).run (serve claimApi)
      claimReported).1.isOk = true := by decide +kernel
  rcases ran : (publishToCluster .standard classRequest).run (serve claimApi) claimReported with
    ⟨failure | last, final⟩
  · rw [ran] at returns
    cases returns
  · obtain ⟨listener, object, -, -, every⟩ := nodePublishVolume_idempotent
      ControllerRuntime.standard_documented rounds ran
    obtain ⟨single, alone, run, same, -, -⟩ :=
      every (assigning listener.metadata.uid object.metadata.uid) (fun _ => rfl) fun _ => rfl
    exact ⟨last, final, listener, object, single, alone, rfl, run, same⟩

end ListenerOperator
