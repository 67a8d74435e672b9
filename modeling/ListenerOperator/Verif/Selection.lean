import ListenerOperator.Base.Concurrent
import ListenerOperator.Verif.Instances
import ListenerOperator.Verif.Mounts
import ListenerOperator.Verif.Service
import ListenerOperator.Verif.Status

/-!
# Pods that a Service selects

The Service of a Listener selects the pods that a publication labelled for that Listener, and of
these the ones with the extra labels that the Listener asks for. This holds in every state that
publications and reconciliations reach in any interleaving, while Listeners are created, changed
and deleted and pods are created and relabelled by others, who do not use the label of mounts.
-/

namespace ListenerOperator

open Interaction MergePatch Versioned Keyed

/-- A selector matches labels that have all its entries. -/
def Selects (selector labels : StringMap String) : Prop :=
  ∀ key value : String, selector[key]? = some value → labels[key]? = some value

/-- A label key that is one of mounts. -/
def UsesMountPrefix (key : String) : Prop := ∃ rest, key = labelListenerMntPrefix ++ rest

/-- A Listener asks for no extra label that is one of mounts. -/
def Listener.Plain (listener : Listener) : Prop :=
  ∀ key, UsesMountPrefix key → listener.spec.extraPodSelectorLabels[key]? = none

/-- A publication labelled a pod for a Listener. -/
def Mounted (history : History) (listener : Listener) (key : ObjectKey) : Prop :=
  ∃ original : Pod, original.metadata.key = key ∧
    .patchPod original (original.mounting listener) ∈ history.log

/-- The key of a mount label is one. -/
theorem usesMountPrefix_mountLabelKey (uid : String) : UsesMountPrefix (mountLabelKey uid) :=
  ⟨_, rfl⟩

/-- The selector of a plain Listener has its mount label and the extra labels. -/
theorem selects_getPodSelectorLabels {listener : Listener} (plain : listener.Plain)
    (labels : StringMap String) :
    Selects (getPodSelectorLabels listener) labels ↔
      labels[mountLabelKey listener.metadata.uid]? = some listener.metadata.name ∧
        Selects listener.spec.extraPodSelectorLabels labels := by
  have own := plain _ (usesMountPrefix_mountLabelKey listener.metadata.uid)
  constructor
  · intro selects
    refine ⟨selects _ _ ?_, fun key value extra => selects key value ?_⟩
    · simp [getPodSelectorLabels, listenerMountPodLabels, own]
    · simp [getPodSelectorLabels, extra]
  · rintro ⟨mounted, extras⟩ key value selected
    simp only [getPodSelectorLabels, StringMap.get_copy, listenerMountPodLabels,
      StringMap.get_single] at selected
    cases extra : listener.spec.extraPodSelectorLabels[key]? with
    | some wanted =>
      rw [extra, Option.some_or, Option.some.injEq] at selected
      exact extras key value (selected ▸ extra)
    | none =>
      rw [extra, Option.none_or] at selected
      split at selected
      · rename_i same
        rw [← same, mounted]
        exact selected
      · cases selected

/-- Labelling a pod for a Listener does not change whether the selector of another one matches. -/
theorem selects_mounting {history : History} (identified : Identified history)
    {listener other : Listener} (known : Known history listener) (otherKnown : Known history other)
    (different : listener.metadata.uid ≠ other.metadata.uid) (plain : other.Plain) (pod : Pod) :
    Selects (getPodSelectorLabels other) (pod.mounting listener).metadata.labels ↔
      Selects (getPodSelectorLabels other) pod.metadata.labels := by
  have keys : mountLabelKey listener.metadata.uid ≠ mountLabelKey other.metadata.uid := fun same =>
    different (mountLabelKey_inj (identified.canonical _ known)
      (identified.canonical _ otherKnown) same)
  have absent := plain _ (usesMountPrefix_mountLabelKey listener.metadata.uid)
  have extras : Selects other.spec.extraPodSelectorLabels (pod.mounting listener).metadata.labels ↔
      Selects other.spec.extraPodSelectorLabels pod.metadata.labels := by
    refine forall₂_congr fun key value => imp_congr_right fun wanted => ?_
    rw [Pod.mounting_labels, if_neg]
    rintro rfl
    rw [absent] at wanted
    cases wanted
  rw [selects_getPodSelectorLabels plain, selects_getPodSelectorLabels plain, extras,
    Pod.mounting_labels, if_neg keys]

/-- A run of the node plugin or of the controller. -/
inductive Job where
  | publish (n : NodeServer) (request : NodePublishVolumeRequest)
  | reconcile (runtime : ControllerRuntime) (key : ObjectKey)

/-- What a run does; its result is not looked at. -/
def Job.program : Job → Prog Unit
  | .publish n request => do
    let _ ← nodePublishVolume n request
    return ()
  | .reconcile runtime key => do
    let _ ← ListenerOperator.reconcile runtime key
    return ()

/-- The writes of runs that have to do with selection, after the given calls: a pod is labelled for
a Listener that was returned, on a copy that was read, a Service is written for a Listener that was
returned, under its key, and a new Listener asks for no extra labels. -/
def WorkCall (transcript : Transcript) : Call → Prop
  | .createListener sent => sent.spec.extraPodSelectorLabels = ∅
  | .patchPod original modified => (∃ key, Answered transcript (.getPod key) original) ∧
    ∃ listener, Resolved transcript listener ∧ modified = original.mounting listener
  | .createService service => ∃ listener, Resolved transcript listener ∧
    service.metadata.key = listener.metadata.key ∧
      service.spec.selector = getPodSelectorLabels listener
  | .updateService service => ∃ listener existing, Resolved transcript listener ∧
    Answered transcript (.getService listener.metadata.key) existing ∧
      service.metadata.key = existing.metadata.key ∧
        service.spec.selector = getPodSelectorLabels listener
  | _ => True

/-- Calls of a publication are such work. -/
theorem workCall_of_publication {request : NodePublishVolumeRequest} {transcript : Transcript}
    {call : Call} (made : call.kind = .file ∨ ObjectCall request transcript call) :
    WorkCall transcript call := by
  have objects : call.kind ≠ .file → ObjectCall request transcript call := made.resolve_left
  cases call with
  | createListener sent => exact objects (by simp [Call.kind])
  | patchPod original modified =>
    obtain ⟨read, rest⟩ := objects (by simp [Call.kind])
    exact ⟨⟨_, read⟩, rest⟩
  | createService service => cases objects (by simp [Call.kind])
  | updateService service => cases objects (by simp [Call.kind])
  | _ => trivial

/-- A Service is created or updated by such work, if it is mutated to have the selector of a
Listener that was returned. -/
theorem createOrUpdate_follows {listener : Listener} {desired : Service}
    {mutate : Service → Except Failure Service} {transcript : Transcript}
    (resolved : Resolved transcript listener)
    (key : desired.metadata.key = listener.metadata.key)
    (mutates : ∀ base mutated, mutate base = .ok mutated →
      mutated.metadata.key = base.metadata.key ∧
        mutated.spec.selector = getPodSelectorLabels listener) :
    (createOrUpdate desired mutate).Follows WorkCall (fun _ _ => True) transcript := by
  refine ⟨trivial, fun reply => ?_⟩
  cases reply with
  | ok existing =>
    refine (follows_lift (mutate existing)).bind ?_
    rintro _ mutated - ⟨rfl, mutation⟩
    split
    · trivial
    · refine (follows_ask ?_).bind fun _ _ _ _ => trivial
      obtain ⟨same, selector⟩ := mutates existing mutated mutation
      refine ⟨listener, existing, resolved.mono (List.suffix_cons _ _), ?_, same, selector⟩
      rw [← key]
      exact List.mem_cons_self
  | error failure =>
    dsimp only
    split
    · refine (follows_lift (mutate desired)).bind ?_
      rintro _ mutated - ⟨rfl, mutation⟩
      refine (follows_ask ?_).bind fun _ _ _ _ => trivial
      obtain ⟨same, selector⟩ := mutates desired mutated mutation
      exact ⟨listener, resolved.mono (List.suffix_cons _ _), same.trans key, selector⟩
    · trivial

/-- The Service of a Listener is created or updated by such work. -/
theorem createService_follows (runtime : ControllerRuntime) {listener : Listener}
    {transcript : Transcript} (resolved : Resolved transcript listener) :
    (createService runtime listener).Follows WorkCall (fun _ _ => True) transcript := by
  have asked : (getListenerClass listener).Follows WorkCall
      (fun later found => later = ⟨.getListenerClass { name := listener.spec.className },
        .ok found⟩ :: transcript) transcript := follows_ask trivial
  refine asked.bind ?_
  rintro _ listenerClass continues rfl
  split
  · trivial
  · refine (follows_lift (desiredService listener listenerClass)).bind ?_
    rintro _ desired - ⟨rfl, wanted⟩
    have updated := createOrUpdate_follows (resolved.mono continues) (desiredService_key wanted)
      fun base mutated (ok : mutateService runtime listener desired base = .ok mutated) => by
        have selector := desiredService_selector wanted
        obtain ⟨references, -, rfl⟩ := mutateService_ok ok
        exact ⟨rfl, selector⟩
    refine updated.bind fun later operation _ _ => ?_
    split <;> trivial

/-- Runs make such calls. -/
theorem job_follows (job : Job) : job.program.Follows WorkCall (fun _ _ => True) [] := by
  cases job with
  | publish n request =>
    refine ((nodePublishVolume_follows n request).weaken
      fun _ _ made => workCall_of_publication made).bind fun _ _ _ _ => trivial
  | reconcile runtime key =>
    have reconciled : (reconcile runtime key).Follows WorkCall (fun _ _ => True) [] := by
      refine ⟨trivial, fun reply => ?_⟩
      cases reply with
      | error failure =>
        dsimp only
        split <;> trivial
      | ok listener =>
        refine (createService_follows runtime (Or.inl ⟨key, List.mem_cons_self⟩)).bind
          fun later result _ _ => ?_
        split
        · trivial
        · refine ((updateListenerStatus_ensures listener).follows ?_ later).bind
            fun _ _ _ _ => trivial
          rintro _ call (reads | ⟨sent, rfl⟩)
          · cases call <;> trivial
          · trivial
    exact reconciled.bind fun _ _ _ _ => trivial

/-- A history in which selection is by mounts: mount labels stay, Listeners ask for no mount label
as an extra one, a mount label on a pod is of a publication, and Services are written for
Listeners. -/
structure Selective (history : History) : Prop where
  mounts : MountsKept history
  plain : ∀ listener, Known history listener → listener.Plain
  labels : ∀ version key pod label, history.Has version → version.pods.get key = some pod →
    UsesMountPrefix label → pod.metadata.labels[label]? ≠ none →
      ∃ listener, Known history listener ∧ Mounted history listener key ∧
        label = mountLabelKey listener.metadata.uid
  services : ∀ service, .createService service ∈ history.log ∨
    .updateService service ∈ history.log → ∃ listener, Known history listener ∧
      service.metadata.key = listener.metadata.key ∧
        service.spec.selector = getPodSelectorLabels listener

/-- What others do meanwhile: Listeners come and go, still told apart by their identifiers and
without mount labels as extra ones, and pods are created and changed, but not deleted, and have the
mount labels they had. -/
def Elsewhere (before after : History) : Prop :=
  ∃ next, after = before.commit next ∧ Identified after ∧
    (∀ listener, Known after listener → listener.Plain) ∧
    (∀ key, before.current.pods.get key ≠ none → next.pods.get key ≠ none) ∧
    ∀ key pod label, next.pods.get key = some pod → UsesMountPrefix label →
      pod.metadata.labels[label]? =
        (before.current.pods.get key).bind fun old => old.metadata.labels[label]?

/-- What a run relies on and guarantees: nothing is forgotten. -/
def workRules : Rules History where
  invariant := Selective
  rely before after := before.Extends after
  guarantee before after := before.Extends after
  rely_refl := .refl
  rely_trans := .trans

/-- A mount is remembered. -/
theorem Mounted.mono {before after : History} {listener : Listener} {key : ObjectKey}
    (mounted : Mounted before listener key) (extended : before.Extends after) :
    Mounted after listener key := by
  obtain ⟨original, same, logged⟩ := mounted
  exact ⟨original, same, extended.log _ logged⟩

/-- A mount label that was there is still one of a publication later. -/
theorem Selective.labels_later {before after : History} {version : Cluster} {key : ObjectKey}
    {pod : Pod} {label : String} (selective : Selective before) (extended : before.Extends after)
    (had : before.Has version) (stored : version.pods.get key = some pod)
    (uses : UsesMountPrefix label) (labelled : pod.metadata.labels[label]? ≠ none) :
    ∃ listener, Known after listener ∧ Mounted after listener key ∧
      label = mountLabelKey listener.metadata.uid := by
  obtain ⟨listener, known, mounted, same⟩ :=
    selective.labels version key pod label had stored uses labelled
  exact ⟨listener, known.mono extended, mounted.mono extended, same⟩

/-- A Listener of the same identifier and name is mounted alike. -/
theorem Mounted.congr {history : History} {first second : Listener} {key : ObjectKey}
    (mounted : Mounted history first key) (uid : first.metadata.uid = second.metadata.uid)
    (name : first.metadata.name = second.metadata.name) : Mounted history second key := by
  obtain ⟨original, same, logged⟩ := mounted
  refine ⟨original, same, ?_⟩
  have labels : listenerMountPodLabels second = listenerMountPodLabels first := by
    rw [listenerMountPodLabels, listenerMountPodLabels, uid, name]
  rw [Pod.mounting, labels]
  exact logged

/-- The selector of a known Listener matches the pods that were labelled for it and carry its extra
labels. -/
theorem Selective.selects_iff {history : History} (selective : Selective history)
    {listener : Listener} (known : Known history listener) {key : ObjectKey} {pod : Pod}
    (stored : history.current.pods.get key = some pod) :
    Selects (getPodSelectorLabels listener) pod.metadata.labels ↔
      Mounted history listener key ∧
        Selects listener.spec.extraPodSelectorLabels pod.metadata.labels := by
  rw [selects_getPodSelectorLabels (selective.plain listener known)]
  refine and_congr_left fun _ => ⟨fun label => ?_, fun mounted => ?_⟩
  · obtain ⟨other, otherKnown, mounted, same⟩ := selective.labels _ key pod _ history.has_current
      stored (usesMountPrefix_mountLabelKey listener.metadata.uid) (by simp [label])
    have identified := selective.mounts.identified
    have uid := mountLabelKey_inj (identified.canonical _ known)
      (identified.canonical _ otherKnown) same
    exact mounted.congr uid.symm (identified.name_eq otherKnown known same.symm)
  · obtain ⟨original, same, logged⟩ := mounted
    obtain ⟨now, held, label⟩ := selective.mounts.carried known logged
    rw [same, stored] at held
    rw [Option.some.inj held]
    exact label

section Call

variable {history : History} {transcript : Transcript} {call : Call}

/-- A run labels a version of a pod for a known Listener. -/
theorem WorkCall.mounting {original modified : Pod}
    (made : WorkCall transcript (.patchPod original modified))
    (recalls : Recalls transcript history) : Mounting history original modified := by
  obtain ⟨⟨key, read⟩, listener, resolved, same⟩ := made
  obtain ⟨keyed, version, had, stored⟩ := recalls.pod read
  exact ⟨⟨version, had, by rw [keyed]; exact stored⟩, listener, resolved.known recalls, same⟩

/-- A run writes a Service for a known Listener. -/
theorem WorkCall.service {service : Service} (made : WorkCall transcript call)
    (recalls : Recalls transcript history)
    (writes : call = .createService service ∨ call = .updateService service) :
    ∃ listener, Known history listener ∧ service.metadata.key = listener.metadata.key ∧
      service.spec.selector = getPodSelectorLabels listener := by
  rcases writes with rfl | rfl
  · obtain ⟨listener, resolved, key, selector⟩ := made
    exact ⟨listener, resolved.known recalls, key, selector⟩
  · obtain ⟨listener, existing, resolved, read, key, selector⟩ := made
    obtain ⟨version, -, held⟩ := recalls.stored _ _ read (by simp [Call.kind])
    have same : existing.metadata.key = listener.metadata.key := version.services.keyed held
    exact ⟨listener, resolved.known recalls, key.trans same, selector⟩

/-- A run creates plain Listeners and leaves plain ones so. -/
theorem WorkCall.plain (made : WorkCall transcript call)
    (plain : ∀ listener, Known history listener → listener.Plain) (api : ApiServer)
    {listener : Listener}
    (known : Known (history.record call (serve api call history.current).2) listener) :
    listener.Plain := by
  rcases known_record.mp known with stored | earlier
  · rcases serve_listener_origin stored with ⟨old, held, -, spec⟩ | ⟨-, sent, rfl, -, spec⟩
    · intro key uses
      rw [← spec]
      exact plain old (known_current held) key uses
    · intro key uses
      have empty : sent.spec.extraPodSelectorLabels = ∅ := made
      rw [← spec, empty, Std.ExtTreeMap.getElem?_empty]
  · exact plain listener earlier

/-- A mount label on a pod after a call was there before, or the call puts it there for a known
Listener. -/
theorem serve_mount_label {api : ApiServer} {value : Value call}
    (replied : (serve api call history.current).1 = .ok value)
    (mounts : ∀ original modified, call = .patchPod original modified →
      Mounting history original modified)
    {key : ObjectKey} {pod : Pod} {label : String}
    (stored : (serve api call history.current).2.pods.get key = some pod)
    (labelled : pod.metadata.labels[label]? ≠ none) :
    (∃ old, history.current.pods.get key = some old ∧ old.metadata.labels[label]? ≠ none) ∨
      ∃ original listener, call = .patchPod original (original.mounting listener) ∧
        original.metadata.key = key ∧ Known history listener ∧
          label = mountLabelKey listener.metadata.uid := by
  by_cases part : call.part = some .pods
  · cases call with
    | patchPod original modified =>
      obtain ⟨-, listener, known, rfl⟩ := mounts original modified rfl
      obtain ⟨old, held, labels, sameKey, -, -, inserted⟩ := serve_patchPod replied
      rw [inserted, Store.get_insert] at stored
      split at stored
      · rename_i same
        obtain rfl := Option.some.inj stored
        have oldKey : old.metadata.key = original.metadata.key := history.current.pods.keyed held
        by_cases own : label = mountLabelKey listener.metadata.uid
        · exact Or.inr ⟨original, listener, rfl, by rw [same, sameKey, oldKey], known, own⟩
        · refine Or.inl ⟨old, ?_, ?_⟩
          · rw [same, sameKey, oldKey]
            exact held
          · have unchanged : original.metadata.labels[label]? =
                (original.mounting listener).metadata.labels[label]? := by
              rw [Pod.mounting_labels, if_neg (Ne.symm own)]
            rwa [labels, patchLabels, labelPatch, merge_diff_get_of_eq _ unchanged] at labelled
      · exact Or.inl ⟨pod, stored, labelled⟩
    | _ => cases part
  · rw [(serve_sameBut api call history.current).pods part] at stored
    exact Or.inl ⟨pod, stored, labelled⟩

/-- One call of a run keeps the selection by mounts. -/
theorem Selective.step (selective : Selective history) (made : WorkCall transcript call)
    (recalls : Recalls transcript history) {reply : Reply call} {after : History}
    (answered : cached call history reply after) : Selective after := by
  have mounting : ∀ original modified, call = .patchPod original modified →
      Mounting history original modified := fun original modified same =>
    WorkCall.mounting (same ▸ made) recalls
  have mounts := selective.mounts.call answered mounting
  have extended := cached_extends answered
  rcases cached_cases answered with idle | ⟨-, api, value, fresh, replied, recorded, -⟩
  · rw [idle.unchanged]
    exact selective
  refine ⟨mounts, fun listener known => ?_, ?_, ?_⟩
  · rw [recorded] at known
    exact made.plain selective.plain api known
  · intro version key pod label had stored uses labelled
    rcases (history.has_record call _ version).mp (recorded ▸ had) with rfl | before
    · rcases serve_mount_label replied mounting stored labelled with
        ⟨old, held, present⟩ | ⟨original, listener, rfl, same, known, own⟩
      · exact selective.labels_later extended history.has_current held uses present
      · refine ⟨listener, known.mono extended, ⟨original, same, ?_⟩, own⟩
        rw [recorded]
        exact List.mem_cons_self
    · exact selective.labels_later extended before stored uses labelled
  · intro service logged
    have known : (.createService service ∈ history.log ∨ .updateService service ∈ history.log) ∨
        call = .createService service ∨ call = .updateService service := by
      rw [recorded] at logged
      rcases logged with created | updated
      · rcases List.mem_cons.mp created with same | earlier
        · exact Or.inr (Or.inl same.symm)
        · exact Or.inl (Or.inl earlier)
      · rcases List.mem_cons.mp updated with same | earlier
        · exact Or.inr (Or.inr same.symm)
        · exact Or.inl (Or.inr earlier)
    rcases known with earlier | writes
    · obtain ⟨listener, known, rest⟩ := selective.services service earlier
      exact ⟨listener, known.mono extended, rest⟩
    · obtain ⟨listener, known, rest⟩ := made.service recalls writes
      exact ⟨listener, known.mono extended, rest⟩

end Call

/-- Others keep the selection by mounts. -/
theorem Elsewhere.selective {before after : History} (elsewhere : Elsewhere before after)
    (selective : Selective before) : Selective after := by
  obtain ⟨next, rfl, identified, plain, remain, labels⟩ := elsewhere
  have extended := before.extends_commit next
  refine ⟨selective.mounts.commit identified ?_, plain, ?_, ?_⟩
  · intro key pod stored
    obtain ⟨now, held⟩ := Option.ne_none_iff_exists'.mp (remain key (by simp [stored]))
    refine ⟨now, held, fun uid value found => Or.inl ?_⟩
    rw [labels key now _ held (usesMountPrefix_mountLabelKey uid), stored]
    exact found
  · intro version key pod label had stored uses labelled
    rcases (before.has_commit next version).mp had with rfl | past
    · rw [labels key pod label stored uses] at labelled
      cases held : before.current.pods.get key with
      | none => simp [held] at labelled
      | some old =>
        rw [held, Option.bind_some] at labelled
        exact selective.labels_later extended before.has_current held uses labelled
    · exact selective.labels_later extended past stored uses labelled
  · intro service logged
    obtain ⟨listener, known, rest⟩ := selective.services service logged
    exact ⟨listener, known.mono extended, rest⟩

/-- Runs tolerate each other and what others do. -/
theorem workRules_compatible {ι : Type} :
    Pool.Compatible (fun _ : ι => workRules) Elsewhere where
  shared _ _ _ selective := selective
  tolerated _ _ _ _ _ _ _ extended := extended
  environment_invariant _ _ _ selective elsewhere := elsewhere.selective selective
  environment_tolerated := by
    rintro _ before _ _ ⟨next, rfl, -⟩
    exact before.extends_commit next

/-- A run is safe among others. -/
theorem job_safe (job : Job) (history : History) :
    job.program.Safe cached workRules (fun _ _ => True) history := by
  refine Program.Safe.mono (fun _ _ _ _ => trivial)
    ((job_follows job).safe ?_ ?_ (Recalls.nil history))
  · intro transcript before after recalls extended _
    exact recalls.mono extended
  · intro transcript call before reply after made selective recalls answered
    exact ⟨selective.step made recalls answered, cached_extends answered, recalls.call answered⟩

/-- A cluster in which no pod has a mount label yet. -/
structure Cluster.Unmounted (cluster : Cluster) : Prop where
  identified : Identified { current := cluster }
  plain : ∀ key listener, cluster.listeners.get key = some listener → listener.Plain
  pods : ∀ key pod label, cluster.pods.get key = some pod → UsesMountPrefix label →
    pod.metadata.labels[label]? = none

/-- Without mount labels selection is by mounts. -/
theorem Cluster.Unmounted.selective {cluster : Cluster} (unmounted : cluster.Unmounted) :
    Selective { current := cluster } := by
  have only : ∀ version, (⟨cluster, [], []⟩ : History).Has version → version = cluster := by
    rintro version (rfl | past)
    · rfl
    · cases past
  refine ⟨⟨unmounted.identified, ?_, ?_⟩, ?_, ?_, ?_⟩
  · intro version key pod had stored
    obtain rfl := only version had
    exact ⟨pod, by rw [version.pods.keyed stored]; exact stored, .refl pod⟩
  · intro original modified logged
    cases logged
  · rintro listener ⟨version, had, stored⟩
    obtain rfl := only version had
    exact unmounted.plain _ listener stored
  · intro version key pod label had stored uses labelled
    obtain rfl := only version had
    exact absurd (unmounted.pods key pod label stored uses) labelled
  · rintro service (logged | logged) <;> cases logged

/-- Whatever publications and reconciliations do, in any interleaving and with reads from any
version: each Service is written with the selector of a Listener of its name; the selector of a
Listener matches the pods that a publication labelled for that Listener and that carry its extra
labels; and labelling a pod for one Listener does not make it match another. -/
theorem selection_by_mounts {ι : Type} (job : ι → Job) (start : Cluster)
    (unmounted : start.Unmounted) (pool : Pool ι Call Reply Failure Unit History)
    (reached : Pool.Reaches cached Elsewhere
      ⟨{ current := start }, fun index => (job index).program⟩ pool) :
    (∀ service, .createService service ∈ pool.state.log ∨
      .updateService service ∈ pool.state.log → ∃ listener, Known pool.state listener ∧
        service.metadata.key = listener.metadata.key ∧
          service.spec.selector = getPodSelectorLabels listener) ∧
    (∀ listener key pod, Known pool.state listener →
      pool.state.current.pods.get key = some pod →
        (Selects (getPodSelectorLabels listener) pod.metadata.labels ↔
          Mounted pool.state listener key ∧
            Selects listener.spec.extraPodSelectorLabels pod.metadata.labels)) ∧
    (∀ listener other, Known pool.state listener → Known pool.state other →
      listener.metadata.uid ≠ other.metadata.uid → ∀ pod : Pod,
        (Selects (getPodSelectorLabels other) (pod.mounting listener).metadata.labels ↔
          Selects (getPodSelectorLabels other) pod.metadata.labels)) := by
  have verified : Pool.Verified cached (fun _ : ι => workRules) (fun _ _ _ => True)
      ⟨{ current := start }, fun index => (job index).program⟩ :=
    ⟨fun _ => unmounted.selective, fun index => job_safe (job index) _⟩
  have selective : Selective pool.state :=
    Pool.invariant_of_reaches workRules_compatible (fun _ _ holds => holds)
      (fun _ _ holds elsewhere => elsewhere.selective holds) verified unmounted.selective reached
  refine ⟨selective.services, ?_, ?_⟩
  · intro listener key pod known stored
    exact selective.selects_iff known stored
  · intro listener other known otherKnown different pod
    exact selects_mounting selective.mounts.identified known otherKnown different
      (selective.plain other otherKnown) pod

/-- A cluster with a pod and a Listener of a class, before anything ran. -/
def unmountedCluster : Cluster :=
  { webVolumeCluster with listenerClasses := .ofList [webClass .nodePort .hostname] }

/-- The runs for the Listener of `unmountedCluster`: its reconciliation and its publication. -/
def webJob : Bool → Job
  | false => .reconcile .standard { ns := "default", name := "web" }
  | true => .publish .standard webRequest

/-- The only Listener of `unmountedCluster`. -/
theorem unmountedCluster_listener {key : ObjectKey} {listener : Listener}
    (stored : unmountedCluster.listeners.get key = some listener) :
    listener = webListenerReady := by
  rw [← unmountedCluster.listeners.keyed stored] at stored
  have listed := (Store.mem_values _ listener).mpr stored
  have values : unmountedCluster.listeners.values = [webListenerReady] := rfl
  rw [values] at listed
  exact List.mem_singleton.mp listed

/-- `unmountedCluster` has no mount labels. -/
theorem unmountedCluster_unmounted : unmountedCluster.Unmounted where
  identified := by
    have only : ∀ listener, Known ⟨unmountedCluster, [], []⟩ listener →
        listener = webListenerReady := by
      rintro listener ⟨version, rfl | past, stored⟩
      · exact unmountedCluster_listener stored
      · cases past
    refine ⟨fun listener known => ?_, fun first second left right _ => ?_⟩
    · rw [only listener known]
      decide +kernel
    · rw [only first left, only second right]
  plain := by
    intro key listener stored label _
    rw [unmountedCluster_listener stored]
    exact Std.ExtTreeMap.getElem?_empty
  pods := by
    intro key pod label stored _
    rw [← unmountedCluster.pods.keyed stored] at stored
    have listed := (Store.mem_values _ pod).mpr stored
    have values : unmountedCluster.pods.values = [webPod] := rfl
    rw [values] at listed
    rw [List.mem_singleton.mp listed]
    exact Std.ExtTreeMap.getElem?_empty

/-- An identifier that no Listener of `unmountedCluster` has. -/
def unmountedUid : String := "6d5c4b3a-2f1e-4d0c-9b8a-7e6f5d4c3b2a"

/-- The reconciliation of `webJob`. -/
def webReconciled : Except Failure Unit × History :=
  (webJob false).program.run (prompt unmountedUid) { current := unmountedCluster }

/-- The publication of `webJob` after the reconciliation. -/
def webMounted : Except Failure Unit × History :=
  (webJob true).program.run (prompt unmountedUid) webReconciled.2

/-- No Listener of `unmountedCluster` has the identifier. -/
theorem unmountedCluster_undisturbed :
    Undisturbed unmountedCluster unmountedUid { current := unmountedCluster } := by
  refine .start (by decide +kernel) fun key listener stored => ?_
  rw [unmountedCluster_listener stored]
  decide

/-- `webListenerReady`, deleted and created again. -/
def recreatedListener : Listener := { webListenerReady with
  metadata := { webListenerReady.metadata with uid := unmountedUid } }

/-- The cluster after both runs of `webJob`, with the Listener deleted and created again. -/
def recreatedCluster : Cluster :=
  { webMounted.2.current with listeners := .ofList [recreatedListener] }

/-- Both runs of `webJob` can be served to their end, and then the Listener created again. -/
theorem webJob_reaches :
    ∃ pool : Pool Bool Call Reply Failure Unit History,
      Pool.Reaches cached Elsewhere
        ⟨{ current := unmountedCluster }, fun index => (webJob index).program⟩ pool ∧
      pool.state = webMounted.2.commit recreatedCluster := by
  obtain ⟨middle, first, middleState, -, middleOthers, still⟩ :=
    Pool.reaches_run Elsewhere Undisturbed.prompt
      ⟨{ current := unmountedCluster }, fun index => (webJob index).program⟩ false
      unmountedCluster_undisturbed
  obtain ⟨pool, second, state, -, -, undisturbed⟩ :=
    Pool.reaches_run Elsewhere Undisturbed.prompt middle true still
  rw [middleOthers true Bool.false_ne_true.symm, middleState] at state
  have ended : pool.state = webMounted.2 := state
  rw [ended] at undisturbed
  -- two Listeners are known then, the old one and the new one
  have known : ∀ listener, Known (webMounted.2.commit recreatedCluster) listener →
      listener = webListenerReady ∨ listener = recreatedListener := by
    rintro listener ⟨version, had, stored⟩
    rcases (webMounted.2.has_commit _ version).mp had with rfl | past
    · have listed := (Store.mem_values _ listener).mpr stored
      have values : recreatedCluster.listeners.values = [recreatedListener] := rfl
      rw [values] at listed
      exact Or.inr (List.mem_singleton.mp listed)
    · rw [undisturbed.listeners version past] at stored
      exact Or.inl (unmountedCluster_listener stored)
  have elsewhere : Elsewhere pool.state (webMounted.2.commit recreatedCluster) := by
    refine ⟨recreatedCluster, by rw [ended], ⟨fun listener isKnown => ?_, ?_⟩, ?_, ?_, ?_⟩
    · rcases known listener isKnown with rfl | rfl <;> decide +kernel
    · intro one other left right _
      rcases known one left with rfl | rfl <;> rcases known other right with rfl | rfl <;> rfl
    · intro listener isKnown label _
      rcases known listener isKnown with rfl | rfl <;> exact Std.ExtTreeMap.getElem?_empty
    · rw [ended]
      exact fun _ present => present
    · intro key pod label stored _
      have held : webMounted.2.current.pods.get key = some pod := stored
      rw [ended, held]
      rfl
  exact ⟨_, (first.trans second).tail (.environment pool _ elsewhere), rfl⟩

/-- The Service of the Listener of `unmountedCluster` is written and selects the pod, which was
labelled for it. When the Listener is deleted and created again, the pod is not selected for the new
one. -/
theorem selection_web :
    ∃ (pool : Pool Bool Call Reply Failure Unit History) (service : Service) (pod : Pod),
      Pool.Reaches cached Elsewhere
        ⟨{ current := unmountedCluster }, fun index => (webJob index).program⟩ pool ∧
      .createService service ∈ pool.state.log ∧
      (∃ listener, Known pool.state listener ∧
        service.spec.selector = getPodSelectorLabels listener) ∧
      pool.state.current.pods.get webPod.metadata.key = some pod ∧
      Selects (getPodSelectorLabels webListenerReady) pod.metadata.labels ∧
      Mounted pool.state webListenerReady webPod.metadata.key ∧
      pool.state.current.listeners.get webListenerReady.metadata.key = some recreatedListener ∧
      ¬ Selects (getPodSelectorLabels recreatedListener) pod.metadata.labels ∧
      ¬ Mounted pool.state recreatedListener webPod.metadata.key := by
  obtain ⟨pool, reached, state⟩ := webJob_reaches
  obtain ⟨services, selects, -⟩ := selection_by_mounts webJob unmountedCluster
    unmountedCluster_unmounted pool reached
  have created : ∃ service, .createService service ∈ webMounted.2.log := by
    have listed : (webMounted.2.log.any fun
        | .createService _ => true
        | _ => false) = true := by decide +kernel
    obtain ⟨call, among, creates⟩ := List.any_eq_true.mp listed
    cases call with
    | createService service => exact ⟨service, among⟩
    | _ => cases creates
  obtain ⟨service, logged⟩ := created
  have labels : (webMounted.2.current.pods.get webPod.metadata.key).map (fun pod =>
      (pod.metadata.labels[mountLabelKey webListenerReady.metadata.uid]?,
        pod.metadata.labels[mountLabelKey recreatedListener.metadata.uid]?)) =
      some (some "web", none) := by
    decide +kernel
  obtain ⟨pod, stored, labelled⟩ := Option.map_eq_some_iff.mp labels
  obtain ⟨own, other⟩ := Prod.mk.inj labelled
  have held : webMounted.2.current.listeners.get webListenerReady.metadata.key =
      some webListenerReady := by
    decide +kernel
  have known : Known pool.state webListenerReady := by
    rw [state]
    exact (known_current held).mono (webMounted.2.extends_commit recreatedCluster)
  have again : pool.state.current.listeners.get webListenerReady.metadata.key =
      some recreatedListener := by
    rw [state]
    rfl
  have podStored : pool.state.current.pods.get webPod.metadata.key = some pod := by
    rw [state]
    exact stored
  have isLogged : .createService service ∈ pool.state.log := by
    rw [state]
    exact logged
  have plain : webListenerReady.Plain := fun _ _ => Std.ExtTreeMap.getElem?_empty
  have selected : Selects (getPodSelectorLabels webListenerReady) pod.metadata.labels := by
    refine (selects_getPodSelectorLabels plain _).mpr ⟨own, fun key value extra => ?_⟩
    cases (Std.ExtTreeMap.getElem?_empty (a := key)).symm.trans extra
  have unselected : ¬ Selects (getPodSelectorLabels recreatedListener) pod.metadata.labels := by
    intro matched
    have plain : recreatedListener.Plain := fun _ _ => Std.ExtTreeMap.getElem?_empty
    have label := ((selects_getPodSelectorLabels plain pod.metadata.labels).mp matched).1
    rw [other] at label
    cases label
  obtain ⟨listener, isKnown, -, selector⟩ := services service (Or.inl isLogged)
  have mounted := ((selects webListenerReady _ pod known podStored).mp selected).1
  refine ⟨pool, service, pod, reached, isLogged, ⟨listener, isKnown, selector⟩, podStored, selected,
    mounted, again, unselected, fun mounts => unselected ?_⟩
  refine (selects recreatedListener _ pod (known_current again) podStored).mpr ⟨mounts, ?_⟩
  intro key value extra
  cases (Std.ExtTreeMap.getElem?_empty (a := key)).symm.trans extra

end ListenerOperator
