import ListenerOperator.Csi.Node
import ListenerOperator.Verif.Instances
import ListenerOperator.Verif.Server

/-!
# Labels of volumes

The node plugin labels a volume with the Listener it resolved, and the controller reads the
Listener from the labels of a changed volume. The two ends name the label of the Listener's name
by different keys.
-/

namespace ListenerOperator

open Interaction MergePatch

/-- The labels a volume gets for a Listener are under the keys of its name and its namespace. -/
theorem listenerMetaLabels_get (listener : Listener) (key : String) :
    (listenerMetaLabels listener)[key]? =
      if labelListenerNamespace = key then some listener.metadata.ns
      else if labelListenerName = key then some listener.metadata.name else none := by
  rw [listenerMetaLabels, StringMap.get_insert, StringMap.get_single]

/-- A labelled volume is stored with its own labels and those of the Listener. -/
theorem patchPVLabelsWithListener_run (api : ApiServer) {cluster : Cluster} {pv : PersistentVolume}
    (listener : Listener) (stored : cluster.pvs.get pv.metadata.name = some pv) :
    ∃ patched after, (patchPVLabelsWithListener pv listener).run (serve api) cluster =
        (.ok patched, after) ∧
      patched.metadata.labels = pv.metadata.labels.copy (listenerMetaLabels listener) := by
  refine ⟨_, _, run_ask_ok _ (by simp only [serve, stored]; rfl), ?_⟩
  simp

/-- The controller reads a Listener from a volume by the namespace label and the name
annotation key. -/
theorem handlePVChanges_eq_singleton (pv : PersistentVolume) (request : ObjectKey) :
    handlePVChanges pv = [request] ↔ pv.metadata.labels[labelListenerNamespace]? = some request.ns ∧
      pv.metadata.labels[annotationListenerName]? = some request.name := by
  obtain ⟨ns, name⟩ := request
  rw [handlePVChanges]
  cases pv.metadata.labels[labelListenerNamespace]? with
  | none => simp
  | some found => cases pv.metadata.labels[annotationListenerName]? <;> simp

/-- After the labelling of a volume the controller reads exactly the Listener from it, with all
other labels unchanged, if and only if the volume had the Listener's name under the key that the
controller reads before. -/
theorem handlePVChanges_labelled_iff (api : ApiServer) (cluster : Cluster) (pv : PersistentVolume)
    (listener : Listener) (stored : cluster.pvs.get pv.metadata.name = some pv) :
    ∃ patched after, (patchPVLabelsWithListener pv listener).run (serve api) cluster =
        (.ok patched, after) ∧
      ((handlePVChanges patched = [listener.metadata.key] ∧
          ∀ key, key ≠ labelListenerName → key ≠ labelListenerNamespace →
            patched.metadata.labels[key]? = pv.metadata.labels[key]?) ↔
        pv.metadata.labels[annotationListenerName]? = some listener.metadata.name) := by
  obtain ⟨patched, after, ran, labels⟩ := patchPVLabelsWithListener_run api listener stored
  refine ⟨patched, after, ran, ?_⟩
  have labelled : ∀ key : String, patched.metadata.labels[key]? =
      (if labelListenerNamespace = key then some listener.metadata.ns
        else if labelListenerName = key then some listener.metadata.name else none).or
          pv.metadata.labels[key]? := by
    intro key
    rw [labels, StringMap.get_copy, listenerMetaLabels_get]
  have others : ∀ key, key ≠ labelListenerName → key ≠ labelListenerNamespace →
      patched.metadata.labels[key]? = pv.metadata.labels[key]? := by
    intro key name ns
    rw [labelled, if_neg (Ne.symm ns), if_neg (Ne.symm name), Option.none_or]
  have namespaced : patched.metadata.labels[labelListenerNamespace]? = some listener.metadata.ns := by
    rw [labelled, if_pos rfl, Option.some_or]
  have named : patched.metadata.labels[annotationListenerName]? =
      pv.metadata.labels[annotationListenerName]? := others _ (by decide) (by decide)
  rw [handlePVChanges_eq_singleton, named, namespaced, and_iff_left others]
  exact and_iff_right rfl

/-- A volume that had the name of its Listener before gets a request for it. -/
theorem handlePVChanges_annotated :
    ∃ patched after, (patchPVLabelsWithListener
        { metadata := { name := "pv-1", labels := .single annotationListenerName "web" } }
        webListener).run (serve (.filling "")) { pvs := .ofList [
          { metadata := { name := "pv-1", labels := .single annotationListenerName "web" } }] } =
        (.ok patched, after) ∧ handlePVChanges patched = [webListener.metadata.key] := by
  obtain ⟨patched, after, ran, handled⟩ := handlePVChanges_labelled_iff (.filling "")
    { pvs := .ofList [
      { metadata := { name := "pv-1", labels := .single annotationListenerName "web" } }] }
    { metadata := { name := "pv-1", labels := .single annotationListenerName "web" } }
    webListener rfl
  exact ⟨patched, after, ran, (handled.mpr (by decide)).1⟩

/-- A volume without labels gets no request. -/
theorem handlePVChanges_unlabelled :
    ∃ patched after, (patchPVLabelsWithListener { metadata := { name := "pv-1" } }
        webListener).run (serve (.filling ""))
          { pvs := .ofList [{ metadata := { name := "pv-1" } }] } = (.ok patched, after) ∧
      handlePVChanges patched = [] :=
  ⟨_, _, rfl, by decide⟩

end ListenerOperator
