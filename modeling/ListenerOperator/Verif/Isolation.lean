import ListenerOperator.Base.Alone
import ListenerOperator.Base.Outline
import ListenerOperator.Verif.AddressTree
import ListenerOperator.Verif.Unpublish

/-!
# Volumes of one node

Publications and withdrawals of several volumes run at the same time on one node, on which anything
can fail. The calls for one target path leave everything at the others, also when they fail half
way: so what a publication or a withdrawal reports about its target path is so, as if it had run
alone, and stays so until the next operation for the same target path.
-/

namespace ListenerOperator

open Interaction FileTree FilePath MergePatch

/-- Neither of two places is the other or lies below it. -/
def Unrelated (first second : Place) : Prop := ¬ first <:+ second ∧ ¬ second <:+ first

instance (first second : Place) : Decidable (Unrelated first second) :=
  inferInstanceAs (Decidable (_ ∧ _))

/-- A place that some operation at or below a directory may concern: it is at or above a place in
the directory. -/
def Concerned (directory place : Place) : Prop :=
  ∃ touched, directory <:+ touched ∧ place <:+ touched

/-- What is in a directory is concerned. -/
theorem Concerned.of_inside {directory place : Place} (inside : directory <:+ place) :
    Concerned directory place :=
  ⟨place, inside, List.suffix_refl place⟩

/-- Nothing at or below a place is concerned by operations at an unrelated one. -/
theorem Unrelated.unconcerned {directory base place : Place} (unrelated : Unrelated directory base)
    (inside : base <:+ place) : ¬ Concerned directory place := by
  intro concerned
  obtain ⟨touched, own, above⟩ := concerned
  have common : base <:+ touched := inside.trans above
  rcases List.suffix_or_suffix_of_suffix own common with lower | upper
  · exact unrelated.1 lower
  · exact unrelated.2 upper

/-- The files at or below a place are the same, and so is what is mounted there. -/
structure FileSystem.SameAt (base : Place) (before after : FileSystem) : Prop where
  entries : ∀ place, base <:+ place → after.tree.entry place = before.tree.entry place
  mounts : ∀ mounted, base <:+ mounted.1 → (mounted ∈ after.mounts ↔ mounted ∈ before.mounts)

/-- Nothing has changed. -/
theorem FileSystem.SameAt.refl (base : Place) (files : FileSystem) : files.SameAt base files :=
  ⟨fun _ _ => rfl, fun _ _ => Iff.rfl⟩

/-- What stays twice stays. -/
theorem FileSystem.SameAt.trans {base : Place} {first second third : FileSystem}
    (left : first.SameAt base second) (right : second.SameAt base third) :
    first.SameAt base third where
  entries place inside := (right.entries place inside).trans (left.entries place inside)
  mounts mounted inside := (right.mounts mounted inside).trans (left.mounts mounted inside)

/-- All that changes is concerned by operations at or below a directory. -/
structure FileSystem.ChangedAt (directory : Place) (before after : FileSystem) : Prop where
  entries : ∀ place, after.tree.entry place = before.tree.entry place ∨ Concerned directory place
  mounts : ∀ mounted, (mounted ∈ after.mounts ↔ mounted ∈ before.mounts) ∨
    directory <:+ mounted.1

/-- A change at one place leaves what is at an unrelated one. -/
theorem FileSystem.ChangedAt.sameAt {directory base : Place} {before after : FileSystem}
    (changed : before.ChangedAt directory after) (unrelated : Unrelated directory base) :
    before.SameAt base after where
  entries place inside := by
    have unconcerned := unrelated.unconcerned inside
    exact (changed.entries place).resolve_right unconcerned
  mounts mounted inside := by
    have unconcerned := unrelated.unconcerned inside
    exact (changed.mounts mounted).resolve_right fun own => unconcerned (.of_inside own)

/-- Nothing has changed. -/
theorem FileSystem.ChangedAt.refl (directory : Place) (files : FileSystem) :
    files.ChangedAt directory files :=
  ⟨fun _ => Or.inl rfl, fun _ => Or.inl Iff.rfl⟩

/-- Only entries change. -/
theorem FileSystem.ChangedAt.of_tree {directory : Place} {files : FileSystem} {tree : Tree}
    (entries : ∀ place, tree.entry place = files.tree.entry place ∨ Concerned directory place) :
    files.ChangedAt directory { files with tree } :=
  ⟨entries, fun _ => Or.inl Iff.rfl⟩

/-- A call that works at or below a directory, by a clean path, or not on files. -/
def Call.At (directory : Place) : Call → Prop
  | .pathExists path | .mkdirAll path | .mount path | .unmount path | .writeFile path _
  | .symlink _ path | .removeAll path => clean path = path ∧ directory <:+ place path
  | _ => True

section Calls

variable {directory : Place}

/-- Directories are made at or above a place in the directory. -/
theorem FileSystem.changedAt_mkdirAll {files : FileSystem} {made target : Place} {tree : Tree}
    (inside : directory <:+ target) (above : made <:+ target)
    (makes : Tree.mkdirAll made files.tree = some tree) :
    files.ChangedAt directory { files with tree } := by
  apply FileSystem.ChangedAt.of_tree
  intro place
  rcases (Tree.mkdirAll_entry makes).2 place with same | added
  · exact Or.inl same
  · exact Or.inr ⟨target, inside, added.1.trans above⟩

/-- An entry is written at a place in the directory. -/
theorem FileSystem.changedAt_write (files : FileSystem) {target : Place}
    (inside : directory <:+ target) (new : Entry) :
    files.ChangedAt directory (files.write target new).2 := by
  cases target with
  | nil => exact .refl directory files
  | cons name parent =>
    rw [FileSystem.write]
    cases put : files.tree.put name parent new with
    | none => exact .refl directory files
    | some tree =>
      have entry := (Tree.put_entry put).2.2
      apply FileSystem.ChangedAt.of_tree
      intro place
      by_cases written : place = name :: parent
      · rw [written]
        exact Or.inr (.of_inside inside)
      · rw [entry, Function.update_of_ne written]
        exact Or.inl rfl

/-- A mount on a directory hides what is below it. -/
theorem FileSystem.changedAt_mount (files : FileSystem) {target : Place}
    (inside : directory <:+ target) : files.ChangedAt directory (files.mountAt target).2 := by
  rw [FileSystem.mountAt]
  split
  · constructor
    · intro other
      show (files.tree.clear target).entry other = _ ∨ _
      rw [Tree.clear_entry]
      by_cases below : Tree.Below target other
      · exact Or.inr (.of_inside (inside.trans below.1))
      · rw [if_neg below]
        exact Or.inl rfl
    · intro mounted
      by_cases same : mounted = (target, files.tree)
      · subst same
        exact Or.inr inside
      · exact Or.inl (by simp [same])
  · exact .refl directory files

/-- An unmount brings back what is below a directory. -/
theorem FileSystem.changedAt_unmount (files : FileSystem) {target : Place}
    (inside : directory <:+ target) : files.ChangedAt directory (files.unmountAt target).2 := by
  rw [FileSystem.unmountAt]
  split
  · exact .refl directory files
  · split
    · exact .refl directory files
    · rename_i tree restored
      split
      · exact .refl directory files
      · obtain ⟨-, entries⟩ := Tree.restore_entry restored
        constructor
        · intro other
          show tree.entry other = _ ∨ _
          rw [entries]
          by_cases below : Tree.Below target other
          · exact Or.inr (.of_inside (inside.trans below.1))
          · rw [if_neg below]
            exact Or.inl rfl
        · intro mounted
          by_cases here : mounted.1 = target
          · rw [here]
            exact Or.inr inside
          · exact Or.inl (List.mem_eraseP_of_neg (by simpa using here))

/-- A removal concerns what is below a directory. -/
theorem FileSystem.changedAt_remove (files : FileSystem) {target : Place} (busy : List Place)
    (inside : directory <:+ target) :
    files.ChangedAt directory { files with tree := files.tree.remove target busy } := by
  apply FileSystem.ChangedAt.of_tree
  intro other
  by_cases below : target <:+ other
  · exact Or.inr (.of_inside (inside.trans below))
  · rw [Tree.remove_entry, if_pos (Or.inr (Or.inl below))]
    exact Or.inl rfl

/-- A call at a directory changes nothing else. -/
theorem serveFiles_changedAt {request : Call} (works : request.At directory) (files : FileSystem) :
    files.ChangedAt directory (serveFiles request files).2 := by
  cases request with
  | mkdirAll path =>
    obtain ⟨isClean, inside⟩ := works
    rw [serveFiles_mkdirAll_clean isClean]
    cases makes : Tree.mkdirAll (place path) files.tree with
    | none => exact .refl directory files
    | some tree => exact FileSystem.changedAt_mkdirAll inside (List.suffix_refl _) makes
  | mount path =>
    rw [serveFiles_mount_clean works.1]
    exact files.changedAt_mount works.2
  | unmount path =>
    rw [serveFiles_unmount_clean works.1]
    exact files.changedAt_unmount works.2
  | writeFile path content =>
    rw [serveFiles_writeFile_clean works.1, FileSystem.writeFileAt]
    split
    · exact .refl directory files
    · exact files.changedAt_write works.2 _
  | symlink oldName newName =>
    by_cases blank : oldName = ""
    · rw [serveFiles, if_pos blank]
      exact .refl directory files
    · rw [serveFiles_symlink_clean works.1 _ blank, FileSystem.symlinkAt]
      split
      · exact files.changedAt_write works.2 _
      · exact .refl directory files
  | removeAll path =>
    obtain ⟨isClean, inside⟩ := works
    rw [serveFiles]
    split
    · exact .refl directory files
    · split
      · exact .refl directory files
      · rename_i here found
        rw [← Tree.find_eq found] at inside
        split
        · exact .refl directory files
        · split
          · exact files.changedAt_remove _ inside
          · rw [FileSystem.removeAt]
            split
            · exact files.changedAt_remove _ inside
            · exact files.changedAt_remove _ inside
  | _ => exact .refl directory files

/-- A call at a directory changes nothing else, also if it fails. -/
theorem faulty_changedAt {request : Call} (works : request.At directory) {world after : World}
    {reply : Reply request} (answered : faulty request world reply after) :
    world.files.ChangedAt directory after.files := by
  unfold faulty at answered
  split at answered
  · rcases answered.2 with served | ⟨failure, -, part⟩
    · rw [(Prod.mk.inj served).2]
      exact serveFiles_changedAt works world.files
    · generalize after.files = left at part ⊢
      cases part with
      | nothing => exact .refl directory world.files
      | all => exact serveFiles_changedAt works world.files
      | directories path done begun tree made =>
        obtain ⟨above, higher, -, stops⟩ := Tree.mkdirPath_clean works.1 begun
        rw [stops] at made
        exact FileSystem.changedAt_mkdirAll works.2 higher made
      | content path content other =>
        have rewrites : (Call.writeFile path other).At directory := works
        exact serveFiles_changedAt rewrites world.files
      | removal path here found tree removed busy =>
        have inside : directory <:+ here := by
          rw [Tree.find_eq found]
          exact works.2
        apply FileSystem.ChangedAt.of_tree
        intro other
        rcases removed other with same | gone
        · exact Or.inl same
        · exact Or.inr (.of_inside (inside.trans gone.1))
  · rw [answered]
    exact .refl directory world.files

end Calls

/-- A node looks at a place as another does on which a publication runs alone. -/
structure FileSystem.Like (base : Place) (files alone : FileSystem) : Prop where
  entries : ∀ place, base <:+ place → files.tree.entry place = alone.tree.entry place
  mounted : alone.Mounted base → files.Mounted base

/-- A node where nothing changes at a place still looks the same there. -/
theorem FileSystem.Like.later {base : Place} {files later alone : FileSystem}
    (like : files.Like base alone) (same : files.SameAt base later) : later.Like base alone where
  entries place inside := (same.entries place inside).trans (like.entries place inside)
  mounted there := by
    obtain ⟨hidden, listed⟩ := like.mounted there
    exact ⟨hidden, (same.mounts (base, hidden) (List.suffix_refl base)).mpr listed⟩

/-- Entries that change alike. -/
theorem FileSystem.Like.of_entries {base : Place} {files alone : FileSystem} {tree other : Tree}
    (like : files.Like base alone)
    (entries : ∀ place, base <:+ place → tree.entry place = other.entry place) :
    FileSystem.Like base { files with tree } { alone with tree := other } :=
  ⟨entries, like.mounted⟩

/-- A call that builds the tree of a target path, by a clean path. -/
def Call.Builds (targetPath : String) : Call → Prop
  | .pathExists path | .mount path => clean path = path ∧ path = targetPath
  | .mkdirAll path | .writeFile path _ | .symlink _ path =>
    clean path = path ∧ place targetPath <:+ place path
  | _ => False

/-- What builds the tree of a target path works there. -/
theorem Call.Builds.at {targetPath : String} {request : Call} (builds : request.Builds targetPath) :
    request.At (place targetPath) := by
  cases request with
  | pathExists path | mount path =>
    obtain ⟨isClean, rfl⟩ : clean path = path ∧ path = targetPath := builds
    exact ⟨isClean, List.suffix_refl _⟩
  | mkdirAll path | writeFile path content | symlink oldName newName => exact builds
  | _ => cases builds

/-- What builds the tree of a target path is a call on files. -/
theorem Call.Builds.file {targetPath : String} {request : Call}
    (builds : request.Builds targetPath) : request.kind = .file := by
  cases request <;> first | rfl | cases builds

/-- Directories that are made on two nodes that look alike. -/
theorem mkdirAll_alike {base made : Place} {first second firstAfter secondAfter : Tree}
    (alike : ∀ place, base <:+ place → first.entry place = second.entry place)
    (firstMade : Tree.mkdirAll made first = some firstAfter)
    (secondMade : Tree.mkdirAll made second = some secondAfter) {place : Place}
    (inside : base <:+ place) : firstAfter.entry place = secondAfter.entry place := by
  obtain ⟨firstThere, firstChanges⟩ := Tree.mkdirAll_entry firstMade
  obtain ⟨secondThere, secondChanges⟩ := Tree.mkdirAll_entry secondMade
  by_cases higher : place <:+ made
  · rw [Tree.directory_above firstThere higher, Tree.directory_above secondThere higher]
  · have firstSame := (firstChanges place).resolve_right fun added => higher added.1
    have secondSame := (secondChanges place).resolve_right fun added => higher added.1
    rw [firstSame, secondSame]
    exact alike place inside

/-- A write that succeeds. -/
theorem FileSystem.write_granted {files : FileSystem} {target : Place} {new : Entry}
    (granted : ¬ ∃ failure, (files.write target new).1 = .error failure) :
    ∃ tree, tree.entry = Function.update files.tree.entry target (some new) ∧
      files.write target new = (.ok (), { files with tree }) := by
  cases target with
  | nil => exact absurd ⟨_, rfl⟩ granted
  | cons name parent =>
    rw [FileSystem.write] at granted ⊢
    cases put : files.tree.put name parent new with
    | none =>
      rw [put] at granted
      exact absurd ⟨_, rfl⟩ granted
    | some tree => exact ⟨tree, (Tree.put_entry put).2.2, rfl⟩

/-- Entries that are written on two nodes that look alike. -/
theorem write_alike {base target : Place} {files alone : FileSystem} (like : files.Like base alone)
    {new : Entry} (granted : ¬ ∃ failure, (files.write target new).1 = .error failure)
    (grantedAlone : ¬ ∃ failure, (alone.write target new).1 = .error failure) :
    (files.write target new).1 = (alone.write target new).1 ∧
      (files.write target new).2.Like base (alone.write target new).2 := by
  obtain ⟨tree, entry, written⟩ := FileSystem.write_granted granted
  obtain ⟨treeAlone, entryAlone, writtenAlone⟩ := FileSystem.write_granted grantedAlone
  rw [written, writtenAlone]
  refine ⟨rfl, like.of_entries fun place inside => ?_⟩
  rw [entry, entryAlone]
  by_cases here : place = target
  · rw [here, Function.update_self, Function.update_self]
  · rw [Function.update_of_ne here, Function.update_of_ne here]
    exact like.entries place inside

/-- A call that builds the tree of a target path is answered alike, and leaves the same, on two
nodes that look alike there, unless it fails on one of them. -/
theorem serveFiles_alike {targetPath : String} {request : Call}
    (builds : request.Builds targetPath) {files alone : FileSystem}
    (like : files.Like (place targetPath) alone)
    (granted : ¬ Refused request (serveFiles request files).1)
    (grantedAlone : ¬ Refused request (serveFiles request alone).1) :
    (serveFiles request files).1 = (serveFiles request alone).1 ∧
      (serveFiles request files).2.Like (place targetPath) (serveFiles request alone).2 := by
  cases request with
  | pathExists path =>
    obtain ⟨isClean, rfl⟩ : clean path = path ∧ path = targetPath := builds
    have same := like.entries (place path) (List.suffix_refl _)
    rw [serveFiles_pathExists_clean isClean, serveFiles_pathExists_clean isClean, same]
    exact ⟨rfl, like⟩
  | mkdirAll path =>
    rw [serveFiles_mkdirAll_clean builds.1] at granted grantedAlone ⊢
    rw [serveFiles_mkdirAll_clean builds.1]
    cases made : Tree.mkdirAll (place path) files.tree with
    | none =>
      rw [made] at granted
      exact absurd ⟨_, rfl⟩ granted
    | some tree =>
      cases madeAlone : Tree.mkdirAll (place path) alone.tree with
      | none =>
        rw [madeAlone] at grantedAlone
        exact absurd ⟨_, rfl⟩ grantedAlone
      | some treeAlone =>
        exact ⟨rfl, like.of_entries fun other inside =>
          mkdirAll_alike like.entries made madeAlone inside⟩
  | mount path =>
    obtain ⟨isClean, rfl⟩ : clean path = path ∧ path = targetPath := builds
    rw [serveFiles_mount_clean isClean, FileSystem.mountAt] at granted ⊢
    rw [serveFiles_mount_clean isClean, FileSystem.mountAt]
    by_cases directory : files.tree.entry (place path) = some .directory
    · have directoryAlone : alone.tree.entry (place path) = some .directory := by
        rw [← like.entries (place path) (List.suffix_refl _), directory]
      rw [if_pos directory, if_pos directoryAlone]
      refine ⟨rfl, ⟨fun other inside => ?_, fun _ => ⟨files.tree, List.mem_cons_self⟩⟩⟩
      show (files.tree.clear _).entry other = (alone.tree.clear _).entry other
      rw [Tree.clear_entry, Tree.clear_entry, like.entries other inside]
    · rw [if_neg directory] at granted
      exact absurd ⟨_, rfl⟩ granted
  | writeFile path content =>
    have same := like.entries (place path) builds.2
    rw [serveFiles_writeFile_clean builds.1, FileSystem.writeFileAt] at granted grantedAlone ⊢
    rw [serveFiles_writeFile_clean builds.1, FileSystem.writeFileAt]
    rw [← same] at grantedAlone ⊢
    cases held : files.tree.entry (place path) with
    | none =>
      rw [held] at granted grantedAlone
      exact write_alike like granted grantedAlone
    | some entry =>
      rw [held] at granted grantedAlone
      cases entry with
      | link target => exact absurd ⟨_, rfl⟩ granted
      | directory | file old => exact write_alike like granted grantedAlone
  | symlink oldName newName =>
    have named : oldName ≠ "" := by
      rintro rfl
      exact granted ⟨_, rfl⟩
    have same := like.entries (place newName) builds.2
    rw [serveFiles_symlink_clean builds.1 _ named, FileSystem.symlinkAt] at granted grantedAlone ⊢
    rw [serveFiles_symlink_clean builds.1 _ named, FileSystem.symlinkAt]
    rw [← same] at grantedAlone ⊢
    cases held : files.tree.entry (place newName) with
    | none =>
      rw [held] at granted grantedAlone
      exact write_alike like granted grantedAlone
    | some entry =>
      rw [held] at granted
      exact absurd ⟨_, rfl⟩ granted
  | _ => cases builds

/-- The tree of a target path is published where it looks so. -/
theorem FileSystem.Publishes.like {targetPath : String} {data : List IngressAddress}
    {files alone : FileSystem} (publishes : alone.Publishes targetPath data)
    (like : files.Like (place targetPath) alone) : files.Publishes targetPath data where
  mounted := like.mounted publishes.mounted
  addresses relative := by
    have inside : place targetPath <:+ relative ++ "addresses" :: place targetPath :=
      (List.suffix_cons _ _).trans (List.suffix_append _ _)
    rw [like.entries _ inside]
    exact publishes.addresses relative
  default := by
    obtain ⟨last, ends, link⟩ := publishes.default
    refine ⟨last, ends, ?_⟩
    rw [like.entries _ (List.suffix_cons _ _)]
    exact link

/-- The texts in a reply that become names of files are names. -/
def NamedReply : (request : Call) → Reply request → Prop
  | .getListener _, .ok listener =>
    Nameable (listener.status.ingressAddresses.map IngressAddressSpec.ingressAddress) ∧
      ∀ name port, listener.status.nodePorts[name]? = some port → IsName name
  | .getNode _, .ok node => ∀ address ∈ node.addresses, IsName address.address
  | _, _ => True

/-- The replies on a node on which anything can fail, where calls on objects get any reply with
names in it. -/
def faultyNamed : Program.Answers Call Reply World := fun request world reply after =>
  faulty request world reply after ∧ NamedReply request reply

/-- The addresses that a publication has published in the cluster. -/
def Publication.addresses (publication : Publication) : Option (List IngressAddress) :=
  publication.podListeners.listeners[publication.volumeName]?.map fun entry =>
    entry.listenerIngresses.map IngressAddressSpec.ingressAddress

/-- A single call returns an accepted reply. -/
theorem ask_yields {accepted : (request : Call) → Reply request → Prop} (request : Call) :
    (ask request).Yields accepted fun value => accepted request (.ok value) := by
  intro reply accepts
  cases reply with
  | ok value => exact accepts
  | error failure => trivial

/-- The address of a node is one of its addresses. -/
theorem getPriorNodeAddress_mem {node : Node} {address : AddressInfo}
    (found : getPriorNodeAddress node = .ok address) :
    ∃ listed ∈ node.addresses, listed.address = address.address := by
  unfold getPriorNodeAddress at found
  split at found
  · rename_i info first
    obtain ⟨listed, among, informs⟩ := List.exists_of_findSome?_eq_some first
    obtain rfl := Except.ok.inj found
    refine ⟨listed, among, ?_⟩
    unfold NodeAddress.info at informs
    split at informs
    all_goals cases informs
    all_goals rfl
  · cases found

/-- The addresses for a pod are names if the replies have names in them. -/
theorem getAddresses_yields (listener : Listener) (pod : Pod) :
    (getAddresses listener pod).Yields NamedReply fun found => Nameable found.2 := by
  refine (ask_yields (.getListener _)).bind fun current named => ?_
  split
  · have addressed : (getNodeAddressByPod pod).Yields NamedReply
        fun address => IsName address.address := by
      refine (ask_yields (.getNode _)).bind fun node nodeNamed => ?_
      cases prior : getPriorNodeAddress node with
      | error failure => trivial
      | ok address =>
        obtain ⟨listed, among, same⟩ := getPriorNodeAddress_mem prior
        have isName := nodeNamed listed among
        rw [same] at isName
        exact isName
    refine addressed.bind fun address isName => ?_
    intro element listed
    obtain rfl := List.mem_singleton.mp listed
    exact ⟨isName, named.2⟩
  · split
    · exact named.1
    · trivial

/-- The published object holds the addresses under the name of the volume. -/
theorem publishPodListener_yields {accepted : (request : Call) → Reply request → Prop}
    (n : NodeServer) (pod : Pod) (pv : PersistentVolume) (listener : Listener)
    (data : List IngressAddress) :
    (publishPodListener n pod pv listener data).Yields accepted fun published =>
      ∃ entry, published.2.listeners = .single published.1 entry ∧
        entry.listenerIngresses = data.map IngressAddress.spec := by
  refine (Program.Yields.something _).bind fun claimRef _ => ?_
  refine (Program.Yields.something _).bind fun volumeName _ => ?_
  refine (Program.Yields.something _).bind fun _ _ => ?_
  have single := (buildPodListenersObject_slot n pod listener volumeName
    (determinePodListenerScope listener) data).2
  exact ⟨_, single, rfl⟩

/-- A publication on the cluster finds names, and publishes the addresses it finds. -/
theorem publishToCluster_yields (n : NodeServer) (request : NodePublishVolumeRequest) :
    (publishToCluster n request).Yields NamedReply fun published =>
      Nameable published.2 ∧ published.1.addresses = some published.2 := by
  refine (Program.Yields.something _).bind fun _ _ => ?_
  refine (Program.Yields.something _).bind fun pv _ => ?_
  refine (Program.Yields.something _).bind fun podName _ => ?_
  refine (Program.Yields.something _).bind fun podNamespace _ => ?_
  refine (Program.Yields.something _).bind fun pod _ => ?_
  refine (Program.Yields.something _).bind fun listener _ => ?_
  refine (Program.Yields.something _).bind fun tied _ => ?_
  refine (Program.Yields.something _).bind fun mounted _ => ?_
  refine (getAddresses_yields listener mounted).mapError.bind fun found nameable => ?_
  refine (publishPodListener_yields n mounted tied found.1 found.2).mapError.bind
    fun published holds => ?_
  obtain ⟨entry, single, ingresses⟩ := holds
  refine ⟨nameable, ?_⟩
  have lookup : published.2.listeners[published.1]? = some entry := by
    rw [single, StringMap.get_single, if_pos rfl]
  have back : found.2.map (IngressAddressSpec.ingressAddress ∘ IngressAddress.spec) = found.2 :=
    List.map_id found.2
  show Option.map _ published.2.listeners[published.1]? = some found.2
  rw [lookup, Option.map_some, ingresses, List.map_map, back]

/-- The conditions for the operations at a target path: the others leave what is there, and the
operations change nothing else. -/
def volumeRules (base : Place) : Rules World where
  invariant _ := True
  rely before after := before.files.SameAt base after.files
  guarantee before after := before.files.ChangedAt base after.files
  rely_refl world := .refl base world.files
  rely_trans left right := left.trans right

/-- A published tree stays while nothing changes at its target path. -/
theorem FileSystem.Publishes.later {targetPath : String} {data : List IngressAddress}
    {files later : FileSystem} (publishes : files.Publishes targetPath data)
    (same : files.SameAt (place targetPath) later) : later.Publishes targetPath data := by
  have like : files.Like (place targetPath) files := ⟨fun _ _ => rfl, fun mounted => mounted⟩
  exact publishes.like (like.later same)

/-- The part of a publication on the node builds the tree of its target path. -/
theorem publishToNode_builds (n : NodeServer) {targetPath : String}
    (isClean : clean targetPath = targetPath) {data : List IngressAddress}
    (nameable : Nameable data) :
    (publishToNode n targetPath data).Ensures (Call.Builds targetPath) fun _ => True := by
  have mounts : (mount targetPath).Ensures (Call.Builds targetPath) fun _ => True := by
    have looks : (Call.pathExists targetPath).Builds targetPath := ⟨isClean, rfl⟩
    have makes : (Call.mkdirAll targetPath).Builds targetPath := ⟨isClean, List.suffix_refl _⟩
    have mounting : (Call.mount targetPath).Builds targetPath := ⟨isClean, rfl⟩
    refine (ensures_ask looks).mapError.bind fun exist _ => ?_
    cases exist with
    | true => trivial
    | false =>
      exact (ensures_ask makes).mapError.bind fun _ _ => (ensures_ask mounting).mapError
  have tree : (writeTree n targetPath data).Ensures (Call.Builds targetPath) fun _ => True := by
    refine (writeTree_populates n nameable).mono ?_ fun _ _ => trivial
    intro call populates
    cases call with
    | mkdirAll path | writeFile path content =>
      exact ⟨populates.1, (List.suffix_cons _ _).trans populates.2⟩
    | _ => cases populates
  have writes : (writeData n targetPath (some data)).Ensures (Call.Builds targetPath)
      fun _ => True := by
    rw [writeData_eq]
    refine tree.bind fun source _ => ensures_ask ?_
    have name : IsName "default-address" := by decide
    refine ⟨clean_join targetPath name.1, ?_⟩
    rw [place_join_name _ name]
    exact List.suffix_cons _ _
  exact mounts.mapError.bind fun _ _ => writes.mapError

/-- The part of a publication on the node ends at the first call that fails. -/
theorem publishToNode_stops (n : NodeServer) (targetPath : String) (data : List IngressAddress) :
    (publishToNode n targetPath data).Stops Refused := by
  have mounts : (mount targetPath).Stops Refused := by
    refine (ask_stops (.pathExists _)).mapError.bind fun exist => ?_
    cases exist with
    | true => trivial
    | false =>
      exact (ask_stops (.mkdirAll _)).mapError.bind fun _ => (ask_stops (.mount _)).mapError
  refine mounts.mapError.bind fun _ => Program.Stops.mapError ?_
  refine (ask_stops (.mkdirAll _)).bind fun _ => (writeAddresses_stops _ _ _ _).bind fun _ => ?_
  exact ask_stops (.symlink _ _)

/-- Where nothing is, nothing is below. -/
theorem absent_below {tree : Tree} {base other : Place} (absent : tree.entry base = none)
    (inside : base <:+ other) : tree.entry other = none := by
  obtain ⟨relative, rfl⟩ := inside
  induction relative with
  | nil => exact absent
  | cons name relative ih =>
    by_contra present
    have parent : tree.entry (relative ++ base) = some .directory := tree.closed present
    rw [ih] at parent
    cases parent

/-- An absent target path looks as on an empty node. -/
theorem FileSystem.like_empty {files : FileSystem} {base : Place}
    (absent : files.tree.entry base = none) : files.Like base {} := by
  constructor
  · intro other inside
    have below : other ≠ [] := by
      intro root
      rw [root, List.suffix_nil] at inside
      rw [inside, files.tree.root] at absent
      cases absent
    rw [absent_below absent inside]
    exact (if_neg below).symm
  · intro mounted
    obtain ⟨hidden, listed⟩ := mounted
    cases listed

/-- A call that builds the tree of a target path, among operations at other target paths, fails or
does what it does on a node that looks alike there. -/
theorem faultyNamed_alike {targetPath : String} {request : Call}
    (builds : request.Builds targetPath) {world after alone : World} {reply : Reply request}
    (like : world.files.Like (place targetPath) alone.files)
    (answered : faultyNamed request world reply after) (granted : ¬ Refused request reply)
    (api : ApiServer) (grantedAlone : ¬ Refused request (serveNode api request alone).1) :
    reply = (serveNode api request alone).1 ∧
      after.files.Like (place targetPath) (serveNode api request alone).2.files := by
  have server : ∀ state : World, serveNode api request state =
      ((serveFiles request state.files).1,
        { state with files := (serveFiles request state.files).2 }) :=
    fun _ => if_pos builds.file
  have served := (faulty_served api builds.file answered.1).resolve_left granted
  rw [server] at served grantedAlone ⊢
  obtain ⟨replied, left⟩ := Prod.mk.inj served
  rw [replied] at granted
  rw [replied, left]
  exact serveFiles_alike builds like granted grantedAlone

/-- The part of a publication on the node, among operations at other target paths, publishes the
whole tree if it succeeds. -/
theorem publishToNode_isolated (n : NodeServer) {targetPath : String}
    (isClean : clean targetPath = targetPath) {data : List IngressAddress} (nameable : Nameable data)
    (nonempty : data ≠ []) (world : World) :
    (publishToNode n targetPath data).Safe faultyNamed (volumeRules (place targetPath))
      (fun outcome after => ∀ value, outcome = .ok value →
        after.files.Publishes targetPath data) world := by
  by_cases absent : world.files.tree.entry (place targetPath) = none
  · let api : ApiServer := .filling ""
    let alone : World := { cluster := world.cluster, files := {} }
    have located : place targetPath ≠ [] := by
      intro root
      rw [root, world.files.tree.root] at absent
      cases absent
    have free : alone.files.tree.entry (place targetPath) = none := if_neg located
    obtain ⟨files, publishes, ran⟩ := publishToNode_run api n isClean nameable nonempty free
      (Tree.empty_open _)
    have like : world.files.Like (place targetPath) alone.files := FileSystem.like_empty absent
    have stable : ∀ state later other : World, state.files.Like (place targetPath) other.files →
        (volumeRules (place targetPath)).rely state later →
          (volumeRules (place targetPath)).invariant later →
            later.files.Like (place targetPath) other.files :=
      fun _ _ _ like same _ => like.later same
    have frame : ∀ (request : Call) (state : World) (reply : Reply request) (after : World),
        request.Builds targetPath → (volumeRules (place targetPath)).invariant state →
          faultyNamed request state reply after →
            (volumeRules (place targetPath)).invariant after ∧
              (volumeRules (place targetPath)).guarantee state after :=
      fun _ _ _ _ builds _ answered => ⟨trivial, faulty_changedAt builds.at answered.1⟩
    have step : ∀ (request : Call) (state : World) (reply : Reply request) (after other : World),
        request.Builds targetPath → (volumeRules (place targetPath)).invariant state →
          state.files.Like (place targetPath) other.files →
            faultyNamed request state reply after → ¬ Refused request reply →
              ¬ Refused request (serveNode api request other).1 →
                reply = (serveNode api request other).1 ∧
                  after.files.Like (place targetPath) (serveNode api request other).2.files :=
      fun _ _ _ _ _ builds _ like answered granted grantedAlone =>
        faultyNamed_alike builds like answered granted api grantedAlone
    have safe := (publishToNode_stops n targetPath data).safe stable frame step
      (publishToNode_builds n isClean nameable) like ran
    exact safe.mono fun outcome after _ ends value ended => publishes.like (ends value ended).2
  · -- A target path that is there is refused.
    have works : (Call.pathExists targetPath).At (place targetPath) :=
      ⟨isClean, List.suffix_refl _⟩
    intro later same _ reply after answered
    refine ⟨trivial, faulty_changedAt works answered.1, ?_⟩
    have present : (later.files.lookup targetPath).isSome = true := by
      rw [later.files.lookup_clean isClean, same.entries _ (List.suffix_refl _),
        Option.isSome_iff_ne_none]
      exact absent
    cases reply with
    | error failure => intro last _ _ value impossible; cases impossible
    | ok exist =>
      have told := (faulty_pathExists answered.1).2 exist rfl
      rw [present] at told
      subst told
      intro last _ _ value impossible
      cases impossible

/-- A publication, among operations at other target paths, has published the addresses that it put
in the PodListeners object if it succeeds. -/
theorem nodePublishVolume_isolated (n : NodeServer) {request : NodePublishVolumeRequest}
    (isClean : clean request.targetPath = request.targetPath) (world : World) :
    (nodePublishVolume n request).Safe faultyNamed (volumeRules (place request.targetPath))
      (fun outcome after => ∀ publication, outcome = .ok publication →
        ∃ data, publication.addresses = some data ∧
          after.files.Publishes request.targetPath data) world := by
  have frame : ∀ (call : Call) (state : World) (reply : Reply call) (after : World),
      call.OnObjects → (volumeRules (place request.targetPath)).invariant state →
        faultyNamed call state reply after →
          (volumeRules (place request.targetPath)).invariant after ∧
            (volumeRules (place request.targetPath)).guarantee state after ∧
              NamedReply call reply := by
    intro call state reply after objects _ answered
    refine ⟨trivial, ?_, answered.2⟩
    show state.files.ChangedAt _ after.files
    rw [faulty_objects objects answered.1]
    exact .refl _ _
  have cluster := (publishToCluster_ensures n request).safe frame
    (publishToCluster_yields n request) world
  refine Program.Safe.bind (cluster.mono fun outcome middle _ found => ?_)
  cases outcome with
  | error failure =>
    intro publication impossible
    cases impossible
  | ok published =>
    obtain ⟨nonempty, nameable, told⟩ := found published rfl
    have node := publishToNode_isolated n isClean nameable nonempty middle
    refine Program.Safe.bind (node.mono fun outcome last _ built => ?_)
    cases outcome with
    | error failure =>
      intro publication impossible
      cases impossible
    | ok value =>
      intro later same _ publication returned
      obtain rfl := Except.ok.inj returned
      exact ⟨published.2, told, (built value rfl).later same⟩

/-- A withdrawal, among operations at other target paths, leaves nothing at its target path if it
succeeds. -/
theorem nodeUnpublishVolume_isolated {request : NodeUnpublishVolumeRequest}
    (isClean : clean request.targetPath = request.targetPath) (world : World) :
    (nodeUnpublishVolume request).Safe faultyNamed (volumeRules (place request.targetPath))
      (fun outcome after => ∀ value, outcome = .ok value →
        after.files.tree.entry (place request.targetPath) = none) world := by
  have unmounts : (Call.unmount request.targetPath).At (place request.targetPath) :=
    ⟨isClean, List.suffix_refl _⟩
  have removes : (Call.removeAll request.targetPath).At (place request.targetPath) :=
    ⟨isClean, List.suffix_refl _⟩
  rcases nodeUnpublishVolume_cases request with ⟨failure, refused⟩ | calls
  · rw [refused]
    intro later _ _ value impossible
    cases impossible
  · rw [calls]
    intro first _ _ ignored middle unmounted
    refine ⟨trivial, faulty_changedAt unmounts unmounted.1, ?_⟩
    intro second _ _ reply last removed
    refine ⟨trivial, faulty_changedAt removes removed.1, ?_⟩
    cases reply with
    | error failure =>
      intro later _ _ value impossible
      cases impossible
    | ok done =>
      intro later same _ value _
      have gone := (faulty_removed removed.1).1
      rw [last.files.lookup_clean isClean] at gone
      rw [same.entries _ (List.suffix_refl _), gone]

/-- A publication or a withdrawal of a volume. -/
inductive Operation where
  | publish (n : NodeServer) (request : NodePublishVolumeRequest)
  | unpublish (request : NodeUnpublishVolumeRequest)

/-- The target path of an operation. -/
def Operation.targetPath : Operation → String
  | .publish _ request => request.targetPath
  | .unpublish request => request.targetPath

/-- The call of the plugin that makes an operation. -/
def Operation.program : Operation → Prog (Option Publication)
  | .publish n request => do return some (← nodePublishVolume n request)
  | .unpublish request => do
    nodeUnpublishVolume request
    return none

/-- What a successful operation tells about its target path: after a publication the tree of the
addresses that it put in the PodListeners object is there, and after a withdrawal nothing is. -/
def Operation.Tells (files : FileSystem) : Operation → Except Failure (Option Publication) → Prop
  | .publish _ request, .ok published => ∃ publication data, published = some publication ∧
    publication.addresses = some data ∧ files.Publishes request.targetPath data
  | .unpublish request, .ok _ => files.tree.entry (place request.targetPath) = none
  | _, .error _ => True

/-- The operations for one clean target path, in their order. -/
structure VolumeOperations where
  targetPath : String
  isClean : clean targetPath = targetPath
  operations : List Operation
  aimed : ∀ operation ∈ operations, operation.targetPath = targetPath

/-- Operations one after the other, each whatever the outcomes of the ones before. -/
def performAll : List Operation → Prog (List (Except Failure (Option Publication)))
  | [] => return []
  | operation :: rest => do
    let outcome ← operation.program.attempt
    let outcomes ← performAll rest
    return outcome :: outcomes

/-- What an operation tells stays so while nothing changes at its target path. -/
theorem Operation.Tells.later {operation : Operation} {outcome : Except Failure (Option Publication)}
    {files later : FileSystem} (tells : operation.Tells files outcome)
    (same : files.SameAt (place operation.targetPath) later) : operation.Tells later outcome := by
  cases operation with
  | publish n request =>
    cases outcome with
    | error failure => trivial
    | ok published =>
      obtain ⟨publication, data, returned, told, publishes⟩ := tells
      exact ⟨publication, data, returned, told, publishes.later same⟩
  | unpublish request =>
    cases outcome with
    | error failure => trivial
    | ok value => exact (same.entries _ (List.suffix_refl _)).trans tells

/-- An operation among operations at other target paths tells what is so. -/
theorem Operation.safe {operation : Operation}
    (isClean : clean operation.targetPath = operation.targetPath) (world : World) :
    operation.program.Safe faultyNamed (volumeRules (place operation.targetPath))
      (fun outcome after => operation.Tells after.files outcome) world := by
  cases operation with
  | publish n request =>
    refine Program.Safe.bind ((nodePublishVolume_isolated n isClean world).mono
      fun outcome middle _ published => ?_)
    cases outcome with
    | error failure => trivial
    | ok publication =>
      obtain ⟨data, told, publishes⟩ := published publication rfl
      intro later same _
      exact ⟨publication, data, rfl, told, publishes.later same⟩
  | unpublish request =>
    refine Program.Safe.bind ((nodeUnpublishVolume_isolated isClean world).mono
      fun outcome middle _ withdrawn => ?_)
    cases outcome with
    | error failure => trivial
    | ok value =>
      intro later same _
      exact (same.entries _ (List.suffix_refl _)).trans (withdrawn value rfl)

/-- The last of several operations tells what is so. -/
def LastTells (operations : List Operation) (outcomes : List (Except Failure (Option Publication)))
    (files : FileSystem) : Prop :=
  ∀ last, operations.getLast? = some last →
    ∃ outcome, outcomes.getLast? = some outcome ∧ last.Tells files outcome

/-- Operations for one target path among operations at others: the last one tells what is so. -/
theorem performAll_safe {targetPath : String} (isClean : clean targetPath = targetPath)
    (operations : List Operation)
    (aimed : ∀ operation ∈ operations, operation.targetPath = targetPath) (world : World) :
    (performAll operations).Safe faultyNamed (volumeRules (place targetPath)) (fun outcome after =>
      ∀ outcomes, outcome = .ok outcomes → LastTells operations outcomes after.files) world := by
  induction operations generalizing world with
  | nil =>
    intro later _ _ outcomes _ last impossible
    cases impossible
  | cons operation rest ih =>
    have here := aimed operation List.mem_cons_self
    have safe := Operation.safe (by rw [here, isClean]) world
    rw [here] at safe
    refine Program.Safe.bind (Program.Safe.attempt (safe.mono fun outcome middle _ tells => ?_))
    cases rest with
    | nil =>
      intro later same _ outcomes returned last ends
      obtain rfl := Except.ok.inj returned
      obtain rfl : operation = last := by simpa using ends
      rw [← here] at same
      exact ⟨outcome, rfl, tells.later same⟩
    | cons next rest =>
      have onward := ih (fun other listed => aimed other (List.mem_cons_of_mem _ listed)) middle
      refine Program.Safe.bind (onward.mono fun result final _ reported => ?_)
      cases result with
      | error failure =>
        intro outcomes impossible
        cases impossible
      | ok outcomes =>
        intro later same _ all returned last ends
        obtain rfl := Except.ok.inj returned
        have ends : (next :: rest).getLast? = some last := by simpa using ends
        obtain ⟨outcome, final, tells⟩ := reported outcomes rfl last ends
        have own : last.targetPath = targetPath :=
          aimed last (List.mem_cons_of_mem _ (List.mem_of_getLast? ends))
        rw [← own] at same
        refine ⟨outcome, ?_, tells.later same⟩
        rw [List.getLast?_cons, final]
        rfl

/-- On a node on which anything can fail, with operations for several unrelated clean target paths at
the same time, in any order of their calls, and with changes of others elsewhere: when the operations
for a target path have ended and the last of them has succeeded, then the whole tree of its
addresses is there, or nothing is after a withdrawal. -/
theorem volumes_isolated {ι : Type} (volumes : ι → VolumeOperations)
    (unrelated : ∀ first second, first ≠ second →
      Unrelated (place (volumes first).targetPath) (place (volumes second).targetPath))
    (world : World)
    (pool : Pool ι Call Reply Failure (List (Except Failure (Option Publication))) World)
    (reached : Pool.Reaches faultyNamed
      (fun before after => ∀ index,
        before.files.SameAt (place (volumes index).targetPath) after.files)
      ⟨world, fun index => performAll (volumes index).operations⟩ pool)
    (index : ι) (outcomes : List (Except Failure (Option Publication)))
    (ended : pool.thread index = .done (.ok outcomes)) (last : Operation)
    (ends : (volumes index).operations.getLast? = some last) :
    ∃ outcome, outcomes.getLast? = some outcome ∧ last.Tells pool.state.files outcome := by
  have compatible : Pool.Compatible
      (fun index => volumeRules (place (volumes index).targetPath))
      (fun before after => ∀ index,
        before.files.SameAt (place (volumes index).targetPath) after.files) := by
    constructor
    · intro _ _ _ _
      trivial
    · intro first second different before after _ _ changed
      exact FileSystem.ChangedAt.sameAt changed (unrelated first second different)
    · intro _ _ _ _ _
      trivial
    · intro own before after _ stays
      exact stays own
  have verified : Pool.Verified faultyNamed
      (fun index => volumeRules (place (volumes index).targetPath))
      (fun index outcome after => ∀ outcomes, outcome = .ok outcomes →
        LastTells (volumes index).operations outcomes after.files)
      ⟨world, fun index => performAll (volumes index).operations⟩ := by
    refine ⟨fun _ => trivial, fun own => ?_⟩
    exact performAll_safe (volumes own).isClean _ (volumes own).aimed world
  have safe := Pool.safe_of_reaches compatible verified reached
  exact safe.outcome ended outcomes rfl last ends

/-- Two volumes: one is published to `/mnt/web`, and another is withdrawn from `/mnt/old`. -/
def twoVolumes : Bool → VolumeOperations
  | true => {
    targetPath := "/mnt/web"
    isClean := by decide +kernel
    operations := [.publish .standard webRequest]
    aimed := by simp [Operation.targetPath, webRequest] }
  | false => {
    targetPath := "/mnt/old"
    isClean := by decide +kernel
    operations := [.unpublish { volumeId := "pv-0", targetPath := "/mnt/old" }]
    aimed := by simp [Operation.targetPath] }

/-- The answers on a node in the cluster of `webVolume`. -/
def webAnswer (request : Call) (world : World) : Option (Reply request × World) :=
  if request.kind = .file then some (serveNode (.filling "") request world)
  else some ((serve (.filling "") request webVolumeCluster).1, world)

/-- The objects of the cluster have names in them. -/
theorem webVolumeCluster_named (request : Call) :
    NamedReply request (serve (.filling "") request webVolumeCluster).1 := by
  cases request with
  | getListener key =>
    simp only [serve]
    cases stored : webVolumeCluster.listeners.get key with
    | none => trivial
    | some listener =>
      have listed := (Keyed.Store.mem_values _ listener).mpr
        ((webVolumeCluster.listeners.keyed stored).symm ▸ stored)
      have values : webVolumeCluster.listeners.values = [webListenerReady] := rfl
      rw [values] at listed
      obtain rfl := List.mem_singleton.mp listed
      refine ⟨webAddresses_nameable, fun name port held => ?_⟩
      exact (webAddresses_nameable _ List.mem_cons_self).2 name port held
  | getNode key =>
    simp only [serve]
    cases stored : webVolumeCluster.nodes.get key.name with
    | none => trivial
    | some node =>
      have listed := (Keyed.Store.mem_values _ node).mpr
        ((webVolumeCluster.nodes.keyed stored).symm ▸ stored)
      have values : webVolumeCluster.nodes.values = [webNode] := rfl
      rw [values] at listed
      obtain rfl := List.mem_singleton.mp listed
      intro address among
      obtain rfl := List.mem_singleton.mp among
      decide
  | _ => trivial

/-- The answers are possible. -/
theorem webAnswer_possible (request : Call) (world : World) (reply : Reply request) (after : World)
    (answered : webAnswer request world = some (reply, after)) :
    faultyNamed request world reply after := by
  unfold webAnswer at answered
  split at answered
  · rename_i file
    have served := faulty_serveNode (.filling "") request world
    rw [Option.some.inj answered] at served
    refine ⟨served, ?_⟩
    cases request <;> trivial
  · rename_i objects
    obtain ⟨rfl, rfl⟩ := Prod.mk.inj (Option.some.inj answered)
    refine ⟨?_, webVolumeCluster_named request⟩
    rw [faulty, if_neg objects]

/-- While one volume is withdrawn, the publication of the other succeeds and leaves its tree. -/
theorem twoVolumes_isolated :
    ∃ (pool : Pool Bool Call Reply Failure (List (Except Failure (Option Publication))) World)
      (publication : Publication) (data : List IngressAddress),
      Pool.Reaches faultyNamed (fun before after => ∀ index,
        before.files.SameAt (place (twoVolumes index).targetPath) after.files)
        ⟨{ cluster := webVolumeCluster, files := {} },
          fun index => performAll (twoVolumes index).operations⟩ pool ∧
      publication.addresses = some data ∧ pool.state.files.Publishes "/mnt/web" data := by
  have checked : (Pool.follow webAnswer (List.replicate 11 true ++ [false] ++ List.replicate 4 true ++
      [false] ++ List.replicate 3 true) (⟨{ cluster := webVolumeCluster, files := {} },
        fun index => performAll (twoVolumes index).operations⟩ :
          Pool Bool Call Reply Failure (List (Except Failure (Option Publication))) World)).map
      (fun pool => (pool.thread true).value?.map (·.map Except.isOk)) = some (some [true]) := by
    decide +kernel
  obtain ⟨pool, followed, ends⟩ := Option.map_eq_some_iff.mp checked
  obtain ⟨outcomes, shows, succeeded⟩ := Option.map_eq_some_iff.mp ends
  have reached := Pool.reaches_follow (fun before after => ∀ index,
    before.files.SameAt (place (twoVolumes index).targetPath) after.files) webAnswer_possible followed
  have apart : ∀ first second, first ≠ second → Unrelated
      (place (twoVolumes first).targetPath) (place (twoVolumes second).targetPath) := by decide
  obtain ⟨outcome, last, tells⟩ := volumes_isolated twoVolumes apart _ pool reached true outcomes
    (Program.value?_eq_some shows) _ rfl
  have ok : outcome.isOk = true := by
    have listed := List.mem_map_of_mem (f := Except.isOk) (List.mem_of_getLast? last)
    rw [succeeded] at listed
    exact List.mem_singleton.mp listed
  cases outcome with
  | error failure => cases ok
  | ok published =>
    obtain ⟨publication, data, -, told, publishes⟩ := tells
    exact ⟨pool, publication, data, reached, told, publishes⟩

end ListenerOperator
