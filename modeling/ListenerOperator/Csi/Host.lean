import ListenerOperator.ApiServer
import ListenerOperator.Base.FileTree
import ListenerOperator.Base.Path

/-!
# The node

How calls on files are answered on a node, in full and when they fail. A path is looked up
component by component, so `..` leads to the parent of a directory that is there. Links are not
followed, and what is below a file counts as absent. A mounted file system hides what is below its
directory until it is unmounted. The plugin runs in the root directory, so relative paths start
there. Calls on objects go to the API server.
-/

namespace ListenerOperator

open Interaction FileTree FilePath

/-- The files of a node, with the mounts, the last first, and the tree that each one hides. -/
structure FileSystem where
  tree : Tree := .empty
  mounts : List (Place × Tree) := []

/-- A directory has a file system mounted on it. -/
def FileSystem.Mounted (files : FileSystem) (place : Place) : Prop :=
  ∃ hidden, (place, hidden) ∈ files.mounts

/-- The files after an operation that may be impossible. -/
def FileSystem.after (files : FileSystem) (message : String) :
    Option Tree → Except CallError Unit × FileSystem
  | some tree => (.ok (), { files with tree })
  | none => (.error (serverError .other message), files)

/-- Write an entry at a place that is no directory. -/
def FileSystem.write (files : FileSystem) (place : Place) (new : Entry) :
    Except CallError Unit × FileSystem :=
  files.after "not a file in a directory" <|
    match place with
    | [] => none
    | name :: parent => files.tree.put name parent new

/-- Mount a file system on a directory. -/
def FileSystem.mountAt (files : FileSystem) (place : Place) : Except CallError Unit × FileSystem :=
  if files.tree.entry place = some .directory then
    (.ok (), { tree := files.tree.clear place, mounts := (place, files.tree) :: files.mounts })
  else (.error (serverError .other "not a directory"), files)

/-- Unmount the last file system that was mounted on a directory. -/
def FileSystem.unmountAt (files : FileSystem) (place : Place) :
    Except CallError Unit × FileSystem :=
  match files.mounts.find? (·.1 = place) with
  | none => (.error (serverError .other "not mounted"), files)
  | some (_, hidden) =>
    match files.tree.restore hidden place with
    | none => (.error (serverError .other "not mounted"), files)
    | some tree =>
      if ∃ mounted ∈ files.mounts, Tree.Below place mounted.1 then
        (.error (serverError .other "busy"), files)
      else (.ok (), { tree, mounts := files.mounts.eraseP (·.1 = place) })

/-- Write a file. -/
def FileSystem.writeFileAt (files : FileSystem) (content : String) (place : Place) :
    Except CallError Unit × FileSystem :=
  match files.tree.entry place with
  | some (.link _) => (.error (serverError .other "a link"), files)
  | _ => files.write place (.file content)

/-- Make a link where there is nothing. -/
def FileSystem.symlinkAt (files : FileSystem) (oldName : String) (place : Place) :
    Except CallError Unit × FileSystem :=
  match files.tree.entry place with
  | none => files.write place (.link oldName)
  | some _ => (.error (serverError .other "exists"), files)

/-- Remove what is at a place and below it, but for mounts and what leads to them. -/
def FileSystem.removeAt (files : FileSystem) (place : Place) :
    Except CallError Unit × FileSystem :=
  let after := { files with tree := files.tree.remove place (files.mounts.map (·.1)) }
  if place = [] ∨ ∃ mounted ∈ files.mounts, place <:+ mounted.1 then
    (.error (serverError .other "busy"), after)
  else (.ok (), after)

/-- Remove what is below a place, for a path that ends in `..`; the place itself stays. -/
def FileSystem.emptyAt (files : FileSystem) (place : Place) :
    Except CallError Unit × FileSystem :=
  (.error (serverError .other "not empty"),
    { files with tree := files.tree.remove place (place :: files.mounts.map (·.1)) })

/-- An operation at the place to which a path leads. -/
def FileSystem.at (files : FileSystem) (path message : String)
    (operation : Place → Except CallError Unit × FileSystem) :
    Except CallError Unit × FileSystem :=
  match files.tree.find path with
  | some place => operation place
  | none => (.error (serverError .other message), files)

/-- What is at a path. -/
def FileSystem.lookup (files : FileSystem) (path : String) : Option Entry :=
  (files.tree.find path).bind files.tree.entry

/-- The answer to a call on files and the files it leaves. -/
def serveFiles : (request : Call) → FileSystem → Reply request × FileSystem
  | .pathExists path, files => (.ok (files.lookup path).isSome, files)
  | .mkdirAll path, files =>
    files.after "not a directory"
      (if path = "" then none else Tree.mkdirPath [] (components path) files.tree)
  | .mount path, files => files.at path "not a directory" files.mountAt
  | .unmount path, files => files.at path "not mounted" files.unmountAt
  | .writeFile path content, files =>
    files.at path "not a file in a directory" (files.writeFileAt content)
  | .symlink oldName newName, files =>
    if oldName = "" then (.error (serverError .other "no target"), files)
    else files.at newName "not a file in a directory" (files.symlinkAt oldName)
  | .removeAll path, files =>
    if (components path).getLast? = some "." then
      (.error (serverError .other "invalid argument"), files)
    else
      match files.tree.find path with
      | none => (.ok (), files)
      | some place =>
        if files.tree.entry place = none then (.ok (), files)
        else if (components path).getLast? = some ".." then files.emptyAt place
        else files.removeAt place
  | .getListener _, files | .getListenerClass _, files | .getService _, files | .getNode _, files
  | .getPod _, files | .getPV _, files | .getPVC _, files | .getPodListeners _, files
  | .listListeners, files | .listEndpointSlices _ _, files | .createService _, files
  | .updateService _, files | .createListener _, files | .updateListenerStatus _, files
  | .createPodListeners _, files | .patchPodListeners _ _, files | .patchPV _ _, files
  | .patchPod _ _, files => (.error (serverError .other "not a call on files"), files)

/-- Nothing is at a path if nothing is at its place. -/
theorem FileSystem.lookup_of_absent {files : FileSystem} {path : String}
    (absent : files.tree.entry (place path) = none) : files.lookup path = none := by
  rw [FileSystem.lookup]
  cases found : files.tree.find path with
  | none => rfl
  | some here =>
    rw [Tree.find_eq found]
    exact absent

/-- A write where there is no directory for it. -/
theorem FileSystem.write_of_missing (files : FileSystem) {place : Place}
    (missing : files.tree.entry place.tail ≠ some .directory) (new : Entry) :
    files.write place new = (.error (serverError .other "not a file in a directory"), files) := by
  cases place with
  | nil => rfl
  | cons name parent =>
    rw [FileSystem.write, Tree.put, dif_neg fun allowed => missing allowed.1]
    rfl

section Clean

variable {path : String} (isClean : clean path = path) (files : FileSystem)
include isClean

/-- An operation at the place of a clean path, if it fails anyway where there is no directory for
it. -/
theorem FileSystem.at_clean (message : String)
    {operation : Place → Except CallError Unit × FileSystem}
    (missing : files.tree.entry (place path).tail ≠ some .directory →
      operation (place path) = (.error (serverError .other message), files)) :
    files.at path message operation = operation (place path) := by
  rw [FileSystem.at, files.tree.find_clean isClean]
  by_cases parent : files.tree.entry (place path).tail = some .directory
  · rw [if_pos parent]
  · rw [if_neg parent, missing parent]

/-- What is at a clean path is what is at its place. -/
theorem FileSystem.lookup_clean : files.lookup path = files.tree.entry (place path) :=
  files.tree.find_bind_entry isClean

/-- Nothing is at a clean path whose directory is not there. -/
theorem entry_of_missing (missing : files.tree.entry (place path).tail ≠ some .directory) :
    files.tree.entry (place path) = none := by
  rw [← files.lookup_clean isClean, FileSystem.lookup, files.tree.find_clean isClean,
    if_neg missing]
  rfl

/-- Whether there is something at a clean path. -/
theorem serveFiles_pathExists_clean : serveFiles (.pathExists path) files =
    (.ok (files.tree.entry (place path)).isSome, files) := by
  rw [serveFiles, files.lookup_clean isClean]

/-- The directories of a clean path. -/
theorem serveFiles_mkdirAll_clean : serveFiles (.mkdirAll path) files =
    files.after "not a directory" (Tree.mkdirAll (place path) files.tree) := by
  have nonempty : path ≠ "" := by
    rintro rfl
    exact absurd isClean (by decide)
  obtain ⟨above, -, whole, made⟩ := Tree.mkdirPath_clean isClean (List.prefix_refl _)
  rw [serveFiles, if_neg nonempty, made, whole rfl]

/-- A mount on a clean path. -/
theorem serveFiles_mount_clean : serveFiles (.mount path) files = files.mountAt (place path) := by
  rw [serveFiles]
  refine files.at_clean isClean _ fun missing => ?_
  rw [FileSystem.mountAt, entry_of_missing isClean files missing, if_neg (by simp)]

/-- An unmount of a clean path. -/
theorem serveFiles_unmount_clean :
    serveFiles (.unmount path) files = files.unmountAt (place path) := by
  rw [serveFiles]
  refine files.at_clean isClean _ fun missing => ?_
  have absent := entry_of_missing isClean files missing
  rw [FileSystem.unmountAt]
  split
  · rfl
  · rw [Tree.restore, dif_neg (by rw [absent]; simp)]

/-- A file at a clean path. -/
theorem serveFiles_writeFile_clean (content : String) : serveFiles (.writeFile path content) files =
    files.writeFileAt content (place path) := by
  rw [serveFiles]
  refine files.at_clean isClean _ fun missing => ?_
  rw [FileSystem.writeFileAt, entry_of_missing isClean files missing]
  exact files.write_of_missing missing _

/-- A link at a clean path. -/
theorem serveFiles_symlink_clean {oldName : String} (nonempty : oldName ≠ "") :
    serveFiles (.symlink oldName path) files = files.symlinkAt oldName (place path) := by
  rw [serveFiles, if_neg nonempty]
  refine files.at_clean isClean _ fun missing => ?_
  rw [FileSystem.symlinkAt, entry_of_missing isClean files missing]
  exact files.write_of_missing missing _

/-- A removal of a clean path other than the root. -/
theorem serveFiles_removeAll_clean (inside : place path ≠ []) :
    serveFiles (.removeAll path) files =
      if files.tree.entry (place path) = none then (.ok (), files)
      else files.removeAt (place path) := by
  obtain ⟨lead, parts, -⟩ := components_of_clean isClean
  obtain ⟨name, parent, located⟩ := List.exists_cons_of_ne_nil inside
  have named : IsName name := isName_of_mem_place (by rw [located]; exact List.mem_cons_self)
  have last : (components path).getLast? = some name := by
    rw [parts, located]
    simp
  have dot : some name ≠ some "." := fun same => named.2.1 (Option.some.inj same)
  have parents : some name ≠ some ".." := fun same => named.2.2.1 (Option.some.inj same)
  rw [serveFiles, last, if_neg dot, files.tree.find_clean isClean]
  by_cases directory : files.tree.entry (place path).tail = some .directory
  · simp only [if_pos directory, if_neg parents]
  · rw [if_neg directory, if_pos (entry_of_missing isClean files directory)]

end Clean

/-- A cluster and the files of one of its nodes. -/
structure World where
  cluster : Cluster
  files : FileSystem

/-- The answer to a call of the plugin. -/
def serveNode (api : ApiServer) (request : Call) (world : World) : Reply request × World :=
  if request.kind = .file then
    ((serveFiles request world.files).1, { world with files := (serveFiles request world.files).2 })
  else
    ((serve api request world.cluster).1, { world with cluster := (serve api request world.cluster).2 })

/-- What a failed call on files may have done: nothing, all it was asked for, some of the
directories above a new one, other content of a file, or the removal of a part of what was to be
removed, with nothing mounted in it. -/
inductive FileSystem.Partial (files : FileSystem) : Call → FileSystem → Prop where
  | nothing (request : Call) : Partial files request files
  | all (request : Call) : Partial files request (serveFiles request files).2
  | directories (path : String) (done : List String) (begun : done <+: components path)
      (tree : Tree) (made : Tree.mkdirPath [] done files.tree = some tree) :
      Partial files (.mkdirAll path) { files with tree }
  | content (path content other : String) :
      Partial files (.writeFile path content) (serveFiles (.writeFile path other) files).2
  | removal (path : String) (place : Place) (found : files.tree.find path = some place)
      (tree : Tree) (removed : ∀ other, tree.entry other = files.tree.entry other ∨
        (place <:+ other ∧ tree.entry other = none))
      (busy : ∀ mounted ∈ files.mounts, tree.entry mounted.1 = files.tree.entry mounted.1) :
      Partial files (.removeAll path) { files with tree }

/-- The replies of a node on which anything can fail: calls on objects get any reply, and calls
on files are served or fail with a part of their effect. -/
def faulty : Program.Answers Call Reply World := fun request world reply after =>
  if request.kind = .file then
    after.cluster = world.cluster ∧ ((reply, after.files) = serveFiles request world.files ∨
      ∃ failure, reply = .error failure ∧ world.files.Partial request after.files)
  else after.files = world.files

/-- A node that serves all calls is one on which anything can fail. -/
theorem faulty_serveNode (api : ApiServer) (request : Call) (world : World) :
    faulty request world (serveNode api request world).1 (serveNode api request world).2 := by
  rw [faulty, serveNode]
  by_cases file : request.kind = .file
  · rw [if_pos file, if_pos file]
    exact ⟨rfl, Or.inl rfl⟩
  · rw [if_neg file, if_neg file]

end ListenerOperator
