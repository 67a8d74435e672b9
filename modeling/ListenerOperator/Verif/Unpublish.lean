import ListenerOperator.Verif.Retry

/-!
# Withdrawing a volume

Publications and withdrawals of one target path on a node on which anything can fail. Whatever
fails, at most one file system of the plugin is mounted on the target path, and the directory under
it stays, so that a withdrawal in which nothing fails can always undo what is there. The errors of
unmounting are not looked at: that a withdrawal succeeded is known from the removal alone.
-/

namespace ListenerOperator

open Interaction FileTree FilePath

variable {targetPath : String}

/-- Nothing is at a path, and nothing is mounted at its place or below it. -/
def FileSystem.Absent (targetPath : String) (files : FileSystem) : Prop :=
  files.lookup targetPath = none ∧ ∀ mounted ∈ files.mounts, ¬ place targetPath <:+ mounted.1

/-- A path leads to a place on which something is mounted. -/
def FileSystem.MountPoint (targetPath : String) (files : FileSystem) : Prop :=
  ∃ here, files.tree.find targetPath = some here ∧ files.Mounted here

/-- A withdrawal from a target path on a node on which anything can fail, or that can go down at
any time. -/
def Withdrawal (targetPath : String) (before after : World) : Prop :=
  ∃ request, request.targetPath = targetPath ∧
    (nodeUnpublishVolume request).Interrupted faulty before after

/-- Any number of publications and withdrawals. -/
abbrev Operations (targetPath : String) : World → World → Prop :=
  Relation.ReflTransGen fun before after =>
    Attempt targetPath before after ∨ Withdrawal targetPath before after

/-- The mounts that were there before, and one on the target path at most, on a directory. -/
def FileSystem.Held (targetPath : String) (others : List (Place × Tree)) (files : FileSystem) :
    Prop :=
  files.mounts = others ∨
    ∃ hidden, files.mounts = (place targetPath, hidden) :: others ∧ files.Made targetPath

/-- What was there before is not on the target path or below it. -/
def Apart (targetPath : String) (others : List (Place × Tree)) : Prop :=
  ∀ mounted ∈ others, ¬ place targetPath <:+ mounted.1

/-- Calls that make something leave the mounts. -/
theorem serveFiles_mounts {request : Call} (writes : request.Writes) (files : FileSystem) :
    (serveFiles request files).2.mounts = files.mounts := by
  have after : ∀ message tree, (files.after message tree).2.mounts = files.mounts := by
    intro message tree
    cases tree <;> rfl
  have located : ∀ (path message : String) {operation : Place → Except CallError Unit × FileSystem},
      (∀ here, (operation here).2.mounts = files.mounts) →
        (files.at path message operation).2.mounts = files.mounts := by
    intro path message operation stays
    rw [FileSystem.at]
    split
    · exact stays _
    · rfl
  cases request with
  | mkdirAll path => exact after _ _
  | writeFile path content =>
    refine located path _ fun here => ?_
    rw [FileSystem.writeFileAt]
    split
    · rfl
    · exact after _ _
  | symlink oldName newName =>
    rw [serveFiles]
    split
    · rfl
    · refine located newName _ fun here => ?_
      rw [FileSystem.symlinkAt]
      split
      · exact after _ _
      · rfl
  | _ => cases writes

/-- Calls that make something leave the mounts, also if they fail. -/
theorem faulty_mounts {request : Call} {reply : Reply request} {world after : World}
    (writes : request.Writes) (answered : faulty request world reply after) :
    after.files.mounts = world.files.mounts := by
  have file : request.kind = .file := (writes.adds "").kind
  rw [faulty, if_pos file] at answered
  rcases answered.2 with served | ⟨failure, -, part⟩
  · rw [(Prod.mk.inj served).2]
    exact serveFiles_mounts writes _
  · generalize after.files = left at part ⊢
    cases part with
    | nothing => rfl
    | all => exact serveFiles_mounts writes _
    | directories path done begun tree made => rfl
    | content path content other =>
      have writes : (Call.writeFile path other).Writes := trivial
      exact serveFiles_mounts writes _
    | removal => rfl

/-- Mounting and unmounting have their effect or none. -/
theorem faulty_whole {request : Call} {reply : Reply request} {world after : World}
    (whole : ∃ path, request = .mount path ∨ request = .unmount path)
    (answered : faulty request world reply after) :
    after.files = world.files ∨ after.files = (serveFiles request world.files).2 := by
  obtain ⟨path, rfl | rfl⟩ := whole
  all_goals
    rcases answered.2 with served | ⟨failure, -, part⟩
    · exact Or.inr (Prod.mk.inj served).2
    · generalize after.files = left at part ⊢
      cases part with
      | nothing => exact Or.inl rfl
      | all => exact Or.inr rfl

/-- Files of which some are removed: the mounts are the same, every entry stays or is gone, and what
is mounted on stays. -/
structure FileSystem.Reduced (before after : FileSystem) : Prop where
  mounts : after.mounts = before.mounts
  entries : ∀ other, after.tree.entry other = before.tree.entry other ∨
    after.tree.entry other = none
  busy : ∀ mounted ∈ before.mounts, after.tree.entry mounted.1 = before.tree.entry mounted.1

/-- Files of which nothing is removed. -/
theorem FileSystem.Reduced.refl (files : FileSystem) : files.Reduced files :=
  ⟨rfl, fun _ => Or.inl rfl, fun _ _ => rfl⟩

/-- A removal that leaves what leads to mounts. -/
theorem FileSystem.reduced_remove (files : FileSystem) (place : Place) {busy : List Place}
    (held : ∀ mounted ∈ files.mounts, mounted.1 ∈ busy) :
    files.Reduced { files with tree := files.tree.remove place busy } := by
  refine ⟨rfl, fun other => ?_, fun mounted listed => ?_⟩
  · rw [Tree.remove_entry]
    split
    · exact Or.inl rfl
    · exact Or.inr rfl
  · have kept : ∃ held ∈ busy, mounted.1 <:+ held :=
      ⟨mounted.1, held mounted listed, List.suffix_refl _⟩
    rw [Tree.remove_entry, if_pos (Or.inr (Or.inr kept))]

/-- A removal that is served removes some files. -/
theorem serveFiles_removeAll (path : String) (files : FileSystem) :
    files.Reduced (serveFiles (.removeAll path) files).2 := by
  have listed : ∀ mounted ∈ files.mounts, mounted.1 ∈ files.mounts.map (·.1) :=
    fun mounted among => List.mem_map_of_mem among
  rw [serveFiles]
  split
  · exact .refl files
  · split
    · exact .refl files
    · split
      · exact .refl files
      · split
        · exact files.reduced_remove _ fun mounted among => List.mem_cons_of_mem _ (listed _ among)
        · rw [FileSystem.removeAt]
          split
          · exact files.reduced_remove _ listed
          · exact files.reduced_remove _ listed

/-- A removal removes some files, also if it fails. -/
theorem faulty_removal {path : String} {reply : Reply (.removeAll path)} {world after : World}
    (answered : faulty (.removeAll path) world reply after) :
    world.files.Reduced after.files := by
  rcases answered.2 with same | ⟨failure, -, part⟩
  · rw [(Prod.mk.inj same).2]
    exact serveFiles_removeAll path world.files
  · generalize after.files = left at part ⊢
    cases part with
    | nothing => exact .refl world.files
    | all => exact serveFiles_removeAll path world.files
    | removal path place found tree removed busy =>
      exact ⟨rfl, fun other => (removed other).imp_right And.right, busy⟩

/-- What is mounted on the target path is mounted on a directory that is there. -/
def FileSystem.Grounded (targetPath : String) (files : FileSystem) : Prop :=
  files.Mounted (place targetPath) → files.Made targetPath

/-- A call that adds something leaves mounts on directories. -/
theorem FileSystem.Grounded.adds {request : Call} {reply : Reply request} {world after : World}
    (grounded : world.files.Grounded targetPath) (adds : request.Adds targetPath)
    (answered : faulty request world reply after) : after.files.Grounded targetPath := by
  by_cases made : world.files.Made targetPath
  · exact fun _ => faulty_directory adds made answered
  · -- nothing is mounted on the target path, and nothing can be as it is no directory
    have mounts : after.files.mounts = world.files.mounts := by
      cases request with
      | pathExists path => rw [(faulty_pathExists answered).1]
      | mkdirAll path => exact faulty_mounts (show (Call.mkdirAll _).Writes from trivial) answered
      | writeFile path content =>
        exact faulty_mounts (show (Call.writeFile _ _).Writes from trivial) answered
      | symlink oldName newName =>
        exact faulty_mounts (show (Call.symlink _ _).Writes from trivial) answered
      | mount path =>
        obtain rfl : path = targetPath := adds
        rcases faulty_whole ⟨_, Or.inl rfl⟩ answered with same | same
        · rw [same]
        · rw [same, serveFiles, FileSystem.at]
          split
          · rename_i here found
            have refused : world.files.tree.entry (place path) ≠ some .directory := made
            rw [Tree.find_eq found, FileSystem.mountAt, if_neg refused]
          · rfl
      | _ => cases adds
    intro mounted
    rw [FileSystem.Mounted, mounts] at mounted
    exact absurd (grounded mounted) made

/-- Unmounting leaves mounts on directories. -/
theorem FileSystem.Grounded.unmount {reply : Reply (.unmount targetPath)} {world after : World}
    (grounded : world.files.Grounded targetPath)
    (answered : faulty (.unmount targetPath) world reply after) :
    after.files.Grounded targetPath := by
  rcases faulty_whole ⟨_, Or.inr rfl⟩ answered with same | same
  · rw [same]
    exact grounded
  · rw [same, serveFiles, FileSystem.at]
    split
    · rename_i here found
      rw [Tree.find_eq found, FileSystem.unmountAt]
      split
      · exact grounded
      · rename_i hidden listed
        split
        · exact grounded
        · rename_i tree restored
          split
          · exact grounded
          · intro _
            obtain ⟨directory, entries⟩ := Tree.restore_entry restored
            show tree.entry _ = _
            rw [entries, if_neg fun below => below.2 rfl]
            exact directory
    · exact grounded

/-- A removal leaves mounts on directories. -/
theorem FileSystem.Grounded.removeAll {path : String} {reply : Reply (.removeAll path)}
    {world after : World} (grounded : world.files.Grounded targetPath)
    (answered : faulty (.removeAll path) world reply after) :
    after.files.Grounded targetPath := by
  have reduced := faulty_removal answered
  intro mounted
  rw [FileSystem.Mounted, reduced.mounts] at mounted
  obtain ⟨hidden, listed⟩ := mounted
  exact (reduced.busy _ listed).trans (grounded ⟨hidden, listed⟩)

section Held

variable {others : List (Place × Tree)}

/-- Calls that make something keep what is held. -/
theorem FileSystem.Held.writes {request : Call} {reply : Reply request} {world after : World}
    (held : world.files.Held targetPath others) (writes : request.Writes)
    (answered : faulty request world reply after) : after.files.Held targetPath others := by
  rw [FileSystem.Held, faulty_mounts writes answered]
  refine held.imp_right fun mounted => ?_
  obtain ⟨hidden, same, made⟩ := mounted
  exact ⟨hidden, same, faulty_directory (writes.adds targetPath) made answered⟩

variable (isClean : clean targetPath = targetPath)
include isClean

/-- A mount where nothing of the plugin is mounted. -/
theorem FileSystem.held_mount {reply : Reply (.mount targetPath)} {world after : World}
    (free : world.files.mounts = others)
    (answered : faulty (.mount targetPath) world reply after) :
    after.files.Held targetPath others := by
  have served : (serveFiles (.mount targetPath) world.files).2.Held targetPath others := by
    rw [serveFiles_mount_clean isClean, FileSystem.mountAt]
    split
    · rename_i directory
      refine Or.inr ⟨world.files.tree, by rw [free], ?_⟩
      rw [FileSystem.Made, Tree.clear_entry, if_neg (fun below => below.2 rfl), directory]
    · exact Or.inl free
  rcases faulty_whole ⟨_, Or.inl rfl⟩ answered with same | same
  · rw [same]
    exact Or.inl free
  · rw [same]
    exact served

/-- What is mounted on the target path is unmounted, and what is not below it stays. -/
theorem serveFiles_unmount (apart : Apart targetPath others) {files : FileSystem}
    (held : files.Held targetPath others) :
    (serveFiles (.unmount targetPath) files).2.mounts = others ∧
      ∀ above, above <:+ place targetPath →
        (serveFiles (.unmount targetPath) files).2.tree.entry above = files.tree.entry above := by
  have unrelated : others.find? (·.1 = place targetPath) = none := by
    rw [List.find?_eq_none]
    intro mounted listed same
    exact apart mounted listed (by rw [of_decide_eq_true same])
  rcases held with free | ⟨hidden, same, made⟩
  · have none : files.mounts.find? (·.1 = place targetPath) = none := by rw [free, unrelated]
    rw [serveFiles_unmount_clean isClean, FileSystem.unmountAt, none]
    exact ⟨free, fun _ _ => rfl⟩
  · have first : files.mounts.find? (·.1 = place targetPath) =
        some (place targetPath, hidden) := by
      simp [same]
    have idle : ¬ ∃ mounted ∈ files.mounts, Tree.Below (place targetPath) mounted.1 := by
      rw [same]
      rintro ⟨mounted, listed, below⟩
      rcases List.mem_cons.mp listed with rfl | listed
      · exact below.2 rfl
      · exact apart mounted listed below.1
    have rest : files.mounts.eraseP (·.1 = place targetPath) = others := by
      simp [same]
    obtain ⟨tree, restored, entries⟩ := Tree.restore_eq_some hidden made
    rw [serveFiles_unmount_clean isClean, FileSystem.unmountAt, first]
    simp only [restored, if_neg idle, rest]
    refine ⟨trivial, fun above higher => ?_⟩
    have outside : ¬ Tree.Below (place targetPath) above := by
      intro below
      exact below.2 (below.1.eq_of_length_le higher.length_le)
    rw [entries, if_neg outside]

/-- Unmounting keeps what is held, also if it fails. -/
theorem FileSystem.Held.unmount {reply : Reply (.unmount targetPath)} {world after : World}
    (apart : Apart targetPath others) (held : world.files.Held targetPath others)
    (answered : faulty (.unmount targetPath) world reply after) :
    after.files.Held targetPath others := by
  have served := (serveFiles_unmount isClean apart held).1
  rcases faulty_whole ⟨_, Or.inr rfl⟩ answered with same | same
  · rw [same]
    exact held
  · rw [same]
    exact Or.inl served

omit isClean in
/-- A removal keeps what is held: what is mounted is not removed. -/
theorem FileSystem.Held.removeAll {reply : Reply (.removeAll targetPath)} {world after : World}
    (held : world.files.Held targetPath others)
    (answered : faulty (.removeAll targetPath) world reply after) :
    after.files.Held targetPath others := by
  have reduced := faulty_removal answered
  rw [FileSystem.Held, reduced.mounts]
  refine held.imp_right fun mounted => ?_
  obtain ⟨hidden, same, made⟩ := mounted
  have stays := reduced.busy (place targetPath, hidden) (by rw [same]; exact List.mem_cons_self)
  exact ⟨hidden, same, stays.trans made⟩

/-- A publication on the node keeps what is held: it mounts on the target path only where nothing
was. -/
theorem publishToNode_keeps_held (n : NodeServer) (data : List IngressAddress) {world : World}
    (held : world.files.Held targetPath others) :
    (publishToNode n targetPath data).Keeps faulty (fun after => after.files.Held targetPath others)
      (fun _ after => after.files.Held targetPath others) world := by
  have mounts : (mount targetPath).Keeps faulty
      (fun after => after.files.Held targetPath others)
      (fun _ after => after.files.Held targetPath others) world := by
    have looked : (ask (.pathExists targetPath)).Keeps faulty
        (fun after => after.files.Held targetPath others)
        (fun exist after => after.files.Held targetPath others ∧
          exist = (after.files.tree.entry (place targetPath)).isSome) world := by
      refine keeps_ask (.pathExists _) held fun reply after answered => ?_
      obtain ⟨same, told⟩ := faulty_pathExists answered
      rw [same, ← world.files.lookup_clean isClean]
      exact ⟨held, fun exist replied => ⟨held, told exist replied⟩⟩
    refine looked.mapError.bind fun exist middle found => ?_
    cases exist with
    | true => exact found.1
    | false =>
      -- a mount on the target path would have shown as a directory
      have free : middle.files.mounts = others := by
        rcases found.1 with free | ⟨hidden, -, made⟩
        · exact free
        · have impossible := found.2
          rw [show middle.files.tree.entry (place targetPath) = some .directory from made]
            at impossible
          cases impossible
      have makes : (ask (.mkdirAll targetPath)).Keeps faulty
          (fun after => after.files.Held targetPath others)
          (fun _ after => after.files.mounts = others) middle := by
        refine keeps_ask (.mkdirAll _) found.1 fun reply after answered => ?_
        have same := faulty_mounts (show (Call.mkdirAll _).Writes from trivial) answered
        rw [free] at same
        exact ⟨Or.inl same, fun _ _ => same⟩
      refine makes.mapError.bind fun _ last empty => Program.Keeps.mapError ?_
      refine keeps_ask (.mount _) (Or.inl empty) fun reply after answered => ?_
      have kept := FileSystem.held_mount isClean empty answered
      exact ⟨kept, fun _ _ => kept⟩
  refine mounts.mapError.bind fun _ middle kept => ?_
  exact (writeData_ensures n targetPath data).mapError.keeps
    (fun _ _ _ _ writes stays answered => stays.writes writes answered)
    (fun _ stays => stays) kept

/-- Unmounting and removing keep the target path open. -/
theorem faulty_open (apart : Apart targetPath others) {request : Call} {reply : Reply request}
    {world after : World}
    (withdraws : request = .unmount targetPath ∨ request = .removeAll targetPath)
    (held : world.files.Held targetPath others) (isOpen : world.files.Open targetPath)
    (answered : faulty request world reply after) : after.files.Open targetPath := by
  rcases withdraws with rfl | rfl
  · rcases faulty_whole ⟨_, Or.inr rfl⟩ answered with same | same
    · rw [same]
      exact isOpen
    · intro above higher
      rw [same, (serveFiles_unmount isClean apart held).2 above higher]
      exact isOpen above higher
  · intro above higher
    rcases (faulty_removal answered).entries above with same | gone
    · rw [same]
      exact isOpen above higher
    · exact Or.inl gone

end Held

/-- The calls of a withdrawal; the reply of the first is not looked at. -/
def withdraw (targetPath : String) : Prog Unit :=
  .call (.unmount targetPath) fun _ => withStatus .internal (ask (.removeAll targetPath))

/-- A withdrawal with a volume and a target path makes its two calls. -/
theorem nodeUnpublishVolume_eq {request : NodeUnpublishVolumeRequest} (named : request.volumeId ≠ "")
    (targets : request.targetPath ≠ "") :
    nodeUnpublishVolume request = withdraw request.targetPath := by
  rw [nodeUnpublishVolume, if_neg named, if_neg targets]
  rfl

/-- A withdrawal is refused or makes its two calls. -/
theorem nodeUnpublishVolume_cases (request : NodeUnpublishVolumeRequest) :
    (∃ failure, nodeUnpublishVolume request = .done (.error failure)) ∨
      nodeUnpublishVolume request = withdraw request.targetPath := by
  by_cases named : request.volumeId = ""
  · exact Or.inl ⟨_, by rw [nodeUnpublishVolume, if_pos named]; rfl⟩
  · by_cases targets : request.targetPath = ""
    · exact Or.inl ⟨_, by rw [nodeUnpublishVolume, if_neg named, if_pos targets]; rfl⟩
    · exact Or.inr (nodeUnpublishVolume_eq named targets)

/-- A withdrawal unmounts and removes. -/
theorem withdraw_ensures (targetPath : String) :
    (withdraw targetPath).Ensures
      (fun call => call = .unmount targetPath ∨ call = .removeAll targetPath) fun _ => True :=
  ⟨Or.inl rfl, fun _ =>
    ((ensures_ask_iff (.removeAll targetPath)).mpr ⟨Or.inr rfl, fun _ => trivial⟩).mapError⟩

/-- A withdrawal keeps what is held, and keeps the target path open. -/
theorem Withdrawal.keep {others : List (Place × Tree)} (isClean : clean targetPath = targetPath)
    (apart : Apart targetPath others) {before after : World}
    (withdrawal : Withdrawal targetPath before after) (held : before.files.Held targetPath others) :
    after.files.Held targetPath others ∧
      (before.files.Open targetPath → after.files.Open targetPath) := by
  obtain ⟨request, rfl, interrupted⟩ := withdrawal
  rcases nodeUnpublishVolume_cases request with ⟨failure, refused⟩ | calls
  · rw [refused] at interrupted
    obtain rfl : after = before := interrupted
    exact ⟨held, fun isOpen => isOpen⟩
  · rw [calls] at interrupted
    let kept (world : World) : Prop := world.files.Held request.targetPath others ∧
      (before.files.Open request.targetPath → world.files.Open request.targetPath)
    have stays : ∀ call world (reply : Reply call) next,
        (call = .unmount request.targetPath ∨ call = .removeAll request.targetPath) →
          kept world → faulty call world reply next → kept next := by
      intro call world reply next withdraws holds answered
      refine ⟨?_, fun isOpen =>
        faulty_open isClean apart withdraws holds.1 (holds.2 isOpen) answered⟩
      rcases withdraws with rfl | rfl
      · exact holds.1.unmount isClean apart answered
      · exact holds.1.removeAll answered
    exact ((withdraw_ensures request.targetPath).keeps stays (fun _ holds => holds)
      ⟨held, fun isOpen => isOpen⟩).interrupted interrupted

/-- Publications and withdrawals keep what is held, and keep the target path open. -/
theorem Operations.keep {others : List (Place × Tree)} (isClean : clean targetPath = targetPath)
    (apart : Apart targetPath others) {before after : World}
    (operations : Operations targetPath before after) (held : before.files.Held targetPath others) :
    after.files.Held targetPath others ∧
      (before.files.Open targetPath → after.files.Open targetPath) := by
  induction operations with
  | refl => exact ⟨held, fun isOpen => isOpen⟩
  | tail _ operation ih =>
    obtain ⟨stays, opens⟩ := ih
    rcases operation with ⟨n, request, rfl, interrupted⟩ | withdrawal
    · have keepsHeld := nodePublishVolume_keeps
        (fun data _ kept => publishToNode_keeps_held isClean n data kept) stays
      refine ⟨keepsHeld.interrupted interrupted, fun isOpen => ?_⟩
      exact (nodePublishVolume_keeps
        (fun data _ kept => publishToNode_keeps_open isClean n data kept)
        (opens isOpen)).interrupted interrupted
    · obtain ⟨kept, stillOpen⟩ := withdrawal.keep isClean apart stays
      exact ⟨kept, fun isOpen => stillOpen (opens isOpen)⟩

/-- Publications and withdrawals leave mounts on directories, at any target path. -/
theorem Operations.grounded {before after : World} (operations : Operations targetPath before after)
    (grounded : before.files.Grounded targetPath) : after.files.Grounded targetPath := by
  induction operations with
  | refl => exact grounded
  | tail _ operation ih =>
    rcases operation with ⟨n, request, rfl, interrupted⟩ | ⟨request, rfl, interrupted⟩
    · refine (nodePublishVolume_keeps (fun data world holds => ?_) ih).interrupted interrupted
      exact ((mount_ensures _).mapError.bind fun _ _ => (writeData_adds n _ data).mapError).keeps
        (fun _ _ _ _ adds stays answered => stays.adds adds answered) (fun _ stays => stays) holds
    · rcases nodeUnpublishVolume_cases request with ⟨failure, refused⟩ | calls
      · rw [refused] at interrupted
        obtain rfl := interrupted
        exact ih
      · rw [calls] at interrupted
        have stays : ∀ call world (reply : Reply call) next,
            (call = .unmount request.targetPath ∨ call = .removeAll request.targetPath) →
              world.files.Grounded request.targetPath → faulty call world reply next →
                next.files.Grounded request.targetPath := by
          intro call world reply next withdraws holds answered
          rcases withdraws with rfl | rfl
          · exact holds.unmount answered
          · exact holds.removeAll answered
        exact ((withdraw_ensures request.targetPath).keeps stays (fun _ holds => holds)
          ih).interrupted interrupted

/-- A removal at a place succeeds only if nothing is mounted there or below, and then leaves nothing
there. -/
theorem FileSystem.removeAt_ok {files after : FileSystem} {target : Place}
    (removed : (.ok (), after) = files.removeAt target) :
    after.tree.entry target = none ∧ after.mounts = files.mounts ∧
      ∀ mounted ∈ files.mounts, ¬ target <:+ mounted.1 := by
  rw [FileSystem.removeAt] at removed
  split at removed
  · cases (Prod.mk.inj removed).1
  · rename_i idle
    have free : ∀ mounted ∈ files.mounts, ¬ target <:+ mounted.1 :=
      fun mounted listed inside => idle (Or.inr ⟨mounted, listed, inside⟩)
    have gone : ¬ (target = [] ∨ ¬ target <:+ target ∨
        ∃ held ∈ files.mounts.map (·.1), target <:+ held) := by
      rintro (root | outside | ⟨held, listed, inside⟩)
      · exact idle (Or.inl root)
      · exact outside (List.suffix_refl _)
      · obtain ⟨mounted, among, rfl⟩ := List.mem_map.mp listed
        exact free mounted among inside
    rw [(Prod.mk.inj removed).2]
    refine ⟨?_, rfl, free⟩
    show (files.tree.remove _ _).entry _ = none
    rw [Tree.remove_entry, if_neg gone]

/-- A removal that succeeded leaves nothing at the path, and nothing mounted there. -/
theorem faulty_removed {value : Value (.removeAll targetPath)} {world after : World}
    (answered : faulty (.removeAll targetPath) world (.ok value) after) :
    after.files.lookup targetPath = none ∧
      (world.files.Grounded targetPath → ¬ after.files.MountPoint targetPath) := by
  obtain ⟨-, served | ⟨failure, impossible, -⟩⟩ := answered
  · rw [serveFiles] at served
    split at served
    · cases (Prod.mk.inj served).1
    · split at served
      · -- nothing leads to the path
        rename_i missing
        rw [(Prod.mk.inj served).2, FileSystem.lookup, missing]
        refine ⟨rfl, fun _ mounted => ?_⟩
        obtain ⟨here, found, -⟩ := mounted
        rw [missing] at found
        cases found
      · rename_i here found
        obtain rfl := Tree.find_eq found
        split at served
        · -- what is mounted on the target path would have shown as a directory
          rename_i absent
          rw [(Prod.mk.inj served).2]
          refine ⟨FileSystem.lookup_of_absent absent, fun grounded mounted => ?_⟩
          obtain ⟨here, leads, mounted⟩ := mounted
          obtain rfl := Tree.find_eq leads
          have made : world.files.tree.entry (place targetPath) = some .directory :=
            grounded mounted
          rw [absent] at made
          cases made
        · split at served
          · cases (Prod.mk.inj served).1
          · obtain ⟨gone, same, free⟩ := FileSystem.removeAt_ok served
            refine ⟨FileSystem.lookup_of_absent gone, ?_⟩
            rintro - ⟨here, leads, hidden, listed⟩
            obtain rfl := Tree.find_eq leads
            rw [same] at listed
            exact free _ listed (List.suffix_refl _)
  · cases impossible

/-- A withdrawal that succeeded leaves nothing at the target path, and nothing mounted there. -/
theorem nodeUnpublishVolume_exec_ok {request : NodeUnpublishVolumeRequest} {world after : World}
    (grounded : world.files.Grounded request.targetPath)
    (executed : (nodeUnpublishVolume request).Exec faulty world (.ok ()) after) :
    after.files.lookup request.targetPath = none ∧ ¬ after.files.MountPoint request.targetPath := by
  rcases nodeUnpublishVolume_cases request with ⟨failure, refused⟩ | calls
  · rw [refused] at executed
    cases executed.1
  · rw [calls] at executed
    obtain ⟨reply, middle, unmounted, last⟩ := executed
    obtain ⟨outcome, ⟨removal, final, answered, ends⟩, same⟩ := Program.exec_mapError.mp last
    cases removal with
    | error failure =>
      obtain ⟨rfl, rfl⟩ := ends
      cases same
    | ok value =>
      obtain ⟨-, rfl⟩ := ends
      obtain ⟨gone, free⟩ := faulty_removed answered
      exact ⟨gone, free (grounded.unmount unmounted)⟩

/-- At a clean path that holds at most what the plugin has mounted, nothing is left if nothing is at
the path. -/
theorem FileSystem.Held.absent {others : List (Place × Tree)}
    (isClean : clean targetPath = targetPath) (apart : Apart targetPath others) {files : FileSystem}
    (held : files.Held targetPath others) (gone : files.lookup targetPath = none) :
    files.Absent targetPath := by
  refine ⟨gone, ?_⟩
  rcases held with free | ⟨hidden, -, made⟩
  · rw [free]
    exact apart
  · rw [files.lookup_clean isClean, show files.tree.entry (place targetPath) = some .directory
      from made] at gone
    cases gone

/-- The replies of a node on which removals do not fail. -/
def removing : Program.Answers Call Reply World := fun request world reply after =>
  faulty request world reply after ∧ ∀ path, request = .removeAll path → ∃ value, reply = .ok value

/-- A withdrawal whose removal does not fail succeeds. -/
theorem nodeUnpublishVolume_exec_removing {request : NodeUnpublishVolumeRequest}
    (named : request.volumeId ≠ "") (targets : request.targetPath ≠ "") {world after : World}
    {outcome : Except Failure Unit}
    (executed : (nodeUnpublishVolume request).Exec removing world outcome after) :
    outcome = .ok () := by
  rw [nodeUnpublishVolume_eq named targets] at executed
  obtain ⟨ignored, middle, -, last⟩ := executed
  obtain ⟨result, ⟨removal, final, answered, ends⟩, same⟩ := Program.exec_mapError.mp last
  obtain ⟨value, rfl⟩ := answered.2 _ rfl
  obtain ⟨rfl, -⟩ := ends
  exact same

/-- A withdrawal in which nothing fails but the unmounting of what is not mounted succeeds. -/
theorem nodeUnpublishVolume_run_held {others : List (Place × Tree)} (api : ApiServer)
    {request : NodeUnpublishVolumeRequest}
    (isClean : clean request.targetPath = request.targetPath) (named : request.volumeId ≠ "")
    (located : place request.targetPath ≠ []) (apart : Apart request.targetPath others)
    {world : World} (held : world.files.Held request.targetPath others) :
    ∃ after, (nodeUnpublishVolume request).run (serveNode api) world = (.ok (), after) := by
  let middle := (serveFiles (.unmount request.targetPath) world.files).2
  have targets : request.targetPath ≠ "" := by
    intro empty
    rw [empty] at located
    exact located (by decide)
  have mounts : middle.mounts = others := (serveFiles_unmount isClean apart held).1
  have idle : ¬ (place request.targetPath = [] ∨
      ∃ mounted ∈ middle.mounts, place request.targetPath <:+ mounted.1) := by
    rw [mounts]
    rintro (root | ⟨mounted, listed, inside⟩)
    · exact located root
    · exact apart mounted listed inside
  have removed : (ask (.removeAll request.targetPath)).run (serveNode api)
      { world with files := middle } = (.ok (), { world with files :=
        (serveFiles (.removeAll request.targetPath) middle).2 }) := by
    refine run_ask_file api rfl ?_
    rw [serveFiles_removeAll_clean isClean _ located]
    split
    · rfl
    · rw [FileSystem.removeAt, if_neg idle]
  rw [nodeUnpublishVolume_eq named targets]
  exact ⟨_, run_withStatus_ok _ _ removed⟩

/-- The replies of a node on which no call fails. -/
def flawless : Program.Answers Call Reply World := fun request world reply after =>
  faulty request world reply after ∧ ∃ value, reply = .ok value

/-- A call that does not fail returns. -/
theorem returns_ask (request : Call) :
    (ask request).Returns fun _ reply => ∃ value, reply = .ok value := by
  rintro reply ⟨value, rfl⟩
  exact ⟨value, rfl⟩

/-- The data is written if no call fails. -/
theorem writeData_returns (n : NodeServer) (targetPath : String) (data : List IngressAddress) :
    (writeData n targetPath (some data)).Returns fun _ reply => ∃ value, reply = .ok value := by
  have ports : ∀ path list,
      (writePorts path list).Returns fun _ reply => ∃ value, reply = .ok value := by
    intro path list
    induction list with
    | nil => exact ⟨(), rfl⟩
    | cons entry list ih => exact (returns_ask _).bind fun _ => ih
  have addresses : ∀ path last list,
      (writeAddresses n path last list).Returns fun _ reply => ∃ value, reply = .ok value := by
    intro path last list
    induction list generalizing last with
    | nil => exact ⟨last, rfl⟩
    | cons element list ih =>
      refine (returns_ask _).bind fun _ => .bind ?_ fun _ => ih _
      exact (returns_ask _).bind fun _ => (returns_ask _).bind fun _ => ports _ _
  exact (returns_ask _).bind fun _ => (addresses _ _ _).bind fun _ => returns_ask _

/-- A publication on the node to an absent target path succeeds if no call fails. -/
theorem publishToNode_exec_flawless (n : NodeServer) (data : List IngressAddress)
    {world final : World} {outcome : Except Failure Unit}
    (absent : world.files.lookup targetPath = none)
    (executed : (publishToNode n targetPath data).Exec flawless world outcome final) :
    outcome = .ok () := by
  have lookup : ∀ {result : Except Failure Bool} {after : World},
      (withStatus .internal (ask (.pathExists targetPath))).Exec flawless world result after →
        result = .ok false := by
    intro result after looked
    obtain ⟨found, ⟨reply, middle, ⟨answered, value, rfl⟩, ends⟩, rfl⟩ :=
      Program.exec_mapError.mp looked
    have told := (faulty_pathExists answered).2 value rfl
    rw [absent] at told
    obtain ⟨rfl, -⟩ := ends
    rw [told]
    rfl
  have mounts : ∀ {result : Except Failure Unit} {after : World},
      (mount targetPath).Exec flawless world result after → ∃ value, result = .ok value := by
    intro result after executed
    rcases Program.exec_bind.mp executed with ⟨failure, looked, -⟩ | ⟨exist, middle, looked, rest⟩
    · cases lookup looked
    · obtain rfl := Except.ok.inj (lookup looked)
      have returns : (do
          withStatus .internal (ask (.mkdirAll targetPath))
          withStatus .internal (ask (.mount targetPath)) : Prog Unit).Returns
            fun _ reply => ∃ value, reply = .ok value :=
        (returns_ask _).mapError.bind fun _ => (returns_ask _).mapError
      exact returns.exec (fun _ _ _ _ answered => answered.2) rest
  rcases Program.exec_bind.mp executed with ⟨failure, mounting, -⟩ | ⟨_, middle, -, writing⟩
  · obtain ⟨result, tried, same⟩ := Program.exec_mapError.mp mounting
    obtain ⟨value, rfl⟩ := mounts tried
    cases same
  · obtain ⟨value, same⟩ := (writeData_returns n targetPath data).mapError.exec
      (fun _ _ _ _ answered => answered.2) writing
    exact same

/-- Whatever failed in publications to a target path that was absent and in withdrawals from it: a
withdrawal that succeeds leaves nothing there, a withdrawal whose removal does not fail succeeds,
and after a withdrawal that succeeded a publication that finds its addresses succeeds if none of its
calls on files fails. At a clean target path, the removal does not fail on a node that serves all
calls, and neither do the calls of the publication for names as addresses and ports, if directories
could lead to the target path at first. -/
theorem nodeUnpublishVolume_restores {start now : World} (absent : start.files.Absent targetPath)
    (operations : Operations targetPath start now) :
    (∀ request after, request.targetPath = targetPath →
      (nodeUnpublishVolume request).Exec faulty now (.ok ()) after →
        after.files.lookup targetPath = none ∧ ¬ after.files.MountPoint targetPath ∧
          (clean targetPath = targetPath → after.files.Absent targetPath)) ∧
    (∀ request, request.targetPath = targetPath → request.volumeId ≠ "" →
      request.targetPath ≠ "" →
        (∀ outcome after, (nodeUnpublishVolume request).Exec removing now outcome after →
          outcome = .ok ()) ∧
        (clean targetPath = targetPath → ∀ api,
          ∃ after, (nodeUnpublishVolume request).run (serveNode api) now = (.ok (), after))) ∧
    (∀ request after, request.targetPath = targetPath →
      (nodeUnpublishVolume request).Exec faulty now (.ok ()) after →
        ∀ api n (publish : NodePublishVolumeRequest) publication data resolved,
          publish.targetPath = targetPath →
          (publishToCluster n publish).run (serveNode api) after =
            (.ok (publication, data), resolved) →
          (∀ outcome final,
            (publishToNode n targetPath data).Exec flawless resolved outcome final →
              outcome = .ok ()) ∧
          (clean targetPath = targetPath → start.files.Open targetPath → Nameable data →
            ∃ final, (nodePublishVolume n publish).run (serveNode api) after =
              (.ok publication, final))) := by
  have apart : Apart targetPath start.files.mounts := absent.2
  have grounded : now.files.Grounded targetPath := by
    refine operations.grounded fun mounted => ?_
    obtain ⟨hidden, listed⟩ := mounted
    exact absurd (List.suffix_refl _) (absent.2 _ listed)
  have success : ∀ request after, request.targetPath = targetPath →
      (nodeUnpublishVolume request).Exec faulty now (.ok ()) after →
        after.files.lookup targetPath = none ∧ ¬ after.files.MountPoint targetPath := by
    rintro request after rfl executed
    exact nodeUnpublishVolume_exec_ok grounded executed
  refine ⟨?_, ?_, ?_⟩
  · intro request after targets executed
    obtain ⟨gone, free⟩ := success request after targets executed
    refine ⟨gone, free, fun isClean => ?_⟩
    obtain ⟨held, -⟩ := operations.keep isClean apart (Or.inl rfl)
    obtain ⟨still, -⟩ :=
      Withdrawal.keep isClean apart ⟨request, targets, executed.interrupted⟩ held
    exact still.absent isClean apart gone
  · rintro request rfl named targets
    refine ⟨fun outcome after executed => ?_, fun isClean api => ?_⟩
    · exact nodeUnpublishVolume_exec_removing named targets executed
    · obtain ⟨held, -⟩ := operations.keep isClean apart (Or.inl rfl)
      have located : place request.targetPath ≠ [] := by
        intro root
        have impossible := absent.1
        rw [start.files.lookup_clean isClean, root, start.files.tree.root] at impossible
        cases impossible
      exact nodeUnpublishVolume_run_held api isClean named located apart held
  · rintro request after targets executed api n publish publication data resolved rfl finds
    have gone := (success request after targets executed).1
    obtain ⟨same, found⟩ := publishToCluster_run api finds
    rw [← same] at gone
    refine ⟨fun outcome final node => publishToNode_exec_flawless n data gone node, ?_⟩
    intro isClean isOpen nameable
    obtain ⟨held, opens⟩ := operations.keep isClean apart (Or.inl rfl)
    have stillOpen := (Withdrawal.keep isClean apart
      ⟨request, targets, executed.interrupted⟩ held).2 (opens isOpen)
    rw [← same] at stillOpen
    rw [resolved.files.lookup_clean isClean] at gone
    obtain ⟨files, -, written⟩ := publishToNode_run api n isClean nameable (found _ rfl) gone
      stillOpen
    refine ⟨{ resolved with files }, ?_⟩
    rw [nodePublishVolume, Program.run_bind_ok _ finds]
    exact Program.run_bind_ok _ written

/-- The request to withdraw `webVolume`. -/
def webWithdrawal : NodeUnpublishVolumeRequest where
  volumeId := "pv-1"
  targetPath := "/mnt/web"

/-- A publication cut off after the mount is withdrawn, which leaves nothing, and made again. -/
theorem webWithdrawal_restores : ∃ after final publication,
    (nodeUnpublishVolume webWithdrawal).run (serveNode (.filling "")) (webWorld 13) =
      (.ok (), after) ∧
    after.files.Absent "/mnt/web" ∧
    (nodePublishVolume .standard webRequest).run (serveNode (.filling "")) after =
      (.ok publication, final) := by
  have absent : ({} : FileSystem).Absent "/mnt/web" :=
    ⟨by decide +kernel, fun _ impossible => by cases impossible⟩
  have operations : Operations "/mnt/web" { cluster := webVolumeCluster, files := {} }
      (webWorld 13) :=
    .single (Or.inl ⟨.standard, webRequest, rfl, Program.interrupted_stateAfter
      (faulty_serveNode (.filling "")) 13 _ _⟩)
  have isClean : clean "/mnt/web" = "/mnt/web" := by decide +kernel
  obtain ⟨first, second, third⟩ := nodeUnpublishVolume_restores absent operations
  obtain ⟨after, withdrawn⟩ :=
    (second webWithdrawal rfl (by decide) (by decide)).2 isClean (.filling "")
  have executed := Program.exec_run (faulty_serveNode (.filling ""))
    (nodeUnpublishVolume webWithdrawal) (webWorld 13)
  rw [withdrawn] at executed
  obtain ⟨-, -, gone⟩ := first webWithdrawal after rfl executed
  rcases finds : (publishToCluster .standard webRequest).run (serveNode (.filling "")) after
    with ⟨outcome, resolved⟩
  have addressed : outcome.map Prod.snd = .ok webAddresses := by
    rw [show outcome = _ from (congrArg Prod.fst finds).symm,
      show after = _ from (congrArg Prod.snd withdrawn).symm]
    decide +kernel
  rcases outcome with failure | ⟨publication, data⟩
  · cases addressed
  · obtain rfl := Except.ok.inj addressed
    obtain ⟨final, published⟩ := (third webWithdrawal after rfl executed (.filling "") .standard
      webRequest publication webAddresses resolved rfl finds).2 isClean (Tree.empty_open _)
      webAddresses_nameable
    exact ⟨after, final, publication, withdrawn, gone isClean, published⟩

end ListenerOperator
