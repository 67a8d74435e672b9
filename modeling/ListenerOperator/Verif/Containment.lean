import ListenerOperator.Verif.Retry

/-!
# Where addresses are written

The paths of the published files are joined from the target path and from addresses and port names
that the status of a Listener may hold as it likes. Joining resolves dots and slashes in them, so
whether a file is written below the target path depends on where such a string leads to.
-/

namespace ListenerOperator

open Interaction FileTree FilePath MergePatch

/-- The place that a call creates or overwrites. -/
def Call.written : Call → Option Place
  | .mkdirAll path | .writeFile path _ | .symlink _ path => some (place path)
  | _ => none

/-- A call that creates or overwrites nothing but what is below a directory. -/
def Call.Inside (directory : Place) (call : Call) : Prop :=
  ∀ written, call.written = some written → Tree.Below directory written

/-- The directory of the addresses below a target path. -/
def addressesPath (targetPath : String) : String := join targetPath "addresses"

/-- The directory of the ports of an address. -/
def portsPath (targetPath address : String) : String :=
  join (join (addressesPath targetPath) address) "ports"

/-- All that is written for some data is below the target path, and the ports of an address are
written to the directory for them, in the directory of the address, below that of the addresses. -/
structure Contained (n : NodeServer) (targetPath : String) (data : List IngressAddress) : Prop where
  below : (writeData n targetPath (some data)).Ensures (Call.Inside (place targetPath)) fun _ => True
  ports : ∀ element ∈ data,
    (writePorts (portsPath targetPath element.address) (n.entries element.ports)).Ensures
      (fun call => call.Inside (place (portsPath targetPath element.address)) ∧
        Tree.Below (place (addressesPath targetPath))
          (place (join (addressesPath targetPath) element.address))) fun _ => True

/-- Where a string leads to from a directory. -/
def leads (directory : Place) (text : String) : Place := (components text).foldl walk directory

/-- Every address leads to a place below the target directory, or below the directory of the
addresses if it has ports, and every name of a port leads down from the directory of the ports. -/
def Descending (target : Place) (data : List IngressAddress) : Prop :=
  ∀ element ∈ data, Tree.Below target (leads ("addresses" :: target) element.address) ∧
    ∀ name port, element.ports[name]? = some port →
      Tree.Below ("addresses" :: target) (leads ("addresses" :: target) element.address) ∧
      Tree.Below ("ports" :: leads ("addresses" :: target) element.address)
        (leads ("ports" :: leads ("addresses" :: target) element.address) name)

/-- A name leads one step down. -/
theorem leads_name {directory : Place} {name : String} (isName : IsName name) :
    leads directory name = name :: directory := by
  obtain ⟨nonempty, nodot, noparent, plain⟩ := isName
  rw [leads, components_of_not_mem plain, List.foldl_cons, List.foldl_nil, walk,
    if_neg (by simp [nonempty, nodot]), if_neg noparent]

/-- The loop over the ports ensures what its calls do. -/
theorem writePorts_ensures_iff {allowed : Call → Prop} {last : Prop} (path : String)
    (ports : List (String × Int)) :
    (writePorts path ports).Ensures allowed (fun _ => last) ↔
      (∀ entry ∈ ports, allowed (.writeFile (join path entry.1) (toString entry.2))) ∧ last := by
  induction ports with
  | nil => simp [writePorts, Program.Ensures]
  | cons entry ports ih =>
    rw [writePorts, Program.ensures_bind_iff, ensures_ask_iff (.writeFile _ _)]
    simp [ih, and_assoc]

/-- Writing an address ensures what its calls do. -/
theorem writeAddress_ensures_iff {allowed : Call → Prop} {last : Prop} (n : NodeServer)
    (path : String) (element : IngressAddress) :
    (writeAddress n path element).Ensures allowed (fun _ => last) ↔
      (allowed (.writeFile (join path "address") element.address) ∧
        allowed (.mkdirAll (join path "ports")) ∧ ∀ entry ∈ n.entries element.ports,
          allowed (.writeFile (join (join path "ports") entry.1) (toString entry.2))) ∧ last := by
  rw [writeAddress, Program.ensures_bind_iff, ensures_ask_iff (.writeFile _ _)]
  simp only [Program.ensures_bind_iff, ensures_ask_iff (.mkdirAll _), writePorts_ensures_iff]
  simp [and_assoc]

/-- The loop over the data ensures what its calls do. -/
theorem writeAddresses_ensures_iff {allowed : Call → Prop} {last : Prop} (n : NodeServer)
    (path default : String) (data : List IngressAddress) :
    (writeAddresses n path default data).Ensures allowed (fun _ => last) ↔
      (∀ element ∈ data, allowed (.mkdirAll (join path element.address)) ∧
        allowed (.writeFile (join (join path element.address) "address") element.address) ∧
        allowed (.mkdirAll (join (join path element.address) "ports")) ∧
        ∀ entry ∈ n.entries element.ports, allowed (.writeFile
          (join (join (join path element.address) "ports") entry.1) (toString entry.2))) ∧ last := by
  induction data generalizing default with
  | nil => simp [writeAddresses, Program.Ensures]
  | cons element data ih =>
    rw [writeAddresses, Program.ensures_bind_iff, ensures_ask_iff (.mkdirAll _)]
    simp only [Program.ensures_bind_iff, ih, writeAddress_ensures_iff]
    simp [and_assoc]

/-- A directory is made inside another if its place is below it. -/
@[simp] theorem inside_mkdirAll {directory : Place} {path : String} :
    (Call.mkdirAll path).Inside directory ↔ Tree.Below directory (place path) := by
  simp [Call.Inside, Call.written]

/-- A file is written inside a directory if its place is below it. -/
@[simp] theorem inside_writeFile {directory : Place} {path content : String} :
    (Call.writeFile path content).Inside directory ↔ Tree.Below directory (place path) := by
  simp [Call.Inside, Call.written]

/-- A link is made inside a directory if its place is below it. -/
@[simp] theorem inside_symlink {directory : Place} {oldName newName : String} :
    (Call.symlink oldName newName).Inside directory ↔ Tree.Below directory (place newName) := by
  simp [Call.Inside, Call.written]

/-- The place of the directory of the addresses. -/
theorem place_addressesPath (targetPath : String) :
    place (addressesPath targetPath) = "addresses" :: place targetPath :=
  place_join_name _ (by decide)

/-- The place of the directory of the ports of an address. -/
theorem place_portsPath (targetPath address : String) :
    place (portsPath targetPath address) =
      "ports" :: leads ("addresses" :: place targetPath) address := by
  rw [portsPath, place_join_name _ (by decide), place_join, place_addressesPath]
  rfl

/-- The data is written below the target path if every directory of an address and every file of a
port is. -/
theorem writeData_inside_iff (n : NodeServer) (targetPath : String) (data : List IngressAddress) :
    (writeData n targetPath (some data)).Ensures (Call.Inside (place targetPath)) (fun _ => True) ↔
      ∀ element ∈ data,
        Tree.Below (place targetPath) (place (join (addressesPath targetPath) element.address)) ∧
        ∀ entry ∈ n.entries element.ports, Tree.Below (place targetPath)
          (place (join (portsPath targetPath element.address) entry.1)) := by
  have link : Tree.Below (place targetPath) (place (join targetPath "default-address")) := by
    rw [place_join_name _ (by decide)]
    exact Tree.below_cons _ _
  have addresses : Tree.Below (place targetPath) (place (join targetPath "addresses")) := by
    rw [place_join_name _ (by decide)]
    exact Tree.below_cons _ _
  have named : ∀ {path name : String}, IsName name → Tree.Below (place targetPath) (place path) →
      Tree.Below (place targetPath) (place (join path name)) := by
    intro path name isName below
    rw [place_join_name _ isName]
    exact below.cons name
  rw [writeData, Program.ensures_bind_iff, ensures_ask_iff (.mkdirAll _)]
  simp only [symlinkToDefaultAddress, Program.ensures_bind_iff, ensures_ask_iff (.symlink _ _),
    inside_symlink, inside_mkdirAll, inside_writeFile, writeAddresses_ensures_iff, link, addresses,
    forall_const, and_true, true_and]
  refine forall₂_congr fun element _ => and_congr_right fun below => ?_
  have file := named (show IsName "address" by decide) below
  have folder := named (show IsName "ports" by decide) below
  exact ⟨fun all => all.2.2, fun ports => ⟨file, folder, ports⟩⟩

/-- What is written for some data is below the target path, and in the directories meant for it, if
and only if the addresses and the names of the ports lead down from there. -/
theorem writeData_contained_iff (n : NodeServer) (targetPath : String)
    (data : List IngressAddress) :
    Contained n targetPath data ↔ Descending (place targetPath) data := by
  have addressPlace : ∀ address, place (join (addressesPath targetPath) address) =
      leads ("addresses" :: place targetPath) address := by
    intro address
    rw [place_join, place_addressesPath]
    rfl
  have portPlace : ∀ address name, place (join (portsPath targetPath address) name) =
      leads ("ports" :: leads ("addresses" :: place targetPath) address) name := by
    intro address name
    rw [place_join, place_portsPath]
    rfl
  have ports : ∀ element : IngressAddress,
      (writePorts (portsPath targetPath element.address) (n.entries element.ports)).Ensures
        (fun call => call.Inside (place (portsPath targetPath element.address)) ∧
          Tree.Below (place (addressesPath targetPath))
            (place (join (addressesPath targetPath) element.address))) (fun _ => True) ↔
      ∀ name port, element.ports[name]? = some port →
        Tree.Below ("addresses" :: place targetPath)
          (leads ("addresses" :: place targetPath) element.address) ∧
        Tree.Below ("ports" :: leads ("addresses" :: place targetPath) element.address)
          (leads ("ports" :: leads ("addresses" :: place targetPath) element.address) name) := by
    intro element
    simp only [writePorts_ensures_iff, inside_writeFile, portPlace, place_portsPath,
      place_addressesPath, addressPlace, Prod.forall, n.mem_entries, and_true]
    simp only [and_comm]
  constructor
  · rintro ⟨below, own⟩ element listed
    have first := ((writeData_inside_iff n targetPath data).mp below element listed).1
    exact ⟨addressPlace element.address ▸ first, (ports element).mp (own element listed)⟩
  · intro descending
    refine ⟨(writeData_inside_iff n targetPath data).mpr fun element listed => ?_,
      fun element listed => (ports element).mpr (descending element listed).2⟩
    obtain ⟨below, own⟩ := descending element listed
    refine ⟨by rwa [addressPlace], fun entry visited => ?_⟩
    obtain ⟨-, deeper⟩ := own entry.1 entry.2 ((n.mem_entries _ _ _).mp visited)
    rw [portPlace]
    exact (below.cons "ports").trans deeper

/-- Names lead down. -/
theorem Nameable.descending {data : List IngressAddress} (nameable : Nameable data)
    (target : Place) : Descending target data := by
  have down : ∀ directory {name : String}, IsName name →
      Tree.Below directory (leads directory name) := by
    intro directory name isName
    rw [leads_name isName]
    exact Tree.below_cons _ _
  intro element listed
  obtain ⟨addressed, named⟩ := nameable element listed
  have below := down ("addresses" :: target) addressed
  exact ⟨(Tree.below_cons _ _).trans below, fun name port held =>
    ⟨below, down _ (named name port held)⟩⟩

/-- A status whose address leads out of the target path. -/
def escapingListener : Listener := { webListener with
  status := {
    serviceName := "web"
    ingressAddresses := [{
      address := "../../../etc/cron.d"
      addressType := .hostname
      ports := .single "../../job" 80 }] } }

/-- The publication of `escapingListener` to `/mnt/web` succeeds and writes files to other
directories. -/
theorem writeData_escapes :
    ¬ Contained .standard "/mnt/web"
      (escapingListener.status.ingressAddresses.map IngressAddressSpec.ingressAddress) ∧
    ((nodePublishVolume .standard webRequest).run (serveNode (.filling ""))
      { cluster := { webVolumeCluster with listeners := .ofList [escapingListener] }
        files := {} }).1.isOk = true ∧
    ((nodePublishVolume .standard webRequest).run (serveNode (.filling ""))
      { cluster := { webVolumeCluster with listeners := .ofList [escapingListener] }
        files := {} }).2.files.tree.entry (place "/etc/cron.d/address") =
          some (.file "../../../etc/cron.d") ∧
    ((nodePublishVolume .standard webRequest).run (serveNode (.filling ""))
      { cluster := { webVolumeCluster with listeners := .ofList [escapingListener] }
        files := {} }).2.files.tree.entry (place "/etc/job") = some (.file "80") := by
  refine ⟨?_, by decide +kernel, by decide +kernel, by decide +kernel⟩
  intro contained
  have below := ((writeData_inside_iff _ _ _).mp contained.below _ List.mem_cons_self).1
  revert below
  decide +kernel

end ListenerOperator
