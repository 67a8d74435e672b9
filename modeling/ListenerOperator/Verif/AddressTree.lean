import ListenerOperator.Verif.DefaultAddress

/-!
# The tree of the addresses

What a reader finds on the node: the tree encodes the addresses with their ports, and the link to
the default address is made last, so that whoever finds the link finds the whole tree.
-/

namespace ListenerOperator

open Interaction FileTree FilePath MergePatch

/-- The port of an address and a name is one that an element with the address has. -/
theorem lastPort_eq_some {data : List IngressAddress} {address name : String} {port : Int}
    (found : lastPort data address name = some port) :
    ∃ element ∈ data, element.address = address ∧ element.ports[name]? = some port := by
  induction data using List.reverseRecOn with
  | nil => cases found
  | append_singleton data last ih =>
    have earlier : lastPort data address name = some port →
        ∃ element ∈ data ++ [last], element.address = address ∧
          element.ports[name]? = some port := by
      intro before
      obtain ⟨element, listed, held⟩ := ih before
      exact ⟨element, List.mem_append_left _ listed, held⟩
    rw [lastPort_append] at found
    split at found
    next here =>
      cases own : last.ports[name]? with
      | none => exact earlier (by simpa [own] using found)
      | some other =>
        rw [own] at found
        obtain rfl : other = port := by simpa using found
        exact ⟨last, by simp, here, own⟩
    · exact earlier found

/-- There is a port for every name that an element has. -/
theorem lastPort_isSome {data : List IngressAddress} {element : IngressAddress} {name : String}
    (listed : element ∈ data) (held : element.ports[name]?.isSome) :
    (lastPort data element.address name).isSome := by
  induction data using List.reverseRecOn with
  | nil => cases listed
  | append_singleton data last ih =>
    rw [lastPort_append]
    rcases List.mem_append.mp listed with before | own
    · have earlier := ih before
      split
      · cases last.ports[name]? <;> simp [earlier]
      · exact earlier
    · obtain rfl := List.mem_singleton.mp own
      simp [held]

/-- Elements with the same address have the same ports. -/
def Agreeing (data : List IngressAddress) : Prop :=
  ∀ first ∈ data, ∀ second ∈ data, first.address = second.address → first.ports = second.ports

/-- Where equal addresses have equal ports, the ports of an address are those of its element. -/
theorem Agreeing.lastPort {data : List IngressAddress} (agreeing : Agreeing data)
    {element : IngressAddress} (listed : element ∈ data) (name : String) :
    lastPort data element.address name = element.ports[name]? := by
  cases found : ListenerOperator.lastPort data element.address name with
  | none =>
    by_contra differs
    have held : element.ports[name]?.isSome := Option.isSome_iff_ne_none.mpr (Ne.symm differs)
    have some := lastPort_isSome listed held
    rw [found] at some
    cases some
  | some port =>
    obtain ⟨other, among, same, held⟩ := lastPort_eq_some found
    rw [← agreeing other among element listed same, held]

/-- A call that makes directories and files at or below a directory, by a clean path. -/
def Call.Populates (directory : Place) : Call → Prop
  | .mkdirAll path | .writeFile path _ => clean path = path ∧ directory <:+ place path
  | _ => False

/-- Such a call is a call on files. -/
theorem Call.Populates.file {directory : Place} {request : Call}
    (populates : request.Populates directory) : request.kind = .file := by
  cases request with
  | mkdirAll path => rfl
  | writeFile path content => rfl
  | _ => cases populates

/-- What is written at or below a directory leaves a place apart from it. -/
theorem serveFiles_populates {directory other : Place} {request : Call}
    (apart : ∀ place, directory <:+ place → ¬ other <:+ place) (populates : request.Populates directory)
    (files : FileSystem) :
    (serveFiles request files).2.tree.entry other = files.tree.entry other := by
  cases request with
  | mkdirAll path =>
    rw [serveFiles_mkdirAll_clean populates.1]
    cases made : Tree.mkdirAll (place path) files.tree with
    | none => rfl
    | some tree =>
      obtain same | ⟨above, -⟩ := (Tree.mkdirAll_entry made).2 other
      · exact same
      · exact absurd above (apart _ populates.2)
  | writeFile path content =>
    have different : other ≠ place path := by
      rintro rfl
      exact apart _ populates.2 (List.suffix_refl _)
    rw [serveFiles_writeFile_clean populates.1, FileSystem.writeFileAt]
    split
    · rfl
    · cases located : place path with
      | nil => rfl
      | cons name parent =>
        rw [located] at different
        rw [FileSystem.write]
        cases put : files.tree.put name parent (.file content) with
        | none => rfl
        | some tree =>
          obtain ⟨-, -, entry⟩ := Tree.put_entry put
          show tree.entry other = _
          rw [entry, Function.update_of_ne different]
  | _ => cases populates

/-- The same if the call fails. -/
theorem faulty_populates {directory other : Place} {request : Call} {reply : Reply request}
    {world after : World} (apart : ∀ place, directory <:+ place → ¬ other <:+ place)
    (populates : request.Populates directory) (answered : faulty request world reply after) :
    after.files.tree.entry other = world.files.tree.entry other := by
  rw [faulty] at answered
  split at answered
  · rcases answered.2 with served | ⟨failure, -, part⟩
    · rw [(Prod.mk.inj served).2]
      exact serveFiles_populates apart populates _
    · generalize after.files = left at part ⊢
      cases part with
      | nothing => rfl
      | all => exact serveFiles_populates apart populates _
      | directories path done begun tree made =>
        obtain ⟨above, higher, -, stops⟩ := Tree.mkdirPath_clean populates.1 begun
        rw [stops] at made
        obtain same | ⟨suffix, -⟩ := (Tree.mkdirAll_entry made).2 other
        · exact same
        · exact absurd (suffix.trans higher) (apart _ populates.2)
      | content path content text =>
        have rewrites : (Call.writeFile path text).Populates directory := populates
        exact serveFiles_populates apart rewrites _
      | removal => cases populates
  · rw [answered]

/-- What a call is answered on a node: it is served or it fails. -/
theorem faulty_served (api : ApiServer) {request : Call} {reply : Reply request}
    {world after : World} (file : request.kind = .file)
    (answered : faulty request world reply after) :
    (∃ failure, reply = .error failure) ∨ (reply, after) = serveNode api request world := by
  rw [faulty, if_pos file] at answered
  obtain ⟨cluster, served | ⟨failure, rfl, -⟩⟩ := answered
  · right
    rw [serveNode, if_pos file, ← served, ← cluster]
  · exact .inl ⟨failure, rfl⟩

/-- A call that was refused. -/
abbrev Refused (request : Call) (reply : Reply request) : Prop := ∃ failure, reply = .error failure

/-- A single call stops where it is refused. -/
theorem ask_stops (request : Call) : (ask request).Stops Refused := by
  intro reply
  refine ⟨?_, ?_⟩
  · rintro ⟨failure, rfl⟩
    exact ⟨_, rfl⟩
  · cases reply <;> trivial

/-- The loop over the ports stops at the first refused call. -/
theorem writePorts_stops (path : String) (ports : List (String × Int)) :
    (writePorts path ports).Stops Refused := by
  induction ports with
  | nil => trivial
  | cons entry ports ih => exact (ask_stops (.writeFile _ _)).bind fun _ => ih

/-- The loop over the data stops at the first refused call. -/
theorem writeAddresses_stops (n : NodeServer) (path last : String) (data : List IngressAddress) :
    (writeAddresses n path last data).Stops Refused := by
  induction data generalizing last with
  | nil => trivial
  | cons element data ih =>
    refine (ask_stops (.mkdirAll _)).bind fun _ => Program.Stops.bind ?_ fun _ => ih _
    exact (ask_stops (.writeFile _ _)).bind fun _ =>
      (ask_stops (.mkdirAll _)).bind fun _ => writePorts_stops _ _

/-- What is written before the link is in the directory of the addresses. -/
theorem writeTree_populates (n : NodeServer) {targetPath : String} {data : List IngressAddress}
    (nameable : Nameable data) :
    (writeTree n targetPath data).Ensures (Call.Populates ("addresses" :: place targetPath))
      (fun _ => True) := by
  rw [writeTree, Program.ensures_bind_iff, ensures_ask_iff (.mkdirAll _)]
  have deeper : ∀ {path name : String}, IsName name →
      clean path = path ∧ "addresses" :: place targetPath <:+ place path →
      clean (join path name) = join path name ∧
        "addresses" :: place targetPath <:+ place (join path name) := by
    intro path name isName inside
    rw [place_join_name _ isName]
    exact ⟨clean_join path isName.1, inside.2.trans (List.suffix_cons _ _)⟩
  have base : clean (addressesPath targetPath) = addressesPath targetPath ∧
      "addresses" :: place targetPath <:+ place (addressesPath targetPath) := by
    rw [place_addressesPath]
    exact ⟨clean_join targetPath (by decide), List.suffix_refl _⟩
  refine ⟨base, fun _ => (writeAddresses_ensures_iff n _ _ data).mpr ⟨?_, trivial⟩⟩
  intro element listed
  obtain ⟨named, names⟩ := nameable element listed
  have address := deeper named base
  have folder := deeper (show IsName "ports" by decide) address
  refine ⟨address, deeper (by decide) address, folder, fun entry visited => ?_⟩
  exact deeper (names _ _ ((n.mem_entries _ _ _).mp visited)) folder

/-- All that belongs to some data is there with its full content: the directory and the file of
each address, and the file of each port, with the number that the last element of that address
gives; this is the number of each such element if they agree. -/
structure Complete (tree : Tree) (base : Place) (data : List IngressAddress) : Prop where
  directory : ∀ element ∈ data, tree.entry (element.address :: base) = some .directory
  address : ∀ element ∈ data,
    tree.entry ("address" :: element.address :: base) = some (.file element.address)
  ports : ∀ element ∈ data, ∀ name port, element.ports[name]? = some port →
    ∃ last, lastPort data element.address name = some last ∧
      tree.entry (name :: "ports" :: element.address :: base) = some (.file (toString last))
  agreed : Agreeing data → ∀ element ∈ data, ∀ name port, element.ports[name]? = some port →
    tree.entry (name :: "ports" :: element.address :: base) = some (.file (toString port))

/-- The tree of some data is complete. -/
theorem Laid.complete {tree : Tree} {base : Place} {data : List IngressAddress}
    (laid : Laid tree base data) : Complete tree base data := by
  have port : ∀ (address name : String), tree.entry (name :: "ports" :: address :: base) =
      (lastPort data address name).map fun port => .file (toString port) := by
    intro address name
    have entry := laid [name, "ports", address]
    simpa [layout] using entry
  refine ⟨fun element listed => ?_, fun element listed => ?_, fun element listed name own held => ?_,
    fun agreeing element listed name own held => ?_⟩
  · have entry := laid [element.address]
    simpa [layout, show ∃ other ∈ data, other.address = element.address from
      ⟨element, listed, rfl⟩] using entry
  · have entry := laid ["address", element.address]
    simpa [layout, show ∃ other ∈ data, other.address = element.address from
      ⟨element, listed, rfl⟩] using entry
  · have some := lastPort_isSome listed (Option.isSome_iff_exists.mpr ⟨own, held⟩)
    obtain ⟨last, found⟩ := Option.isSome_iff_exists.mp some
    exact ⟨last, found, by rw [port, found]; rfl⟩
  · rw [port, agreeing.lastPort listed, held]
    rfl

/-- A link changes nothing but its own place, also if it fails. -/
theorem faulty_symlink {oldName newName : String} (isClean : clean newName = newName)
    {reply : Reply (.symlink oldName newName)} {world after : World}
    (answered : faulty (.symlink oldName newName) world reply after)
    {other : Place} (different : other ≠ place newName) :
    after.files.tree.entry other = world.files.tree.entry other := by
  have served : (serveFiles (.symlink oldName newName) world.files).2.tree.entry other =
      world.files.tree.entry other := by
    by_cases blank : oldName = ""
    · rw [serveFiles, if_pos blank]
    · rw [serveFiles_symlink_clean isClean _ blank, FileSystem.symlinkAt]
      split
      · cases located : place newName with
        | nil => rfl
        | cons name parent =>
          rw [located] at different
          rw [FileSystem.write]
          cases put : world.files.tree.put name parent (.link oldName) with
          | none => rfl
          | some tree =>
            obtain ⟨-, -, entry⟩ := Tree.put_entry put
            show tree.entry other = _
            rw [entry, Function.update_of_ne different]
      · rfl
  obtain ⟨-, same | ⟨failure, -, part⟩⟩ := answered
  · rw [(Prod.mk.inj same).2]
    exact served
  · generalize after.files = left at part ⊢
    cases part with
    | nothing => rfl
    | all => exact served

/-- The link leaves the tree of the addresses as it is. -/
theorem Laid.symlink {oldName targetPath : String} {data : List IngressAddress}
    {reply : Reply (.symlink oldName (join targetPath "default-address"))} {world after : World}
    (answered : faulty (.symlink oldName (join targetPath "default-address")) world reply after) :
    Laid after.files.tree ("addresses" :: place targetPath) data ↔
      Laid world.files.tree ("addresses" :: place targetPath) data := by
  refine forall_congr' fun relative => ?_
  have different : relative ++ "addresses" :: place targetPath ≠
      place (join targetPath "default-address") := by
    rw [place_join_name _ (by decide)]
    intro same
    have below := List.suffix_append relative ("addresses" :: place targetPath)
    exact defaultAddress_apart _ _ below (by rw [same])
  rw [faulty_symlink (clean_join targetPath (by decide)) answered different]

/-- Wherever the writing of some data to an empty directory is interrupted, if there is a link to
the default address then the tree of the addresses is complete. -/
theorem writeData_commit (n : NodeServer) {targetPath : String} {data : List IngressAddress}
    (nameable : Nameable data) {world after : World}
    (directory : world.files.tree.entry (place targetPath) = some .directory)
    (empty : ∀ below, Tree.Below (place targetPath) below → world.files.tree.entry below = none)
    (interrupted : (writeData n targetPath (some data)).Interrupted faulty world after)
    (linked : after.files.tree.entry ("default-address" :: place targetPath) ≠ none) :
    Complete after.files.tree ("addresses" :: place targetPath) data := by
  let api : ApiServer := .filling ""
  let unlinked (world : World) : Prop :=
    world.files.tree.entry ("default-address" :: place targetPath) = none
  let committed (world : World) : Prop :=
    world.files.tree.entry ("default-address" :: place targetPath) ≠ none →
      Laid world.files.tree ("addresses" :: place targetPath) data
  obtain ⟨tree, laid, -, -, ran⟩ := writeTree_run api n nameable directory empty
  let path := data.getLast?.elim "" fun element =>
    join (join targetPath "addresses") element.address
  let middle : World := { world with files := { world.files with tree } }
  have absent : unlinked world := empty _ (Tree.below_cons (place targetPath) "default-address")
  -- before the last call there is no link, whatever fails
  have before : (writeTree n targetPath data).Keeps faulty committed
      (fun last state => last = path ∧ state = middle) world := by
    have stops : (writeTree n targetPath data).Stops Refused :=
      (ask_stops (.mkdirAll _)).bind fun _ => writeAddresses_stops _ _ _ _
    have served : ∀ request state reply after,
        request.Populates ("addresses" :: place targetPath) → faulty request state reply after →
          Refused request reply ∨ (reply, after) = serveNode api request state :=
      fun _ _ _ _ populates answered => faulty_served api populates.file answered
    refine stops.keeps (writeTree_populates n nameable) served
      (fun request state reply after populates (free : unlinked state) answered => ?_)
      (fun state free linked => absurd free linked) ran absent
    exact (faulty_populates (defaultAddress_apart (place targetPath)) populates answered).trans free
  have linking : (symlinkToDefaultAddress path targetPath).Keeps faulty committed
      (fun _ _ => True) middle :=
    keeps_ask (.symlink _ _) (fun _ => laid) fun reply after answered =>
      ⟨fun _ => (Laid.symlink answered).mpr laid, fun _ _ => trivial⟩
  have whole : (writeData n targetPath (some data)).Keeps faulty committed
      (fun _ _ => True) world := by
    rw [writeData_eq]
    refine before.bind fun last state ended => ?_
    rw [ended.1, ended.2]
    exact linking
  exact (whole.interrupted interrupted linked).complete

/-- A node on which `/mnt/web` was just made. -/
def freshWorld : World where
  cluster := webVolumeCluster
  files := (serveFiles (.mkdirAll "/mnt/web") {}).2

/-- There is a directory with nothing in it. -/
theorem freshWorld_empty :
    freshWorld.files.tree.entry (place "/mnt/web") = some .directory ∧
      ∀ below, Tree.Below (place "/mnt/web") below → freshWorld.files.tree.entry below = none := by
  obtain ⟨tree, made⟩ := Tree.mkdirAll_open (Tree.empty_open (place "/mnt/web"))
  have files : freshWorld.files.tree = tree := by
    show (serveFiles (.mkdirAll "/mnt/web") {}).2.tree = tree
    rw [serveFiles_mkdirAll_clean (by decide +kernel), made]
    rfl
  obtain ⟨directory, changes⟩ := Tree.mkdirAll_entry made
  rw [files]
  refine ⟨directory, fun below lower => ?_⟩
  obtain same | ⟨above, -⟩ := changes below
  · rw [same]
    cases below with
    | nil => exact absurd lower (by decide)
    | cons name parent => rfl
  · exact absurd (lower.1.eq_of_length (lower.1.length_le.antisymm above.length_le)) lower.2

/-- Two named ports. -/
def webPorts : StringMap Int := (StringMap.single "http" 30080).insert "https" 30443

/-- Addresses of which one is listed twice, with two ports and with one. -/
def repeatedAddresses : List IngressAddress :=
  [{ address := "worker.example", addressType := .hostname, ports := webPorts },
    { address := "192.0.2.7", addressType := .ip, ports := .single "http" 80 },
    { address := "worker.example", addressType := .hostname, ports := webPorts }]

/-- The ports of `repeatedAddresses`. -/
theorem repeatedAddresses_ports {element : IngressAddress} (listed : element ∈ repeatedAddresses)
    {name : String} {port : Int} (held : element.ports[name]? = some port) :
    (name = "http" ∨ name = "https") ∧ 0 < port ∧ port < 2 ^ 15 := by
  have single : ∀ number, (StringMap.single "http" number)[name]? = some port →
      name = "http" ∧ port = number := by
    intro number held
    rw [StringMap.get_single] at held
    split at held
    · rename_i same
      exact ⟨same.symm, (Option.some.inj held).symm⟩
    · cases held
  have ported : webPorts[name]? = some port →
      (name = "http" ∨ name = "https") ∧ 0 < port ∧ port < 2 ^ 15 := by
    intro held
    rw [webPorts, StringMap.get_insert] at held
    split at held
    · rename_i same
      obtain rfl := Option.some.inj held
      exact ⟨Or.inr same.symm, by decide⟩
    · obtain ⟨rfl, rfl⟩ := single _ held
      exact ⟨Or.inl rfl, by decide⟩
  simp only [repeatedAddresses, List.mem_cons, List.not_mem_nil, or_false] at listed
  rcases listed with rfl | rfl | rfl
  · exact ported held
  · obtain ⟨rfl, rfl⟩ := single _ held
    exact ⟨Or.inl rfl, by decide⟩
  · exact ported held

/-- They are names. -/
theorem repeatedAddresses_nameable : Nameable repeatedAddresses := by
  intro element listed
  refine ⟨?_, fun name port held => ?_⟩
  · have names : ∀ element ∈ repeatedAddresses, IsName element.address := by decide
    exact names element listed
  · rcases (repeatedAddresses_ports listed held).1 with rfl | rfl <;> decide

/-- When all calls were made there is a link, and the tree is complete. -/
theorem repeatedAddresses_commit :
    Complete (Program.stateAfter (serveNode (.filling "")) 40
      (writeData .standard "/mnt/web" (some repeatedAddresses)) freshWorld).files.tree
      ["addresses", "web", "mnt"] repeatedAddresses :=
  writeData_commit .standard repeatedAddresses_nameable freshWorld_empty.1 freshWorld_empty.2
    (Program.interrupted_stateAfter (faulty_serveNode (.filling "")) 40 _ _) (by decide +kernel)

/-- A port as a reader takes it from its file: a decimal number of 32 bits. -/
def readPort (content : String) : Option Int :=
  content.toInt?.filter fun port => -2 ^ 31 ≤ port ∧ port < 2 ^ 31

/-- A directory reads as an address with its ports: they are what the files in the directory of the
ports say, and every file there is a port. -/
structure ReadsAs (tree : Tree) (directory : Place) (address : String) (ports : StringMap Int) :
    Prop where
  address : tree.entry ("address" :: directory) = some (.file address)
  folder : tree.entry ("ports" :: directory) = some .directory
  ports : ∀ name, (tree.entry (name :: "ports" :: directory) = none ∧ ports[name]? = none) ∨
    ∃ content port, tree.entry (name :: "ports" :: directory) = some (.file content) ∧
      readPort content = some port ∧ ports[name]? = some port

/-- What the directories below a directory read as. -/
def readBack (tree : Tree) (base : Place) : Set (String × StringMap Int) :=
  { read | ∃ name, tree.entry (name :: base) = some .directory ∧
    ReadsAs tree (name :: base) read.1 read.2 }

/-- The ports are numbers of 32 bits. -/
def Ranged (data : List IngressAddress) : Prop :=
  ∀ element ∈ data, ∀ (name : String) (port : Int), element.ports[name]? = some port →
    -2 ^ 31 ≤ port ∧ port < 2 ^ 31

/-- A number of 32 bits is read from its decimal text. -/
theorem readPort_toString {port : Int} (low : -2 ^ 31 ≤ port) (high : port < 2 ^ 31) :
    readPort (toString port) = some port := by
  have text : (toString port).toInt? = some port := Int.toInt?_repr port
  rw [readPort, text, Option.filter_some, if_pos (decide_eq_true ⟨low, high⟩)]

/-- The directory of an address reads as the element it was written for. -/
theorem Laid.readsAs {tree : Tree} {base : Place} {data : List IngressAddress}
    (laid : Laid tree base data) (agreeing : Agreeing data) (ranged : Ranged data)
    {element : IngressAddress} (listed : element ∈ data) :
    ReadsAs tree (element.address :: base) element.address element.ports := by
  have here : ∃ other ∈ data, other.address = element.address := ⟨element, listed, rfl⟩
  refine ⟨?_, ?_, fun name => ?_⟩
  · have entry := laid ["address", element.address]
    simpa [layout, here] using entry
  · have entry := laid ["ports", element.address]
    simpa [layout, here] using entry
  · have entry : tree.entry (name :: "ports" :: element.address :: base) =
        (element.ports[name]?).map fun port => .file (toString port) := by
      rw [← agreeing.lastPort listed name]
      have same := laid [name, "ports", element.address]
      simpa [layout] using same
    cases held : element.ports[name]? with
    | none => exact .inl ⟨by rw [entry, held]; rfl, rfl⟩
    | some port =>
      obtain ⟨low, high⟩ := ranged element listed name port held
      exact .inr ⟨_, port, by rw [entry, held]; rfl, readPort_toString low high, rfl⟩

/-- A directory reads as one address with its ports. -/
theorem ReadsAs.unique {tree : Tree} {directory : Place} {address other : String}
    {ports others : StringMap Int} (first : ReadsAs tree directory address ports)
    (second : ReadsAs tree directory other others) : address = other ∧ ports = others := by
  have text := first.address.symm.trans second.address
  refine ⟨by simpa using text, Std.ExtTreeMap.ext_getElem? fun name => ?_⟩
  obtain ⟨absent, none⟩ | ⟨content, port, file, read, held⟩ := first.ports name
  · obtain ⟨-, also⟩ | ⟨content, port, file, -⟩ := second.ports name
    · rw [none, also]
    · rw [absent] at file
      cases file
  · obtain ⟨absent, -⟩ | ⟨also, number, again, same, found⟩ := second.ports name
    · rw [absent] at file
      cases file
    · obtain rfl : content = also := by simpa using file.symm.trans again
      rw [held, found, ← read, ← same]

/-- The tree of some data reads as the data. -/
theorem Laid.readBack {tree : Tree} {base : Place} {data : List IngressAddress}
    (laid : Laid tree base data) (agreeing : Agreeing data) (ranged : Ranged data) :
    (∀ name, tree.entry (name :: base) ≠ none →
      tree.entry (name :: base) = some .directory ∧
        ∃ address ports, ReadsAs tree (name :: base) address ports) ∧
    ListenerOperator.readBack tree base =
      { read | ∃ element ∈ data, read = (element.address, element.ports) } := by
  have entry : ∀ name, tree.entry (name :: base) =
      if ∃ element ∈ data, element.address = name then some .directory else none := fun name => by
    have same := laid [name]
    simpa [layout] using same
  have held : ∀ name, tree.entry (name :: base) ≠ none →
      ∃ element ∈ data, element.address = name := by
    intro name present
    rw [entry] at present
    by_contra absent
    exact present (if_neg absent)
  refine ⟨fun name present => ?_, Set.ext fun read => ⟨?_, ?_⟩⟩
  · obtain ⟨element, listed, rfl⟩ := held name present
    exact ⟨by rw [entry, if_pos ⟨element, listed, rfl⟩], _, _,
      laid.readsAs agreeing ranged listed⟩
  · rintro ⟨name, directory, reads⟩
    obtain ⟨element, listed, rfl⟩ := held name (by rw [directory]; simp)
    obtain ⟨address, ports⟩ := reads.unique (laid.readsAs agreeing ranged listed)
    exact ⟨element, listed, Prod.ext address ports⟩
  · rintro ⟨element, listed, rfl⟩
    exact ⟨element.address, by rw [entry, if_pos ⟨element, listed, rfl⟩],
      laid.readsAs agreeing ranged listed⟩

/-- Writing some data to an empty directory succeeds, the tree reads as exactly the addresses with
their ports, and the default address is the directory of one of them. -/
theorem writeData_readBack (api : ApiServer) (n : NodeServer) {targetPath : String}
    {data : List IngressAddress} (absolute : rooted targetPath = true)
    (isClean : clean targetPath = targetPath) (nonempty : data ≠ []) (nameable : Nameable data)
    (agreeing : Agreeing data) (ranged : Ranged data) {world : World}
    (directory : world.files.tree.entry (place targetPath) = some .directory)
    (empty : ∀ below, Tree.Below (place targetPath) below → world.files.tree.entry below = none) :
    ∃ after, (writeData n targetPath (some data)).run (serveNode api) world = (.ok (), after) ∧
      (∀ name, after.files.tree.entry (name :: place (addressesPath targetPath)) ≠ none →
        after.files.tree.entry (name :: place (addressesPath targetPath)) = some .directory ∧
        ∃ address ports, ReadsAs after.files.tree (name :: place (addressesPath targetPath))
          address ports) ∧
      readBack after.files.tree (place (addressesPath targetPath)) =
        { read | ∃ element ∈ data, read = (element.address, element.ports) } ∧
      ∃ element ∈ data, ∃ text,
        after.files.tree.entry (place (join targetPath "default-address")) = some (.link text) ∧
        resolve (place (join targetPath "default-address")) text =
          element.address :: place (addressesPath targetPath) := by
  obtain ⟨last, ends⟩ := Option.ne_none_iff_exists'.mp
    (fun none => nonempty (List.getLast?_eq_none_iff.mp none))
  have listed : last ∈ data := List.mem_of_getLast? ends
  have slash : targetPath = slashed (place targetPath) ∨
      targetPath ++ "/" = slashed (place targetPath) := by
    obtain ⟨isRoot, root⟩ | text := clean_slashed absolute
    · exact .inl (by rw [root, slashed, ← isRoot, isClean])
    · exact .inr (by rw [← text, isClean])
  have text : defaultAddressSource targetPath data = "addresses/" ++ last.address := by
    rw [← linkText_slashed absolute (nameable last listed).1 slash, defaultAddressSource, ends]
    rfl
  obtain ⟨tree, laid, linked, ran⟩ :=
    writeData_run api n nameable (by rw [text]; simp) directory empty
  have link : place (join targetPath "default-address") =
      "default-address" :: place targetPath := place_join_name _ (by decide)
  obtain ⟨readable, reads⟩ := laid.readBack agreeing ranged
  rw [place_addressesPath, link]
  refine ⟨_, ran, readable, reads, last, listed, _, linked, ?_⟩
  rw [text, resolve_addresses _ (nameable last listed).1, List.tail_cons]

/-- The addresses are read back. -/
theorem repeatedAddresses_readBack :
    ∃ after, (writeData .standard "/mnt/web" (some repeatedAddresses)).run (serveNode (.filling ""))
        freshWorld = (.ok (), after) ∧
      readBack after.files.tree (place (addressesPath "/mnt/web")) =
        { read | ∃ element ∈ repeatedAddresses, read = (element.address, element.ports) } := by
  have agreeing : Agreeing repeatedAddresses := by
    intro first one second two same
    simp only [repeatedAddresses, List.mem_cons, List.not_mem_nil, or_false] at one two
    rcases one with rfl | rfl | rfl <;> rcases two with rfl | rfl | rfl <;>
      first | rfl | exact absurd same (by decide)
  have ranged : Ranged repeatedAddresses := by
    intro element listed name port held
    have bounds := (repeatedAddresses_ports listed held).2
    omega
  obtain ⟨after, ran, -, reads, -⟩ := writeData_readBack (.filling "") .standard (by decide)
    (by decide +kernel) (by decide) repeatedAddresses_nameable agreeing ranged freshWorld_empty.1
    freshWorld_empty.2
  exact ⟨after, ran, reads⟩

end ListenerOperator
