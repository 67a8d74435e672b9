import ListenerOperator.Csi.Host
import ListenerOperator.Csi.Node
import ListenerOperator.Verif.Instances
import ListenerOperator.Verif.Publish

/-!
# Repeated publication on a node

A publication that got as far as the target directory is not repeated: the next attempt finds
the directory and refuses to go on. As long as the directory is absent, an attempt in which
nothing fails leaves the whole address tree on the mounted target.
-/

namespace ListenerOperator

open Interaction FileTree FilePath MergePatch

/-- The port that the last element with an address and a port of a name gives. -/
def lastPort (data : List IngressAddress) (address name : String) : Option Int :=
  data.foldl (fun last element =>
    if element.address = address then element.ports[name]?.or last else last) none

/-- The tree of some data below its directory: a directory for each address, with a file for the
address and a directory of a file for each port. -/
def layout (data : List IngressAddress) : Place → Option Entry
  | [] => some .directory
  | [address] => if ∃ element ∈ data, element.address = address then some .directory else none
  | [leaf, address] =>
    if ∃ element ∈ data, element.address = address then
      if leaf = "address" then some (.file address)
      else if leaf = "ports" then some .directory else none
    else none
  | [name, folder, address] =>
    if folder = "ports" then (lastPort data address name).map fun port => .file (toString port)
    else none
  | _ => none

/-- A tree holds the tree of some data below a directory. -/
def Laid (tree : Tree) (base : Place) (data : List IngressAddress) : Prop :=
  ∀ relative, tree.entry (relative ++ base) = layout data relative

/-- The port after one more element. -/
theorem lastPort_append (data : List IngressAddress) (element : IngressAddress)
    (address name : String) : lastPort (data ++ [element]) address name =
      if element.address = address then element.ports[name]?.or (lastPort data address name)
      else lastPort data address name := by
  rw [lastPort, List.foldl_append]
  rfl

/-- The tree with a file for one more port of the last element. -/
theorem Laid.port {tree after : Tree} {base : Place} {data : List IngressAddress}
    {element : IngressAddress} {name : String} {port : Int}
    (laid : Laid tree base (data ++ [element]))
    (entry : after.entry = Function.update tree.entry (name :: "ports" :: element.address :: base)
      (some (.file (toString port)))) :
    Laid after base (data ++ [{ element with ports := element.ports.insert name port }]) := by
  intro relative
  have member : ∀ address, (∃ other ∈ data ++ [{ element with
      ports := element.ports.insert name port }], other.address = address) ↔
        ∃ other ∈ data ++ [element], other.address = address := by
    intro address
    simp
  by_cases same : relative = [name, "ports", element.address]
  · subst same
    rw [entry]
    simp [layout, lastPort_append]
  · have other : relative ++ base ≠ name :: "ports" :: element.address :: base := by
      intro equal
      exact same ((List.append_left_inj base).mp (by simpa using equal))
    rw [entry, Function.update_of_ne other, laid relative]
    match relative with
    | [] => rfl
    | [address] => simp only [layout, member]
    | [leaf, address] => simp only [layout, member]
    | [file, folder, address] =>
      simp only [layout]
      by_cases ports : folder = "ports"
      · subst ports
        simp only [↓reduceIte, lastPort_append]
        by_cases here : element.address = address
        · have different : name ≠ file := by
            rintro rfl
            exact same (by rw [here])
          simp [here, StringMap.get_insert, different]
        · simp [here]
      · simp [ports]
    | _ :: _ :: _ :: _ :: _ => rfl

/-- The tree with the directories and the address file of one more element. -/
theorem Laid.element {tree after : Tree} {base : Place} {data : List IngressAddress}
    {element : IngressAddress} (laid : Laid tree base data)
    (entry : after.entry = Function.update (Function.update (Function.update tree.entry
      (element.address :: base) (some .directory))
      ("address" :: element.address :: base) (some (.file element.address)))
      ("ports" :: element.address :: base) (some .directory)) :
    Laid after base (data ++ [{ element with ports := ∅ }]) := by
  intro relative
  have update : ∀ (table : Place → Option Entry) (place : Place) (new : Option Entry),
      Function.update table (place ++ base) new (relative ++ base) =
        if relative = place then new else table (relative ++ base) := by
    intro table place new
    simp only [Function.update_apply, List.append_left_inj]
  have expand : after.entry (relative ++ base) =
      if relative = ["ports", element.address] then some .directory
      else if relative = ["address", element.address] then some (.file element.address)
      else if relative = [element.address] then some .directory
      else layout data relative := by
    have first := update tree.entry [element.address] (some .directory)
    have second := update (Function.update tree.entry (element.address :: base)
      (some .directory)) ["address", element.address] (some (.file element.address))
    have third := update (Function.update (Function.update tree.entry (element.address :: base)
      (some .directory)) ("address" :: element.address :: base) (some (.file element.address)))
      ["ports", element.address] (some .directory)
    simp only [List.cons_append, List.nil_append] at first second third
    rw [entry, third, second, first, laid relative]
  rw [expand]
  match relative with
  | [] => rfl
  | [address] =>
    by_cases here : address = element.address
    · simp [layout, here]
    · simp [layout, here, Ne.symm here]
  | [leaf, address] =>
    by_cases here : address = element.address
    · subst here
      by_cases ports : leaf = "ports"
      · simp [layout, ports]
      · by_cases file : leaf = "address"
        · simp [layout, file]
        · simp [layout, ports, file]
    · simp [layout, here, Ne.symm here]
  | [file, folder, address] => simp [layout, lastPort_append]
  | _ :: _ :: _ :: _ :: _ => simp [layout]

section Write

variable (api : ApiServer)

/-- A call on files that succeeds changes the files. -/
theorem run_ask_file {request : Call} (file : request.kind = .file) {world : World}
    {value : Value request} {files : FileSystem}
    (answered : serveFiles request world.files = (.ok value, files)) :
    (ask request).run (serveNode api) world = (.ok value, { world with files }) := by
  refine run_ask_ok _ ?_
  rw [serveNode, if_pos file, answered]

/-- A file is written in a directory where there is no other entry than a file. -/
theorem run_writeFile (world : World) (content : String) {path name : String} {parent : Place}
    (isClean : clean path = path) (located : place path = name :: parent)
    (directory : world.files.tree.entry parent = some .directory)
    (free : ∀ entry, world.files.tree.entry (name :: parent) = some entry →
      ∃ old, entry = .file old) :
    ∃ tree, tree.entry = Function.update world.files.tree.entry (name :: parent)
        (some (.file content)) ∧
      (ask (.writeFile path content)).run (serveNode api) world =
        (.ok (), { world with files := { world.files with tree } }) := by
  have unused : world.files.tree.entry (name :: parent) ≠ some .directory := by
    intro present
    obtain ⟨old, impossible⟩ := free _ present
    cases impossible
  obtain ⟨tree, written, entry⟩ := Tree.put_eq_some (.file content) directory unused
  refine ⟨tree, entry, run_ask_file api rfl ?_⟩
  have write : world.files.write (name :: parent) (.file content) =
      (.ok (), { world.files with tree }) := by
    rw [FileSystem.write, written]
    rfl
  rw [serveFiles_writeFile_clean isClean, located, FileSystem.writeFileAt]
  cases present : world.files.tree.entry (name :: parent) with
  | none => exact write
  | some entry =>
    obtain ⟨old, rfl⟩ := free _ present
    exact write

/-- A directory is made in a directory where there is no other entry than a directory. -/
theorem run_mkdirAll (world : World) {path name : String} {parent : Place}
    (isClean : clean path = path) (located : place path = name :: parent)
    (directory : world.files.tree.entry parent = some .directory)
    (free : world.files.tree.entry (name :: parent) = none ∨
      world.files.tree.entry (name :: parent) = some .directory) :
    ∃ tree, tree.entry = Function.update world.files.tree.entry (name :: parent)
        (some .directory) ∧
      (ask (.mkdirAll path)).run (serveNode api) world =
        (.ok (), { world with files := { world.files with tree } }) := by
  obtain ⟨tree, made, entry⟩ := Tree.mkdirAll_child directory free
  refine ⟨tree, entry, run_ask_file api rfl ?_⟩
  rw [serveFiles_mkdirAll_clean isClean, located, made]
  rfl

/-- Data whose addresses and port names stand for one step of a path each. -/
def Nameable (data : List IngressAddress) : Prop :=
  ∀ element ∈ data, IsName element.address ∧
    ∀ name port, element.ports[name]? = some port → IsName name

/-- Two trees that agree outside a directory. -/
def AgreeOutside (base : Place) (first second : Tree) : Prop :=
  ∀ place, ¬ base <:+ place → second.entry place = first.entry place

/-- A write in a directory leaves what is outside of it. -/
theorem AgreeOutside.of_update {base : Place} (below : Place) {first second : Tree}
    {new : Option Entry} (entry : second.entry = Function.update first.entry (below ++ base) new) :
    AgreeOutside base first second := by
  intro place outside
  rw [entry, Function.update_of_ne]
  rintro rfl
  exact outside (List.suffix_append _ _)

/-- Trees that agree in two steps agree. -/
theorem AgreeOutside.trans {base : Place} {first second third : Tree}
    (left : AgreeOutside base first second) (right : AgreeOutside base second third) :
    AgreeOutside base first third := fun place outside =>
  (right place outside).trans (left place outside)

/-- The loop over the ports writes a file for each port. -/
theorem writePorts_run {base : Place} {data : List IngressAddress} {path : String}
    (ports : List (String × Int)) (names : ∀ entry ∈ ports, IsName entry.1)
    (element : IngressAddress) (located : place path = "ports" :: element.address :: base)
    {world : World} (laid : Laid world.files.tree base (data ++ [element])) :
    ∃ tree, Laid tree base (data ++ [{ element with
        ports := ports.foldl (fun map entry => map.insert entry.1 entry.2) element.ports }]) ∧
      AgreeOutside base world.files.tree tree ∧
      (writePorts path ports).run (serveNode api) world =
        (.ok (), { world with files := { world.files with tree } }) := by
  induction ports generalizing element world with
  | nil => exact ⟨world.files.tree, laid, fun _ _ => rfl, rfl⟩
  | cons entry ports ih =>
    obtain ⟨name, port⟩ := entry
    have isName := names _ List.mem_cons_self
    have child := place_join_name path isName
    rw [located] at child
    have directory : world.files.tree.entry ("ports" :: element.address :: base) =
        some .directory := by
      have same := laid ["ports", element.address]
      simpa [layout] using same
    have free : ∀ entry,
        world.files.tree.entry (name :: "ports" :: element.address :: base) = some entry →
          ∃ old, entry = .file old := by
      intro entry present
      have same := laid [name, "ports", element.address]
      rw [List.cons_append, List.cons_append, List.cons_append, List.nil_append, present] at same
      simp only [layout, ↓reduceIte] at same
      obtain ⟨number, -, rfl⟩ := Option.map_eq_some_iff.mp same.symm
      exact ⟨_, rfl⟩
    obtain ⟨middle, written, ran⟩ := run_writeFile api world (toString port)
      (clean_join path isName.1) child directory free
    let next : World := { world with files := { world.files with tree := middle } }
    let longer : IngressAddress := { element with ports := element.ports.insert name port }
    have step : Laid next.files.tree base (data ++ [longer]) := laid.port written
    obtain ⟨tree, laidAfter, agree, rest⟩ := ih (fun entry listed =>
      names entry (List.mem_cons_of_mem _ listed)) longer located step
    refine ⟨tree, laidAfter, ?_, ?_⟩
    · exact (AgreeOutside.of_update [name, "ports", element.address] written).trans agree
    · rw [writePorts, Program.run_bind_ok _ ran, rest]

/-- A loop over the ports visits every port. -/
theorem NodeServer.mem_entries (n : NodeServer) (ports : StringMap Int) (name : String) (port : Int) :
    (name, port) ∈ n.entries ports ↔ ports[name]? = some port := by
  rw [(n.entries_perm ports).mem_iff]
  exact Std.ExtTreeMap.mem_toList_iff_getElem?_eq_some

/-- One step of the loop over the data writes the directory of an address. -/
theorem writeAddress_run (n : NodeServer) {base : Place} {data : List IngressAddress}
    {path : String} (element : IngressAddress) (located : place path = base)
    (named : IsName element.address)
    (names : ∀ name port, element.ports[name]? = some port → IsName name)
    {world : World} (laid : Laid world.files.tree base data) :
    ∃ tree, Laid tree base (data ++ [element]) ∧ AgreeOutside base world.files.tree tree ∧
      (do
        ask (.mkdirAll (join path element.address))
        writeAddress n (join path element.address) element : Prog Unit).run (serveNode api) world =
        (.ok (), { world with files := { world.files with tree } }) := by
  have child : place (join path element.address) = element.address :: base := by
    rw [place_join_name path named, located]
  have file : place (join (join path element.address) "address") =
      "address" :: element.address :: base := by
    rw [place_join_name _ (by decide), child]
  have folder : place (join (join path element.address) "ports") =
      "ports" :: element.address :: base := by
    rw [place_join_name _ (by decide), child]
  have root : world.files.tree.entry base = some .directory := laid []
  have here := laid [element.address]
  have fileHere := laid ["address", element.address]
  have folderHere := laid ["ports", element.address]
  simp only [List.cons_append, List.nil_append, layout] at here fileHere folderHere
  obtain ⟨first, firstEntry, firstRan⟩ := run_mkdirAll api world (clean_join path named.1) child
    root (by rw [here]; split <;> simp)
  obtain ⟨second, secondEntry, secondRan⟩ := run_writeFile api
    { world with files := { world.files with tree := first } } element.address
    (clean_join _ (by decide)) file
    (by rw [firstEntry, Function.update_self]) (by
      intro entry present
      rw [firstEntry, Function.update_of_ne (by simp), fileHere] at present
      split at present
      · exact ⟨_, (Option.some.inj present).symm⟩
      · cases present)
  obtain ⟨third, thirdEntry, thirdRan⟩ := run_mkdirAll api
    { world with files := { world.files with tree := second } } (clean_join _ (by decide)) folder
    (by rw [secondEntry, Function.update_of_ne (by simp), firstEntry, Function.update_self])
    (by
      rw [secondEntry, Function.update_of_ne (by simp), firstEntry,
        Function.update_of_ne (by simp), folderHere]
      split <;> simp)
  have bare : Laid third base (data ++ [{ element with ports := ∅ }]) := by
    refine laid.element ?_
    rw [thirdEntry, secondEntry, firstEntry]
  obtain ⟨tree, laidAfter, agree, portsRan⟩ := writePorts_run api (n.entries element.ports)
    (fun entry listed => names entry.1 entry.2 ((n.mem_entries _ _ _).mp listed))
    { element with ports := ∅ } folder
    (show Laid { world with files := { world.files with tree := third } }.files.tree _ _ from bare)
  refine ⟨tree, ?_, ?_, ?_⟩
  · rwa [StringMap.foldl_insert_perm (n.entries_perm element.ports)] at laidAfter
  · exact ((AgreeOutside.of_update [element.address] firstEntry).trans
      (AgreeOutside.of_update ["address", element.address] secondEntry)).trans
      ((AgreeOutside.of_update ["ports", element.address] thirdEntry).trans agree)
  · rw [Program.run_bind_ok _ firstRan, writeAddress, Program.run_bind_ok _ secondRan,
      Program.run_bind_ok _ thirdRan, portsRan]

/-- The loop over the data writes the tree of the data, and returns the path of the last
address. -/
theorem writeAddresses_run (n : NodeServer) {base : Place} {before data : List IngressAddress}
    {path : String} (located : place path = base) (nameable : Nameable data) (last : String)
    {world : World} (laid : Laid world.files.tree base before) :
    ∃ tree, Laid tree base (before ++ data) ∧ AgreeOutside base world.files.tree tree ∧
      (writeAddresses n path last data).run (serveNode api) world =
        (.ok (data.getLast?.elim last fun element => join path element.address),
          { world with files := { world.files with tree } }) := by
  induction data generalizing before last world with
  | nil => exact ⟨world.files.tree, by rwa [List.append_nil], fun _ _ => rfl, rfl⟩
  | cons element data ih =>
    obtain ⟨named, names⟩ := nameable element List.mem_cons_self
    obtain ⟨middle, laidMiddle, agreeMiddle, ran⟩ :=
      writeAddress_run api n element located named names laid
    obtain ⟨tree, laidAfter, agree, rest⟩ := ih
      (fun other listed => nameable other (List.mem_cons_of_mem _ listed))
      (join path element.address)
      (show Laid { world with files := { world.files with tree := middle } }.files.tree _ _
        from laidMiddle)
    refine ⟨tree, by simpa using laidAfter, agreeMiddle.trans agree, ?_⟩
    have split : writeAddresses n path last (element :: data) =
        (do
          ask (.mkdirAll (join path element.address))
          writeAddress n (join path element.address) element : Prog Unit) >>= fun _ =>
        writeAddresses n path (join path element.address) data := by
      rw [writeAddresses, Program.bind_assoc']
    rw [split, Program.run_bind_ok _ ran, rest, List.getLast?_cons]
    cases data.getLast? <;> rfl

/-- The path that the default address links to. -/
def defaultAddressSource (targetPath : String) (data : List IngressAddress) : String :=
  let last := data.getLast?.elim "" fun element =>
    join (join targetPath "addresses") element.address
  trimLead (trimLead last targetPath) "/"

/-- Everything that is written but the link. -/
def writeTree (n : NodeServer) (targetPath : String) (data : List IngressAddress) : Prog String :=
  ask (.mkdirAll (join targetPath "addresses")) >>= fun _ =>
    writeAddresses n (join targetPath "addresses") "" data

/-- The data is written, and then the link is made. -/
theorem writeData_eq (n : NodeServer) (targetPath : String) (data : List IngressAddress) :
    writeData n targetPath (some data) = writeTree n targetPath data >>= fun path =>
      symlinkToDefaultAddress path targetPath := by
  rw [writeTree, Program.bind_assoc']
  rfl

/-- In an empty directory the tree of the addresses is written, beside which there is nothing. -/
theorem writeTree_run (n : NodeServer) {targetPath : String} {data : List IngressAddress}
    (nameable : Nameable data) {world : World}
    (directory : world.files.tree.entry (place targetPath) = some .directory)
    (empty : ∀ below, Tree.Below (place targetPath) below → world.files.tree.entry below = none) :
    ∃ tree, Laid tree ("addresses" :: place targetPath) data ∧
      tree.entry (place targetPath) = some .directory ∧
      tree.entry ("default-address" :: place targetPath) = none ∧
      (writeTree n targetPath data).run (serveNode api) world =
        (.ok (data.getLast?.elim "" fun element =>
            join (join targetPath "addresses") element.address),
          { world with files := { world.files with tree } }) := by
  have below : ∀ name relative, Tree.Below (place targetPath)
      (relative ++ name :: place targetPath) := by
    intro name relative
    refine ⟨(List.suffix_cons _ _).trans (List.suffix_append _ _), fun same => ?_⟩
    have length := congrArg List.length same
    simp only [List.length_append, List.length_cons] at length
    omega
  have addresses : place (join targetPath "addresses") = "addresses" :: place targetPath :=
    place_join_name _ (by decide)
  obtain ⟨first, firstEntry, firstRan⟩ := run_mkdirAll api world
    (clean_join targetPath (by decide)) addresses directory (Or.inl (empty _ (below "addresses" [])))
  have bare : Laid first ("addresses" :: place targetPath) [] := by
    intro relative
    rw [firstEntry]
    cases relative with
    | nil => exact Function.update_self ..
    | cons name relative =>
      have other : name :: relative ++ "addresses" :: place targetPath ≠
          "addresses" :: place targetPath := fun same => by
        have length := congrArg List.length same
        simp only [List.length_append, List.length_cons] at length
        omega
      rw [Function.update_of_ne other, empty _ (below "addresses" _)]
      match relative with
      | [] => simp [layout]
      | [_] => simp [layout]
      | [_, _] => simp [layout, lastPort]
      | _ :: _ :: _ :: _ => rfl
  let next : World := { world with files := { world.files with tree := first } }
  obtain ⟨second, laid, agree, secondRan⟩ := writeAddresses_run api n addresses nameable ""
    (show Laid next.files.tree _ _ from bare)
  have outside : ∀ name, name ≠ "addresses" →
      ¬ "addresses" :: place targetPath <:+ name :: place targetPath := by
    rintro name different ⟨relative, same⟩
    cases relative with
    | nil => exact different (List.cons.inj same).1.symm
    | cons head relative =>
      have length := congrArg List.length same
      simp only [List.length_append, List.length_cons] at length
      omega
  have parent : second.entry (place targetPath) = some .directory := by
    have higher : ¬ "addresses" :: place targetPath <:+ place targetPath := fun suffix => by
      have length := suffix.length_le
      rw [List.length_cons] at length
      omega
    rw [agree _ higher, firstEntry, Function.update_of_ne (by simp), directory]
  have absent : second.entry ("default-address" :: place targetPath) = none := by
    rw [agree _ (outside _ (by decide)), firstEntry, Function.update_of_ne (by simp)]
    exact empty _ (below "default-address" [])
  refine ⟨second, laid, parent, absent, ?_⟩
  rw [writeTree, Program.run_bind_ok _ firstRan, secondRan]

/-- The tree of the addresses is apart from the link. -/
theorem defaultAddress_apart (target : Place) (place : Place)
    (below : "addresses" :: target <:+ place) : ¬ "default-address" :: target <:+ place := by
  intro link
  have same : "addresses" :: target = "default-address" :: target := by
    obtain inner | outer := List.suffix_or_suffix_of_suffix below link
    · exact inner.eq_of_length (by simp)
    · exact (outer.eq_of_length (by simp)).symm
  exact absurd (List.cons.inj same).1 (by decide)

/-- In an empty directory the data is written as a tree of addresses with a default address. -/
theorem writeData_run (n : NodeServer) {targetPath : String} {data : List IngressAddress}
    (nameable : Nameable data) (text : defaultAddressSource targetPath data ≠ "") {world : World}
    (directory : world.files.tree.entry (place targetPath) = some .directory)
    (empty : ∀ below, Tree.Below (place targetPath) below → world.files.tree.entry below = none) :
    ∃ tree, Laid tree ("addresses" :: place targetPath) data ∧
      tree.entry ("default-address" :: place targetPath) =
        some (.link (defaultAddressSource targetPath data)) ∧
      (writeData n targetPath (some data)).run (serveNode api) world =
        (.ok (), { world with files := { world.files with tree } }) := by
  obtain ⟨second, laid, parent, absent, treeRan⟩ := writeTree_run api n nameable directory empty
  have default : place (join targetPath "default-address") =
      "default-address" :: place targetPath := place_join_name _ (by decide)
  obtain ⟨third, linked, thirdEntry⟩ := Tree.put_eq_some
    (.link (defaultAddressSource targetPath data)) parent (by rw [absent]; simp)
  have thirdRan : (ask (.symlink (defaultAddressSource targetPath data)
      (join targetPath "default-address"))).run (serveNode api)
      { world with files := { world.files with tree := second } } =
        (.ok (), { world with files := { world.files with tree := third } }) := by
    refine run_ask_file api rfl ?_
    rw [serveFiles_symlink_clean (clean_join targetPath (by decide)) _ text, default,
      FileSystem.symlinkAt, absent]
    simp only [FileSystem.write, linked]
    rfl
  refine ⟨third, fun relative => ?_, by rw [thirdEntry, Function.update_self], ?_⟩
  · have other : relative ++ "addresses" :: place targetPath ≠
        "default-address" :: place targetPath := fun same =>
      defaultAddress_apart _ _ (List.suffix_append relative _) (by rw [same])
    rw [thirdEntry, Function.update_of_ne other]
    exact laid relative
  · rw [writeData_eq, Program.run_bind_ok _ treeRan]
    exact thirdRan

/-- A target path that directories can lead to is made and mounted. -/
theorem mount_run {targetPath : String} (isClean : clean targetPath = targetPath) {world : World}
    (absent : world.files.tree.entry (place targetPath) = none)
    (isOpen : world.files.tree.Open (place targetPath)) :
    ∃ made, made.entry (place targetPath) = some .directory ∧
      (mount targetPath).run (serveNode api) world = (.ok (), { world with
        files := { tree := made.clear (place targetPath)
                   mounts := (place targetPath, made) :: world.files.mounts } }) := by
  obtain ⟨made, makes⟩ := Tree.mkdirAll_open isOpen
  have directory := (Tree.mkdirAll_entry makes).1
  have looked : (ask (.pathExists targetPath)).run (serveNode api) world = (.ok false, world) := by
    refine run_ask_file api rfl ?_
    rw [serveFiles_pathExists_clean isClean, absent]
    rfl
  have madeRan : (ask (.mkdirAll targetPath)).run (serveNode api) world =
      (.ok (), { world with files := { world.files with tree := made } }) := by
    refine run_ask_file api rfl ?_
    rw [serveFiles_mkdirAll_clean isClean, makes]
    rfl
  have mountRan : (ask (.mount targetPath)).run (serveNode api)
      { world with files := { world.files with tree := made } } = (.ok (), { world with
        files := { tree := made.clear (place targetPath)
                   mounts := (place targetPath, made) :: world.files.mounts } }) := by
    refine run_ask_file api rfl ?_
    rw [serveFiles_mount_clean isClean, FileSystem.mountAt, if_pos directory]
  refine ⟨made, directory, ?_⟩
  rw [mount, Program.run_bind_ok _ (run_withStatus_ok _ .internal looked)]
  simp only [Bool.false_eq_true, ↓reduceIte]
  rw [Program.run_bind_ok _ (run_withStatus_ok _ .internal madeRan)]
  exact run_withStatus_ok _ .internal mountRan

/-- The error of an attempt that finds its target path. -/
def alreadyExists (targetPath : String) : GoError :=
  .status .internal ((GoError.status .internal
    ("target path " ++ targetPath ++ " already exists")).message)

/-- A target path that exists is refused, and the files stay as they are. -/
theorem publishToNode_refused (n : NodeServer) {targetPath : String}
    (isClean : clean targetPath = targetPath) (data : List IngressAddress) {world : World}
    (present : world.files.tree.entry (place targetPath) ≠ none) :
    (publishToNode n targetPath data).run (serveNode api) world =
      (.error (.error (alreadyExists targetPath)), world) := by
  have looked : (ask (.pathExists targetPath)).run (serveNode api) world = (.ok true, world) := by
    refine run_ask_file api rfl ?_
    rw [serveFiles_pathExists_clean isClean, Option.isSome_iff_ne_none.mpr present]
  have mounted : (withStatus .internal (mount targetPath)).run (serveNode api) world =
      (.error (.error (alreadyExists targetPath)), world) := by
    rw [withStatus, Program.run_mapError, mount,
      Program.run_bind_ok _ (run_withStatus_ok _ .internal looked)]
    rfl
  rw [publishToNode, Program.run_bind_error _ mounted]

/-- The files of a completed publication: a file system is mounted on the target path, and holds
the tree of the addresses and the link to the last of them. -/
structure FileSystem.Publishes (files : FileSystem) (targetPath : String)
    (data : List IngressAddress) : Prop where
  mounted : files.Mounted (place targetPath)
  addresses : Laid files.tree ("addresses" :: place targetPath) data
  default : ∃ last, data.getLast? = some last ∧
    files.tree.entry ("default-address" :: place targetPath) =
      some (.link ("addresses/" ++ last.address))

/-- Below a clean target path the default address links to the directory of the last address. -/
theorem defaultAddressSource_clean {targetPath : String} {data : List IngressAddress}
    {last : IngressAddress} (ends : data.getLast? = some last) (named : IsName last.address)
    (some : place targetPath ≠ []) (isClean : clean targetPath = targetPath) :
    defaultAddressSource targetPath data = "addresses/" ++ last.address := by
  have isName : IsName "addresses" := by decide
  obtain ⟨outer, outerClean⟩ := join_name_of_clean isName some isClean
  have deeper : place (join targetPath "addresses") ≠ [] := by
    rw [place_join_name _ isName]
    simp
  have inner := (join_name_of_clean named deeper outerClean).1
  have text : join (join targetPath "addresses") last.address =
      targetPath ++ ("/" ++ ("addresses/" ++ last.address)) := by
    have slash : "addresses/" ++ last.address = "addresses" ++ ("/" ++ last.address) := by
      rw [← String.append_assoc]
      rfl
    rw [inner, outer, slash]
    simp only [String.append_assoc]
  rw [defaultAddressSource, ends, Option.elim_some, text, trimLead_append, trimLead_append]

/-- A target path that is absent and open is published in full. -/
theorem publishToNode_run (n : NodeServer) {targetPath : String}
    (isClean : clean targetPath = targetPath) {data : List IngressAddress}
    (nameable : Nameable data) (nonempty : data ≠ []) {world : World}
    (absent : world.files.tree.entry (place targetPath) = none)
    (isOpen : world.files.tree.Open (place targetPath)) :
    ∃ files : FileSystem, files.Publishes targetPath data ∧
      (publishToNode n targetPath data).run (serveNode api) world =
        (.ok (), { world with files }) := by
  obtain ⟨made, directory, mounted⟩ := mount_run api isClean absent isOpen
  let next : World := { world with
    files := { tree := made.clear (place targetPath)
               mounts := (place targetPath, made) :: world.files.mounts } }
  have kept : next.files.tree.entry (place targetPath) = some .directory := by
    rw [Tree.clear_entry, if_neg (fun below => below.2 rfl), directory]
  have cleared : ∀ below, Tree.Below (place targetPath) below →
      next.files.tree.entry below = none := by
    intro below lower
    rw [Tree.clear_entry, if_pos lower]
  have inside : place targetPath ≠ [] := by
    intro root
    rw [root, world.files.tree.root] at absent
    cases absent
  obtain ⟨last, ends⟩ := Option.ne_none_iff_exists'.mp
    (fun none => nonempty (List.getLast?_eq_none_iff.mp none))
  have text := defaultAddressSource_clean ends (nameable last (List.mem_of_getLast? ends)).1 inside
    isClean
  obtain ⟨tree, laid, link, written⟩ :=
    writeData_run api n nameable (by rw [text]; simp) kept cleared
  refine ⟨{ next.files with tree }, ⟨⟨made, List.mem_cons_self⟩, laid, ?_⟩, ?_⟩
  · exact ⟨last, ends, by rw [link, text]⟩
  · rw [publishToNode, Program.run_bind_ok _ (run_withStatus_ok _ .internal mounted)]
    exact run_withStatus_ok _ .internal written

end Write

/-- The directory of the target path stays through a call that adds. -/
theorem serveFiles_directory {targetPath : String} {request : Call} (adds : request.Adds targetPath)
    {files : FileSystem} (directory : files.tree.entry (place targetPath) = some .directory) :
    (serveFiles request files).2.tree.entry (place targetPath) = some .directory := by
  have written : ∀ (path : Place) (new : Entry),
      (files.write path new).2.tree.entry (place targetPath) = some .directory := by
    intro path new
    cases path with
    | nil => exact directory
    | cons name parent =>
      rw [FileSystem.write]
      cases put : files.tree.put name parent new with
      | none => exact directory
      | some tree => exact Tree.put_directory put directory
  have located : ∀ (path message : String) {operation : Place → Except CallError Unit × FileSystem},
      (∀ here, files.tree.find path = some here →
        (operation here).2.tree.entry (place targetPath) = some .directory) →
          (files.at path message operation).2.tree.entry (place targetPath) = some .directory := by
    intro path message operation stays
    rw [FileSystem.at]
    split
    · rename_i found
      exact stays _ found
    · exact directory
  cases request with
  | pathExists path => exact directory
  | mkdirAll path =>
    rw [serveFiles]
    split
    · exact directory
    · cases made : Tree.mkdirPath [] (components path) files.tree with
      | none => exact directory
      | some tree => exact Tree.mkdirPath_keeps made directory
  | mount path =>
    obtain rfl : path = targetPath := adds
    rw [serveFiles]
    refine located path _ fun here found => ?_
    rw [Tree.find_eq found, FileSystem.mountAt, if_pos directory, Tree.clear_entry,
      if_neg (fun below => below.2 rfl), directory]
  | writeFile path content =>
    rw [serveFiles]
    refine located path _ fun here _ => ?_
    rw [FileSystem.writeFileAt]
    split
    · exact directory
    · exact written _ _
  | symlink oldName newName =>
    rw [serveFiles]
    split
    · exact directory
    · refine located newName _ fun here _ => ?_
      rw [FileSystem.symlinkAt]
      split
      · exact written _ _
      · exact directory
  | _ => cases adds

/-- The directory of the target path stays through a call that adds, also if it fails. -/
theorem faulty_directory {targetPath : String} {request : Call} {reply : Reply request}
    {world after : World} (adds : request.Adds targetPath)
    (directory : world.files.tree.entry (place targetPath) = some .directory)
    (answered : faulty request world reply after) :
    after.files.tree.entry (place targetPath) = some .directory := by
  rw [faulty] at answered
  split at answered
  · rcases answered.2 with served | ⟨failure, -, part⟩
    · rw [(Prod.mk.inj served).2]
      exact serveFiles_directory adds directory
    · generalize after.files = left at part ⊢
      cases part with
      | nothing => exact directory
      | all => exact serveFiles_directory adds directory
      | directories path done begun tree made => exact Tree.mkdirPath_keeps made directory
      | content path content other =>
        have writes : (Call.writeFile path other).Adds targetPath := trivial
        exact serveFiles_directory writes directory
      | removal => cases adds
  · rw [answered]
    exact directory

/-- Calls on objects leave the files, also if they fail. -/
theorem faulty_objects {request : Call} {reply : Reply request} {world after : World}
    (objects : request.OnObjects) (answered : faulty request world reply after) :
    after.files = world.files := by
  rwa [faulty, if_neg objects] at answered

/-- Looking for a path leaves the files, and tells whether it is there. -/
theorem faulty_pathExists {path : String} {reply : Reply (.pathExists path)} {world after : World}
    (answered : faulty (.pathExists path) world reply after) :
    after.files = world.files ∧
      ∀ value, reply = .ok value → value = (world.files.lookup path).isSome := by
  obtain ⟨-, served | ⟨failure, rfl, part⟩⟩ := answered
  · obtain ⟨rfl, same⟩ := Prod.mk.inj served
    refine ⟨same, ?_⟩
    rintro value ⟨⟩
    rfl
  · refine ⟨?_, fun _ impossible => by cases impossible⟩
    generalize after.files = left at part ⊢
    cases part <;> rfl

/-- A path with a directory at its end is open. -/
theorem open_of_directory {tree : Tree} {place : Place}
    (directory : tree.entry place = some .directory) : tree.Open place :=
  fun _ higher => Or.inr (Tree.directory_above directory higher)

/-- Making the directories to the target path keeps it open, also if it fails, and leaves a
directory if it does not. -/
theorem faulty_mkdirAll {targetPath : String} (isClean : clean targetPath = targetPath)
    {reply : Reply (.mkdirAll targetPath)} {world after : World}
    (isOpen : world.files.tree.Open (place targetPath))
    (answered : faulty (.mkdirAll targetPath) world reply after) :
    after.files.tree.Open (place targetPath) ∧
      ∀ value, reply = .ok value →
        after.files.tree.entry (place targetPath) = some .directory := by
  have made : ∀ {tree}, Tree.mkdirAll (place targetPath) world.files.tree = some tree →
      tree.Open (place targetPath) ∧ tree.entry (place targetPath) = some .directory :=
    fun makes => ⟨isOpen.mkdirAll makes, (Tree.mkdirAll_entry makes).1⟩
  have served : (serveFiles (.mkdirAll targetPath) world.files).2.tree.Open (place targetPath) ∧
      ∀ value, (serveFiles (.mkdirAll targetPath) world.files).1 = .ok value →
        (serveFiles (.mkdirAll targetPath) world.files).2.tree.entry (place targetPath) =
          some .directory := by
    rw [serveFiles_mkdirAll_clean isClean]
    cases makes : Tree.mkdirAll (place targetPath) world.files.tree with
    | none => exact ⟨isOpen, fun _ impossible => by cases impossible⟩
    | some tree => exact ⟨(made makes).1, fun _ _ => (made makes).2⟩
  rcases answered.2 with same | ⟨failure, rfl, part⟩
  · obtain ⟨replied, files⟩ := Prod.mk.inj same
    rw [replied, files]
    exact served
  · refine ⟨?_, fun _ impossible => by cases impossible⟩
    generalize after.files = left at part ⊢
    cases part with
    | nothing => exact isOpen
    | all => exact served.1
    | directories path done begun tree makes =>
      obtain ⟨above, -, -, stops⟩ := Tree.mkdirPath_clean isClean begun
      rw [stops] at makes
      exact isOpen.mkdirAll makes

/-- A single call. -/
theorem keeps_ask (request : Call) {invariant : World → Prop}
    {post : Value request → World → Prop} {world : World} (holds : invariant world)
    (answers : ∀ reply after, faulty request world reply after →
      invariant after ∧ ∀ value, reply = .ok value → post value after) :
    (ask request).Keeps faulty invariant post world := by
  refine ⟨holds, fun reply after answered => ?_⟩
  obtain ⟨kept, returned⟩ := answers reply after answered
  cases reply with
  | ok value => exact ⟨kept, returned value rfl⟩
  | error failure => exact kept

section Attempts

variable {targetPath : String}

/-- Directories can lead to the target path. -/
def FileSystem.Open (targetPath : String) (files : FileSystem) : Prop :=
  files.tree.Open (place targetPath)

/-- The target path is a directory. -/
def FileSystem.Made (targetPath : String) (files : FileSystem) : Prop :=
  files.tree.entry (place targetPath) = some .directory

/-- A program that adds to a target path that is a directory keeps the directory. -/
theorem keeps_made {program : Prog Unit} {kept : FileSystem → Prop}
    (ensures : program.Ensures (Call.Adds targetPath) fun _ => True)
    (within : ∀ files : FileSystem, files.Made targetPath → kept files) {world : World}
    (made : world.files.Made targetPath) :
    program.Keeps faulty (fun after => kept after.files)
      (fun _ after => after.files.Made targetPath) world :=
  ensures.keeps
    (fun _ _ _ _ adds directory answered => faulty_directory adds directory answered)
    (fun _ directory => within _ directory) made

/-- An attempt to mount keeps the target path open, and leaves a directory if it succeeds. -/
theorem mount_keeps (isClean : clean targetPath = targetPath) {world : World}
    (isOpen : world.files.Open targetPath) :
    (mount targetPath).Keeps faulty (fun after => after.files.Open targetPath)
      (fun _ after => after.files.Made targetPath) world := by
  have looked : (ask (.pathExists targetPath)).Keeps faulty
      (fun after => after.files.Open targetPath) (fun _ after => after.files.Open targetPath)
      world := by
    refine keeps_ask (.pathExists _) isOpen fun reply after answered => ?_
    rw [(faulty_pathExists answered).1]
    exact ⟨isOpen, fun _ _ => isOpen⟩
  refine looked.mapError.bind fun exist middle stays => ?_
  cases exist with
  | true => exact stays
  | false =>
    have made : (ask (.mkdirAll targetPath)).Keeps faulty
        (fun after => after.files.Open targetPath) (fun _ after => after.files.Made targetPath)
        middle :=
      keeps_ask (.mkdirAll _) stays
        fun reply after answered => faulty_mkdirAll isClean stays answered
    have adds : (Call.mount targetPath).Adds targetPath := rfl
    exact made.mapError.bind fun _ last directory =>
      keeps_made (ensures_ask adds).mapError (fun _ directory => open_of_directory directory)
        directory

/-- The part of an attempt on the node keeps the target path open. -/
theorem publishToNode_keeps_open (isClean : clean targetPath = targetPath) (n : NodeServer)
    (data : List IngressAddress) {world : World} (isOpen : world.files.Open targetPath) :
    (publishToNode n targetPath data).Keeps faulty (fun after => after.files.Open targetPath)
      (fun _ after => after.files.Open targetPath) world := by
  refine (mount_keeps isClean isOpen).mapError.bind fun _ middle made => ?_
  exact (keeps_made (writeData_adds n _ data).mapError
    (fun _ directory => open_of_directory directory) made).mono
      fun _ _ directory => open_of_directory directory

/-- An attempt keeps what its part on the node keeps. -/
theorem nodePublishVolume_keeps {n : NodeServer} {request : NodePublishVolumeRequest}
    {kept : FileSystem → Prop}
    (node : ∀ data world, kept world.files → (publishToNode n request.targetPath data).Keeps faulty
      (fun after => kept after.files) (fun _ after => kept after.files) world)
    {world : World} (holds : kept world.files) :
    (nodePublishVolume n request).Keeps faulty (fun after => kept after.files)
      (fun _ _ => True) world := by
  have cluster : (publishToCluster n request).Keeps faulty (fun after => kept after.files)
      (fun _ after => kept after.files) world :=
    (publishToCluster_ensures n request).keeps
      (fun _ _ _ _ objects stays answered => by rwa [faulty_objects objects answered])
      (fun _ stays => stays) holds
  exact cluster.bind fun published middle stays =>
    (node published.2 middle stays).bind fun _ _ kept => ⟨kept, trivial⟩

/-- An attempt to publish to a target path on a node on which anything can fail, or that can go
down at any time. -/
def Attempt (targetPath : String) (before after : World) : Prop :=
  ∃ n request, request.targetPath = targetPath ∧
    (nodePublishVolume n request).Interrupted faulty before after

/-- Any number of attempts. -/
abbrev Attempts (targetPath : String) : World → World → Prop :=
  Relation.ReflTransGen (Attempt targetPath)

/-- What the part of an attempt on the node keeps, attempts keep. -/
theorem Attempts.keep {kept : FileSystem → Prop}
    (node : ∀ n data world, kept world.files → (publishToNode n targetPath data).Keeps faulty
      (fun after => kept after.files) (fun _ after => kept after.files) world)
    {before after : World} (attempts : Attempts targetPath before after)
    (holds : kept before.files) : kept after.files := by
  induction attempts with
  | refl => exact holds
  | tail _ attempt ih =>
    obtain ⟨n, request, rfl, interrupted⟩ := attempt
    exact (nodePublishVolume_keeps (node n) ih).interrupted interrupted

/-- Attempts keep the target path open. -/
theorem Attempts.open (isClean : clean targetPath = targetPath) {before after : World}
    (attempts : Attempts targetPath before after) (isOpen : before.files.Open targetPath) :
    after.files.Open targetPath :=
  attempts.keep (fun n data _ stays => publishToNode_keeps_open isClean n data stays) isOpen

/-- Attempts keep the directory of the target path. -/
theorem Attempts.made {before after : World} (attempts : Attempts targetPath before after)
    (made : before.files.Made targetPath) : after.files.Made targetPath := by
  refine attempts.keep (fun n data _ directory => ?_) made
  exact keeps_made ((mount_ensures _).mapError.bind fun _ _ =>
    (writeData_adds n _ data).mapError) (fun _ stays => stays) directory

end Attempts

section Next

variable (api : ApiServer)

/-- The part of an attempt on the cluster leaves the files of the node. -/
theorem publishToCluster_run {n : NodeServer} {request : NodePublishVolumeRequest}
    {world after : World} {outcome : Except Failure (Publication × List IngressAddress)}
    (resolved : (publishToCluster n request).run (serveNode api) world = (outcome, after)) :
    after.files = world.files ∧ ∀ published, outcome = .ok published → published.2 ≠ [] := by
  have stays : ∀ call state, Call.OnObjects call → state.files = world.files →
      (serveNode api call state).2.files = world.files := by
    intro call state objects same
    rw [serveNode, if_neg objects]
    exact same
  exact (publishToCluster_ensures n request).run stays rfl resolved

/-- After any number of attempts to publish to a clean target path that directories can lead to, an
attempt that finds the addresses succeeds if the target path is still absent: the tree of the
addresses is there in full on the mounted target path. If it is not, the attempt is refused, and
the target path stays where it is for all attempts after it. -/
theorem nodePublishVolume_retry (n : NodeServer) (request : NodePublishVolumeRequest)
    (isClean : clean request.targetPath = request.targetPath) {start before resolved : World}
    (isOpen : start.files.Open request.targetPath)
    (attempts : Attempts request.targetPath start before)
    {publication : Publication} {data : List IngressAddress}
    (finds : (publishToCluster n request).run (serveNode api) before =
      (.ok (publication, data), resolved)) (nameable : Nameable data) :
    (before.files.tree.entry (place request.targetPath) = none →
      ∃ files : FileSystem, files.Publishes request.targetPath data ∧
        (nodePublishVolume n request).run (serveNode api) before =
          (.ok publication, { resolved with files })) ∧
    (before.files.tree.entry (place request.targetPath) ≠ none →
      (nodePublishVolume n request).run (serveNode api) before =
        (.error (.error (alreadyExists request.targetPath)), resolved) ∧
      resolved.files = before.files ∧
      ∀ later, Attempts request.targetPath before later → later.files.Made request.targetPath) := by
  obtain ⟨same, found⟩ := publishToCluster_run api finds
  have stillOpen := Attempts.open isClean attempts isOpen
  refine ⟨fun free => ?_, fun present => ⟨?_, same, ?_⟩⟩
  · rw [← same] at free stillOpen
    obtain ⟨files, publishes, ran⟩ := publishToNode_run api n isClean nameable (found _ rfl)
      free stillOpen
    refine ⟨files, publishes, ?_⟩
    rw [nodePublishVolume, Program.run_bind_ok _ finds]
    exact Program.run_bind_ok _ ran
  · rw [← same] at present
    rw [nodePublishVolume, Program.run_bind_ok _ finds]
    exact Program.run_bind_error _ (publishToNode_refused api n isClean data present)
  · intro later further
    refine further.made ?_
    rcases stillOpen _ (List.suffix_refl _) with free | directory
    · exact absurd free present
    · exact directory

end Next

/-- The node of `webPod` with a publication of `webVolume` cut off after a number of calls. -/
def webWorld (calls : Nat) : World :=
  Program.stateAfter (serveNode (.filling "")) calls (nodePublishVolume .standard webRequest)
    { cluster := webVolumeCluster, files := {} }

/-- What was cut off was an attempt. -/
theorem webWorld_attempts (calls : Nat) :
    Attempts webRequest.targetPath { cluster := webVolumeCluster, files := {} } (webWorld calls) :=
  .single ⟨.standard, webRequest, rfl, Program.interrupted_stateAfter
    (faulty_serveNode (.filling "")) calls _ _⟩

/-- The addresses that are published for `webPod`. -/
def webAddresses : List IngressAddress :=
  [{ address := "worker.example", addressType := .hostname, ports := .single "http" 30080 }]

/-- They are names. -/
theorem webAddresses_nameable : Nameable webAddresses := by
  intro element listed
  obtain rfl := List.mem_singleton.mp listed
  refine ⟨by decide, fun name port held => ?_⟩
  rw [StringMap.get_single] at held
  split at held
  · rename_i same
    rw [← same]
    decide
  · cases held

/-- An attempt cut off before the target path was made is repeated with success. -/
theorem nodePublishVolume_repeated :
    ∃ publication, ∃ resolved : World, ∃ files : FileSystem,
      files.Publishes webRequest.targetPath webAddresses ∧
        (nodePublishVolume .standard webRequest).run (serveNode (.filling "")) (webWorld 10) =
          (.ok publication, { resolved with files }) := by
  rcases finds : (publishToCluster .standard webRequest).run (serveNode (.filling ""))
    (webWorld 10) with ⟨outcome, resolved⟩
  have addressed : outcome.map Prod.snd = .ok webAddresses := by
    rw [show outcome = _ from (congrArg Prod.fst finds).symm]
    decide +kernel
  rcases outcome with failure | ⟨publication, data⟩
  · cases addressed
  · obtain rfl := Except.ok.inj addressed
    have absent : (webWorld 10).files.tree.entry (place webRequest.targetPath) = none := by
      decide +kernel
    have isOpen : FileSystem.Open webRequest.targetPath {} := Tree.empty_open _
    have isClean : clean webRequest.targetPath = webRequest.targetPath := by decide +kernel
    exact ⟨publication, resolved, (nodePublishVolume_retry (.filling "") .standard webRequest
      isClean isOpen (webWorld_attempts 10) finds webAddresses_nameable).1 absent⟩

/-- An attempt cut off after the target path was made cannot be repeated. -/
theorem nodePublishVolume_refused :
    (((nodePublishVolume .standard webRequest).run (serveNode (.filling ""))
      { cluster := webVolumeCluster, files := {} }).1.isOk = true) ∧
    Attempts webRequest.targetPath { cluster := webVolumeCluster, files := {} } (webWorld 11) ∧
    ((nodePublishVolume .standard webRequest).run (serveNode (.filling ""))
      (webWorld 11)).1.isOk = false :=
  ⟨by decide +kernel, webWorld_attempts 11, by decide +kernel⟩

end ListenerOperator
