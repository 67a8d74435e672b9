import ListenerOperator.Base.Path

/-!
# File trees

Directories, files and links by their places. A place is a list of names, the innermost first, so
that the parent of a place is its tail. Every entry lies in a directory, which is part of the
tree, so no operation can leave an entry without its directories. A path is looked up component by
component, through directories that are there; a clean path leads to its place if the directory is
there in which it lies. Links are entries like others, and are not followed.
-/

namespace FileTree

open FilePath

/-- What is at a place. -/
inductive Entry where
  | directory
  | file (content : String)
  | link (target : String)
  deriving DecidableEq

/-- A place, innermost name first. -/
abbrev Place : Type := List String

/-- Entries in directories. -/
structure Tree where
  /-- What is at a place, if anything. -/
  entry : Place → Option Entry
  /-- The root is a directory. -/
  root : entry [] = some .directory
  /-- Every entry is in a directory. -/
  closed : ∀ {name place}, entry (name :: place) ≠ none → entry place = some .directory

namespace Tree

/-- The tree of a root without entries. -/
def empty : Tree where
  entry place := if place = [] then some .directory else none
  root := rfl
  closed := by intro name place present; simp at present

/-- Write an entry in a directory. It may replace anything but a directory. -/
def put (tree : Tree) (name : String) (place : Place) (new : Entry) : Option Tree :=
  if allowed : tree.entry place = some .directory ∧ tree.entry (name :: place) ≠ some .directory then
    some {
      entry := Function.update tree.entry (name :: place) (some new)
      root := by rw [Function.update_of_ne (by simp), tree.root]
      closed := by
        intro other parent present
        have old : parent ≠ name :: place → tree.entry parent = some .directory →
            Function.update tree.entry (name :: place) (some new) parent = some .directory := by
          intro different directory
          rw [Function.update_of_ne different, directory]
        by_cases same : other :: parent = name :: place
        · obtain ⟨-, rfl⟩ := List.cons.inj same
          exact old (by simp) allowed.1
        · rw [Function.update_of_ne same] at present
          have directory := tree.closed present
          refine old ?_ directory
          rintro rfl
          exact allowed.2 directory }
  else none

/-- An entry can be written in a directory where there is no directory. -/
theorem put_eq_some {tree : Tree} {name : String} {place : Place} (new : Entry)
    (parent : tree.entry place = some .directory)
    (free : tree.entry (name :: place) ≠ some .directory) :
    ∃ after, tree.put name place new = some after ∧
      after.entry = Function.update tree.entry (name :: place) (some new) := by
  rw [put, dif_pos ⟨parent, free⟩]
  exact ⟨_, rfl, rfl⟩

/-- What a write does. -/
theorem put_entry {tree after : Tree} {name : String} {place : Place} {new : Entry}
    (written : tree.put name place new = some after) :
    tree.entry place = some .directory ∧ tree.entry (name :: place) ≠ some .directory ∧
      after.entry = Function.update tree.entry (name :: place) (some new) := by
  rw [put] at written
  split at written
  · rename_i allowed
    obtain rfl := Option.some.inj written
    exact ⟨allowed.1, allowed.2, rfl⟩
  · cases written

/-- A write leaves directories. -/
theorem put_directory {tree after : Tree} {name : String} {place other : Place} {new : Entry}
    (written : tree.put name place new = some after)
    (directory : tree.entry other = some .directory) : after.entry other = some .directory := by
  obtain ⟨-, free, entry⟩ := put_entry written
  have different : other ≠ name :: place := by
    rintro rfl
    exact free directory
  rw [entry, Function.update_of_ne different, directory]

/-- Make a directory with all directories above it; what is there already has to be a
directory. -/
def mkdirAll : Place → Tree → Option Tree
  | [], tree => some tree
  | name :: place, tree =>
    match mkdirAll place tree with
    | none => none
    | some above =>
      match above.entry (name :: place) with
      | none => above.put name place .directory
      | some .directory => some above
      | some _ => none

/-- Making a directory that is there does nothing. -/
theorem mkdirAll_directory {tree : Tree} {place : Place}
    (directory : tree.entry place = some .directory) : mkdirAll place tree = some tree := by
  induction place with
  | nil => rfl
  | cons name place ih =>
    have parent := tree.closed (by rw [directory]; simp)
    simp only [mkdirAll, ih parent, directory]

/-- What making directories does: it leaves what is there, and what it adds are directories at
or above the place. -/
theorem mkdirAll_entry {tree after : Tree} {place : Place}
    (made : mkdirAll place tree = some after) :
    after.entry place = some .directory ∧ ∀ other, after.entry other = tree.entry other ∨
      (other <:+ place ∧ tree.entry other = none ∧ after.entry other = some .directory) := by
  induction place generalizing after with
  | nil =>
    obtain rfl := Option.some.inj made
    exact ⟨tree.root, fun other => Or.inl rfl⟩
  | cons name place ih =>
    rw [mkdirAll] at made
    cases above : mkdirAll place tree with
    | none =>
      rw [above] at made
      cases made
    | some middle =>
      rw [above] at made
      obtain ⟨parent, changes⟩ := ih above
      have lift : ∀ other, middle.entry other = tree.entry other ∨
          (other <:+ name :: place ∧ tree.entry other = none ∧
            middle.entry other = some .directory) := by
        intro other
        rcases changes other with same | ⟨higher, added⟩
        · exact Or.inl same
        · exact Or.inr ⟨higher.trans (List.suffix_cons _ _), added⟩
      cases present : middle.entry (name :: place) with
      | none =>
        simp only [present] at made
        obtain ⟨-, -, entry⟩ := put_entry made
        refine ⟨by rw [entry, Function.update_self], fun other => ?_⟩
        by_cases same : other = name :: place
        · subst same
          have absent : tree.entry (name :: place) = none := by
            rcases changes (name :: place) with equal | ⟨-, absent, -⟩
            · rw [← equal, present]
            · exact absent
          exact Or.inr ⟨List.suffix_refl _, absent, by rw [entry, Function.update_self]⟩
        · rw [entry, Function.update_of_ne same]
          exact lift other
      | some held =>
        cases held with
        | directory =>
          simp only [present, Option.some.injEq] at made
          subst made
          exact ⟨present, lift⟩
        | file content => simp [present] at made
        | link target => simp [present] at made

/-- Making directories leaves directories. -/
theorem mkdirAll_keeps {tree after : Tree} {place other : Place}
    (made : mkdirAll place tree = some after) (directory : tree.entry other = some .directory) :
    after.entry other = some .directory := by
  rcases (mkdirAll_entry made).2 other with same | ⟨-, absent, -⟩
  · rw [same, directory]
  · rw [absent] at directory
    cases directory

/-- A place that directories can lead to: what is there at or above it is a directory. -/
def Open (tree : Tree) (place : Place) : Prop :=
  ∀ above, above <:+ place → tree.entry above = none ∨ tree.entry above = some .directory

/-- Directories can lead to any place of the empty tree. -/
theorem empty_open (place : Place) : empty.Open place := by
  intro above _
  cases above with
  | nil => exact Or.inr rfl
  | cons name above => exact Or.inl rfl

/-- Directories can be made to an open place. -/
theorem mkdirAll_open {tree : Tree} {place : Place} (isOpen : tree.Open place) :
    ∃ after, mkdirAll place tree = some after := by
  induction place with
  | nil => exact ⟨tree, rfl⟩
  | cons name place ih =>
    obtain ⟨above, made⟩ := ih fun other higher => isOpen other (higher.trans (List.suffix_cons _ _))
    obtain ⟨parent, changes⟩ := mkdirAll_entry made
    simp only [mkdirAll, made]
    cases present : above.entry (name :: place) with
    | none =>
      have free : above.entry (name :: place) ≠ some .directory := by simp [present]
      obtain ⟨after, written, -⟩ := put_eq_some .directory parent free
      exact ⟨after, written⟩
    | some held =>
      have directory : above.entry (name :: place) = some .directory := by
        rcases changes (name :: place) with same | ⟨-, -, added⟩
        · rw [same] at present ⊢
          rcases isOpen (name :: place) (List.suffix_refl _) with absent | directory
          · rw [absent] at present
            cases present
          · exact directory
        · exact added
      rw [directory] at present
      obtain rfl := Option.some.inj present
      exact ⟨above, rfl⟩

/-- Making directories at or above a place leaves it open. -/
theorem Open.mkdirAll {tree after : Tree} {place other : Place} (isOpen : tree.Open place)
    (made : Tree.mkdirAll other tree = some after) : after.Open place := by
  intro above higher
  rcases (mkdirAll_entry made).2 above with same | ⟨-, -, added⟩
  · rw [same]
    exact isOpen above higher
  · exact Or.inr added

/-- Making directories can stop on the way and go on from there. -/
theorem mkdirAll_suffix {above place : Place} (higher : above <:+ place) (tree : Tree) :
    mkdirAll place tree = (mkdirAll above tree).bind (mkdirAll place) := by
  induction place with
  | nil =>
    rw [List.suffix_nil.mp higher]
    rfl
  | cons name place ih =>
    rcases List.suffix_cons_iff.mp higher with rfl | above
    · cases made : mkdirAll (name :: place) tree with
      | none => rfl
      | some after => exact (mkdirAll_directory (mkdirAll_entry made).1).symm
    · rw [mkdirAll, ih above]
      cases mkdirAll _ tree with
      | none => rfl
      | some middle => rw [Option.bind_some, Option.bind_some, mkdirAll]

/-- Making a child of a directory is one write. -/
theorem mkdirAll_child {tree : Tree} {name : String} {place : Place}
    (parent : tree.entry place = some .directory)
    (free : tree.entry (name :: place) = none ∨ tree.entry (name :: place) = some .directory) :
    ∃ after, mkdirAll (name :: place) tree = some after ∧
      after.entry = Function.update tree.entry (name :: place) (some .directory) := by
  rcases free with absent | directory
  · have unused : tree.entry (name :: place) ≠ some .directory := by simp [absent]
    obtain ⟨after, written, entry⟩ := put_eq_some .directory parent unused
    exact ⟨after, by simp only [mkdirAll, mkdirAll_directory parent, absent, written], entry⟩
  · refine ⟨tree, mkdirAll_directory directory, ?_⟩
    rw [← directory, Function.update_eq_self]

/-- What is above a directory are directories. -/
theorem directory_above {tree : Tree} {place above : Place}
    (directory : tree.entry place = some .directory) (higher : above <:+ place) :
    tree.entry above = some .directory := by
  induction place with
  | nil =>
    rw [List.suffix_nil.mp higher]
    exact directory
  | cons name place ih =>
    rcases List.suffix_cons_iff.mp higher with rfl | above
    · exact directory
    · exact ih (tree.closed (by rw [directory]; simp)) above

/-- The place to which components lead from another one; all that is passed on the way has to be a
directory. -/
def reach (tree : Tree) : Place → List String → Option Place
  | here, [] => some here
  | here, component :: rest =>
    if tree.entry here = some .directory then reach tree (walk here component) rest else none

/-- The place to which a path leads from the root. -/
def find (tree : Tree) (path : String) : Option Place :=
  if path = "" then none else reach tree [] (components path)

/-- Make the directories that are passed on the way along some components, and the last one. -/
def mkdirPath : Place → List String → Tree → Option Tree
  | _, [], tree => some tree
  | here, component :: rest, tree =>
    match mkdirAll (walk here component) tree with
    | none => none
    | some made => mkdirPath (walk here component) rest made

/-- Components lead nowhere or to where they point. -/
theorem reach_eq {tree : Tree} {here there : Place} {parts : List String}
    (reached : tree.reach here parts = some there) : there = parts.foldl walk here := by
  induction parts generalizing here with
  | nil => exact (Option.some.inj reached).symm
  | cons part parts ih =>
    rw [reach] at reached
    split at reached
    · exact ih reached
    · cases reached

/-- A path leads nowhere or to its place. -/
theorem find_eq {tree : Tree} {path : String} {here : Place}
    (found : tree.find path = some here) : here = place path := by
  rw [find] at found
  split at found
  · cases found
  · exact reach_eq found

/-- Components that stay at the root lead on from there. -/
theorem reach_root (tree : Tree) {lead : List String} (stays : ∀ part ∈ lead, walk [] part = [])
    (rest : List String) : tree.reach [] (lead ++ rest) = tree.reach [] rest := by
  induction lead with
  | nil => rfl
  | cons part lead ih =>
    rw [List.cons_append, reach, if_pos tree.root, stays part List.mem_cons_self]
    exact ih fun other listed => stays other (List.mem_cons_of_mem _ listed)

/-- Names lead down if the last one is in a directory. -/
theorem reach_names (tree : Tree) {names : List String} (all : ∀ name ∈ names, IsName name)
    (here : Place) (nonempty : names ≠ []) : tree.reach here names =
      if tree.entry (names.reverse ++ here).tail = some .directory then
        some (names.reverse ++ here) else none := by
  induction names generalizing here with
  | nil => exact absurd rfl nonempty
  | cons name names ih =>
    have lower : ∀ other ∈ names, IsName other :=
      fun other listed => all other (List.mem_cons_of_mem _ listed)
    rw [reach, (all name List.mem_cons_self).walk, List.reverse_cons, List.append_assoc,
      List.singleton_append]
    cases names with
    | nil => rfl
    | cons next names =>
      rw [ih lower _ (by simp)]
      have inside : here <:+ ((next :: names).reverse ++ name :: here).tail := by
        rw [List.tail_append_of_ne_nil (by simp)]
        exact (List.suffix_cons name here).trans (List.suffix_append _ _)
      by_cases directory : tree.entry ((next :: names).reverse ++ name :: here).tail =
          some .directory
      · rw [if_pos directory, if_pos (directory_above directory inside)]
      · rw [if_neg directory, ite_self]

/-- A clean path leads to its place if the directory is there in which the place lies. -/
theorem find_clean (tree : Tree) {path : String} (isClean : clean path = path) :
    tree.find path =
      if tree.entry (place path).tail = some .directory then some (place path) else none := by
  have nonempty : path ≠ "" := by
    rintro rfl
    exact absurd isClean (by decide)
  obtain ⟨lead, parts, stays⟩ := components_of_clean isClean
  rw [find, if_neg nonempty, parts, reach_root tree stays]
  by_cases root : place path = []
  · rw [root, List.tail_nil, if_pos tree.root]
    rfl
  · rw [reach_names tree (fun name listed => isName_of_mem_place (List.mem_reverse.mp listed)) []
      (by simpa using root), List.reverse_reverse, List.append_nil]

/-- What a clean path leads to is what is at its place. -/
theorem find_bind_entry (tree : Tree) {path : String} (isClean : clean path = path) :
    (tree.find path).bind tree.entry = tree.entry (place path) := by
  rw [find_clean tree isClean]
  split
  · rfl
  · rename_i missing
    cases located : place path with
    | nil =>
      rw [located] at missing
      exact absurd tree.root missing
    | cons name parent =>
      rw [located, List.tail_cons] at missing
      cases present : tree.entry (name :: parent) with
      | none => rfl
      | some held =>
        have known : tree.entry (name :: parent) ≠ none := by
          rw [present]
          simp
        exact absurd (tree.closed known) missing

/-- Components that stay at the root need no directory. -/
theorem mkdirPath_root {lead : List String} (stays : ∀ part ∈ lead, walk [] part = [])
    (rest : List String) (tree : Tree) : mkdirPath [] (lead ++ rest) tree =
      mkdirPath [] rest tree := by
  induction lead with
  | nil => rfl
  | cons part lead ih =>
    rw [List.cons_append, mkdirPath, stays part List.mem_cons_self]
    exact ih fun other listed => stays other (List.mem_cons_of_mem _ listed)

/-- Directories are made along names to the place of the last one. -/
theorem mkdirPath_names {names : List String} (all : ∀ name ∈ names, IsName name) (here : Place)
    {tree : Tree} (directory : tree.entry here = some .directory) :
    mkdirPath here names tree = mkdirAll (names.reverse ++ here) tree := by
  induction names generalizing here tree with
  | nil => exact (mkdirAll_directory directory).symm
  | cons name names ih =>
    have higher : name :: here <:+ names.reverse ++ name :: here := List.suffix_append _ _
    rw [mkdirPath, (all name List.mem_cons_self).walk, List.reverse_cons, List.append_assoc,
      List.singleton_append, mkdirAll_suffix higher]
    cases made : mkdirAll (name :: here) tree with
    | none => rfl
    | some middle =>
      exact ih (fun other listed => all other (List.mem_cons_of_mem _ listed)) _
        (mkdirAll_entry made).1

/-- Along a part of a clean path, directories are made to a place at or above its own. -/
theorem mkdirPath_clean {path : String} (isClean : clean path = path) {done : List String}
    (begun : done <+: components path) :
    ∃ above, above <:+ place path ∧ (done = components path → above = place path) ∧
      ∀ tree, mkdirPath [] done tree = mkdirAll above tree := by
  obtain ⟨lead, parts, stays⟩ := components_of_clean isClean
  rw [parts] at begun ⊢
  have names : ∀ name ∈ (place path).reverse, IsName name :=
    fun name listed => isName_of_mem_place (List.mem_reverse.mp listed)
  obtain ⟨rest, whole⟩ := begun
  rcases List.append_eq_append_iff.mp whole with ⟨missing, inside, -⟩ | ⟨further, rfl, split⟩
  · have stay : ∀ part ∈ done, walk [] part = [] := by
      intro part listed
      exact stays part (by rw [inside]; exact List.mem_append_left _ listed)
    refine ⟨[], List.nil_suffix, ?_, fun tree => ?_⟩
    · intro all
      have short := congrArg List.length all
      rw [inside] at short
      simp only [List.length_append, List.length_reverse] at short
      exact (List.eq_nil_of_length_eq_zero (by omega)).symm
    · have alone := mkdirPath_root stay [] tree
      rwa [List.append_nil] at alone
  · refine ⟨further.reverse, ?_, ?_, fun tree => ?_⟩
    · rw [← List.reverse_prefix, List.reverse_reverse, split]
      exact List.prefix_append _ _
    · intro all
      rw [List.append_cancel_left all, List.reverse_reverse]
    · have found : ∀ name ∈ further, IsName name := by
        intro name listed
        exact names name (by rw [split]; exact List.mem_append_left _ listed)
      rw [mkdirPath_root stays, mkdirPath_names found [] tree.root, List.append_nil]

/-- Making directories along a path leaves directories. -/
theorem mkdirPath_keeps {here other : Place} {parts : List String} {tree after : Tree}
    (made : mkdirPath here parts tree = some after)
    (directory : tree.entry other = some .directory) : after.entry other = some .directory := by
  induction parts generalizing here tree with
  | nil =>
    obtain rfl := Option.some.inj made
    exact directory
  | cons part parts ih =>
    rw [mkdirPath] at made
    cases first : mkdirAll (walk here part) tree with
    | none =>
      rw [first] at made
      cases made
    | some middle =>
      rw [first] at made
      exact ih made (mkdirAll_keeps first directory)

/-- The entries of a tree that are kept; with an entry its directories are kept. -/
def keep (tree : Tree) (kept : Place → Prop) [DecidablePred kept] (root : kept [])
    (above : ∀ {name place}, kept (name :: place) → kept place) : Tree where
  entry place := if kept place then tree.entry place else none
  root := by rw [if_pos root, tree.root]
  closed := by
    intro name place present
    by_cases keeps : kept (name :: place)
    · rw [if_pos keeps] at present
      rw [if_pos (above keeps), tree.closed present]
    · rw [if_neg keeps] at present
      exact absurd rfl present

/-- A place in a directory, or deeper in it. -/
def Below (directory place : Place) : Prop := directory <:+ place ∧ directory ≠ place

instance (directory place : Place) : Decidable (Below directory place) :=
  inferInstanceAs (Decidable (_ ∧ _))

/-- What is in a place below a directory is below the directory. -/
theorem Below.cons {directory place : Place} (below : Below directory place) (name : String) :
    Below directory (name :: place) := by
  refine ⟨below.1.trans (List.suffix_cons _ _), ?_⟩
  rintro rfl
  have length := below.1.length_le
  rw [List.length_cons] at length
  omega

/-- What is in a directory is below it. -/
theorem below_cons (directory : Place) (name : String) : Below directory (name :: directory) :=
  ⟨List.suffix_cons _ _, by simp⟩

/-- What is below a place below a directory is below the directory. -/
theorem Below.trans {directory middle place : Place} (upper : Below directory middle)
    (lower : Below middle place) : Below directory place := by
  refine ⟨upper.1.trans lower.1, ?_⟩
  rintro rfl
  exact upper.2 (upper.1.eq_of_length_le lower.1.length_le)

/-- A tree with nothing below a directory. -/
def clear (tree : Tree) (directory : Place) : Tree :=
  tree.keep (fun place => ¬ Below directory place)
    (fun below => below.2 (List.suffix_nil.mp below.1))
    (fun above below => above (below.cons _))

/-- Clearing a directory concerns what is below it. -/
theorem clear_entry (tree : Tree) (directory place : Place) :
    (tree.clear directory).entry place =
      if Below directory place then none else tree.entry place := by
  rw [clear, keep]
  by_cases below : Below directory place <;> simp [below]

/-- A tree with what was below a directory in another. -/
def restore (tree saved : Tree) (directory : Place) : Option Tree :=
  if present : tree.entry directory = some .directory then
    some {
      entry := fun place =>
        if Below directory place then saved.entry place else tree.entry place
      root := by
        rw [if_neg fun below => below.2 (List.suffix_nil.mp below.1), tree.root]
      closed := by
        intro name place found
        by_cases deeper : Below directory place
        · rw [if_pos (deeper.cons name)] at found
          rw [if_pos deeper, saved.closed found]
        · rw [if_neg deeper]
          by_cases inside : Below directory (name :: place)
          · have same : directory = place := by
              by_contra different
              rcases List.suffix_cons_iff.mp inside.1 with equal | higher
              · exact inside.2 equal
              · exact deeper ⟨higher, different⟩
            rw [← same, present]
          · rw [if_neg inside] at found
            exact tree.closed found }
  else none

/-- What was below a directory is put back under a directory. -/
theorem restore_eq_some {tree : Tree} (saved : Tree) {directory : Place}
    (present : tree.entry directory = some .directory) :
    ∃ after, tree.restore saved directory = some after ∧ ∀ place, after.entry place =
      if Below directory place then saved.entry place else tree.entry place := by
  rw [restore, dif_pos present]
  exact ⟨_, rfl, fun _ => rfl⟩

/-- What putting back does. -/
theorem restore_entry {tree saved after : Tree} {directory : Place}
    (restored : tree.restore saved directory = some after) :
    tree.entry directory = some .directory ∧ ∀ place, after.entry place =
      if Below directory place then saved.entry place else tree.entry place := by
  rw [restore] at restored
  split at restored
  · rename_i present
    obtain rfl := Option.some.inj restored
    exact ⟨present, fun _ => rfl⟩
  · cases restored

/-- A tree without a place and what is below it; the directories of some places are kept. -/
def remove (tree : Tree) (place : Place) (busy : List Place) : Tree :=
  tree.keep (fun other => other = [] ∨ ¬ place <:+ other ∨ ∃ held ∈ busy, other <:+ held)
    (Or.inl rfl)
    (by
      intro name other kept
      rcases kept with root | outside | ⟨held, listed, higher⟩
      · cases root
      · exact Or.inr (Or.inl fun inside => outside (inside.trans (List.suffix_cons _ _)))
      · exact Or.inr (Or.inr ⟨held, listed, (List.suffix_cons _ _).trans higher⟩))

/-- What a removal leaves. -/
theorem remove_entry (tree : Tree) (place : Place) (busy : List Place) (other : Place) :
    (tree.remove place busy).entry other =
      if other = [] ∨ ¬ place <:+ other ∨ ∃ held ∈ busy, other <:+ held then tree.entry other
      else none := rfl

end Tree

end FileTree
