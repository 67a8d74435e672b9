import Mathlib

/-!
# Slash-separated paths

Lexical operations on path strings, and the place in the file tree that a string denotes. A
place is the list of directory names from the innermost outwards, so that the parent of a place
is its tail. A string denotes the place reached by its components from the root: empty and `.`
components stay, and `..` goes to the parent.
-/

namespace FilePath

/-- The components of a path string, empty ones included. -/
def components (path : String) : List String := (path.toList.splitOn '/').map String.ofList

/-- Whether a path string starts at the root. -/
def rooted (path : String) : Bool := path.toList.head? = some '/'

/-- One component of a lexical cleaning; the components kept so far are innermost first. -/
def cleanStep (atRoot : Bool) (kept : List String) (component : String) : List String :=
  if component = "" ∨ component = "." then kept
  else if component = ".." then
    match kept with
    | [] => if atRoot then [] else [".."]
    | last :: rest => if last = ".." then ".." :: kept else rest
  else component :: kept

/-- The components a lexical cleaning keeps, innermost first. -/
def cleaned (path : String) : List String :=
  (components path).foldl (cleanStep (rooted path)) []

/-- The shortest equivalent path string. -/
def clean (path : String) : String :=
  let text := (if rooted path then "/" else "") ++ String.intercalate "/" (cleaned path).reverse
  if text = "" then "." else text

/-- Join two path strings and clean the result; empty strings are left out. -/
def join (first second : String) : String :=
  if first ≠ "" then clean (first ++ "/" ++ second)
  else if second ≠ "" then clean second
  else ""

/-- A string without a leading part, if it has it. -/
def trimLead (text lead : String) : String :=
  if lead.toList.isPrefixOf text.toList then String.ofList (text.toList.drop lead.toList.length)
  else text

/-- One component of the walk to the place of a path. -/
def walk (place : List String) (component : String) : List String :=
  if component = "" ∨ component = "." then place
  else if component = ".." then place.tail
  else component :: place

/-- The place a path string denotes, innermost name first. -/
def place (path : String) : List String := (components path).foldl walk []

/-- A name that stands for one step down in a path. -/
def IsName (name : String) : Prop :=
  name ≠ "" ∧ name ≠ "." ∧ name ≠ ".." ∧ '/' ∉ name.toList

instance (name : String) : Decidable (IsName name) :=
  inferInstanceAs (Decidable (_ ∧ _ ∧ _ ∧ _))

/-- The components of two paths with a slash between them. -/
theorem components_append (first second : String) :
    components (first ++ "/" ++ second) = components first ++ components second := by
  have text : (first ++ "/" ++ second).toList = first.toList ++ '/' :: second.toList := by simp
  rw [components, text, List.splitOn_append_cons_self, List.map_append]
  rfl

/-- A text without slashes is one component. -/
theorem components_of_not_mem {path : String} (plain : '/' ∉ path.toList) :
    components path = [path] := by
  rw [components, List.splitOn_eq_singleton plain, List.map_singleton, String.ofList_toList]

/-- The pieces between separators have none. -/
theorem not_mem_of_mem_splitOn {separator : Char} {text piece : List Char}
    (listed : piece ∈ text.splitOn separator) : separator ∉ piece := by
  induction text generalizing piece with
  | nil =>
    obtain rfl : piece = [] := by simpa using listed
    exact List.not_mem_nil
  | cons first text ih =>
    rw [List.splitOn_cons_eq_if_modifyHead] at listed
    split at listed
    · rcases List.mem_cons.mp listed with rfl | listed
      · exact List.not_mem_nil
      · exact ih listed
    · rename_i different
      have other : separator ≠ first := fun same => different (by simp [same])
      cases pieces : text.splitOn separator with
      | nil => exact absurd pieces (List.splitOn_ne_nil _ _)
      | cons head tail =>
        rw [pieces] at ih listed
        rcases List.mem_cons.mp listed with rfl | listed
        · simpa [other] using ih List.mem_cons_self
        · exact ih (List.mem_cons_of_mem _ listed)

/-- A component has no slash. -/
theorem not_mem_of_mem_components {path component : String}
    (listed : component ∈ components path) : '/' ∉ component.toList := by
  obtain ⟨piece, among, rfl⟩ := List.mem_map.mp listed
  rw [String.toList_ofList]
  exact not_mem_of_mem_splitOn among

/-- The components of names with slashes between them are the names. -/
theorem components_intercalate {names : List String} (some : names ≠ [])
    (plain : ∀ name ∈ names, '/' ∉ name.toList) :
    components (String.intercalate "/" names) = names := by
  have separated : ∀ piece ∈ names.map String.toList, '/' ∉ piece := by
    intro piece listed
    obtain ⟨name, among, rfl⟩ := List.mem_map.mp listed
    exact plain name among
  have text : (String.intercalate "/" names).toList =
      ['/'].intercalate (names.map String.toList) := by
    rw [String.toList_intercalate]
    rfl
  rw [components, text, List.splitOn_intercalate '/' separated (by simpa using some), List.map_map]
  simp

/-- What a cleaning keeps: no empty and no `.` components, and none with a slash. -/
def Kept (kept : List String) : Prop :=
  ∀ name ∈ kept, name ≠ "" ∧ name ≠ "." ∧ '/' ∉ name.toList

/-- One step of a cleaning keeps the place of the components so far. -/
theorem walk_cleanStep (atRoot : Bool) {kept : List String} (clean : Kept kept) (component : String)
    (plain : '/' ∉ component.toList) :
    Kept (cleanStep atRoot kept component) ∧
      (cleanStep atRoot kept component).reverse.foldl walk [] =
        walk (kept.reverse.foldl walk []) component := by
  unfold cleanStep
  by_cases stay : component = "" ∨ component = "."
  · rw [if_pos stay, walk, if_pos stay]
    exact ⟨clean, rfl⟩
  · rw [if_neg stay]
    by_cases up : component = ".."
    · rw [if_pos up]
      subst up
      have parent : Kept [".."] := by
        intro name listed
        obtain rfl := List.mem_singleton.mp listed
        decide
      cases kept with
      | nil => cases atRoot <;> exact ⟨by first | exact parent | exact clean, rfl⟩
      | cons last rest =>
        have lower : Kept rest := fun name listed => clean name (List.mem_cons_of_mem _ listed)
        by_cases above : last = ".."
        · simp only [above, ↓reduceIte]
          subst above
          refine ⟨?_, by simp⟩
          intro name listed
          rcases List.mem_cons.mp listed with rfl | listed
          · exact parent _ List.mem_cons_self
          · exact clean name listed
        · simp only [above, ↓reduceIte]
          obtain ⟨nonempty, nodot, -⟩ := clean last List.mem_cons_self
          refine ⟨lower, ?_⟩
          have down : walk (rest.reverse.foldl walk []) last =
              last :: rest.reverse.foldl walk [] := by
            rw [walk, if_neg (by simp [nonempty, nodot]), if_neg above]
          rw [List.reverse_cons, List.foldl_append, List.foldl_cons, List.foldl_nil, down]
          rfl
    · rw [if_neg up]
      refine ⟨?_, by simp⟩
      intro name listed
      rcases List.mem_cons.mp listed with rfl | listed
      · exact ⟨fun empty => stay (Or.inl empty), fun dot => stay (Or.inr dot), plain⟩
      · exact clean name listed

/-- A cleaning keeps the place of the components. -/
theorem walk_cleaned (atRoot : Bool) (path : List String)
    (plain : ∀ component ∈ path, '/' ∉ component.toList) :
    Kept (path.foldl (cleanStep atRoot) []) ∧
      (path.foldl (cleanStep atRoot) []).reverse.foldl walk [] = path.foldl walk [] := by
  induction path using List.reverseRecOn with
  | nil => exact ⟨fun name listed => (by cases listed), rfl⟩
  | append_singleton path component ih =>
    obtain ⟨kept, same⟩ := ih fun other listed => plain other (by simp [listed])
    rw [List.foldl_append, List.foldl_append, List.foldl_cons, List.foldl_nil, List.foldl_cons,
      List.foldl_nil, ← same]
    exact walk_cleanStep atRoot kept component (plain component (by simp))

/-- The components that are kept, and the place they lead to. -/
theorem cleaned_kept (path : String) :
    Kept (cleaned path) ∧ (cleaned path).reverse.foldl walk [] = place path :=
  walk_cleaned (rooted path) (components path) fun _ listed => not_mem_of_mem_components listed

/-- The kept components are those of their text, and the text is not empty if there are some. -/
theorem cleaned_text {path : String} (some : cleaned path ≠ []) :
    components (String.intercalate "/" (cleaned path).reverse) = (cleaned path).reverse ∧
      String.intercalate "/" (cleaned path).reverse ≠ "" := by
  have kept := (cleaned_kept path).1
  have names : components (String.intercalate "/" (cleaned path).reverse) =
      (cleaned path).reverse :=
    components_intercalate (by simpa using some) fun name listed =>
      (kept name (List.mem_reverse.mp listed)).2.2
  refine ⟨names, fun blank => ?_⟩
  rw [blank] at names
  have first : "" ∈ cleaned path := by
    rw [← List.mem_reverse, ← names]
    decide
  exact (kept "" first).1 rfl

/-- A clean path denotes the same place. -/
theorem place_clean (path : String) : place (clean path) = place path := by
  obtain ⟨kept, same⟩ := cleaned_kept path
  rw [← same, clean]
  by_cases empty : cleaned path = []
  · rw [empty]
    cases rooted path <;> decide
  · obtain ⟨names, nonempty⟩ := cleaned_text empty
    cases rooted path with
    | false =>
      simp only [Bool.false_eq_true, ↓reduceIte, String.empty_append, nonempty, place, names]
    | true =>
      have slash : "/" ++ String.intercalate "/" (cleaned path).reverse =
          "" ++ "/" ++ String.intercalate "/" (cleaned path).reverse := by simp
      have some : ("/" ++ String.intercalate "/" (cleaned path).reverse) ≠ "" := by simp
      simp only [↓reduceIte, some, place]
      rw [slash, components_append, names]
      rfl

/-- Joining walks on from the place of the first path. -/
theorem place_join (first second : String) :
    place (join first second) = (components second).foldl walk (place first) := by
  rw [join]
  by_cases empty : first = ""
  · subst empty
    by_cases blank : second = ""
    · subst blank
      decide
    · simp only [ne_eq, not_true_eq_false, ↓reduceIte, blank, not_false_eq_true, place_clean]
      rfl
  · rw [if_pos empty, place_clean, place, components_append, List.foldl_append]
    rfl

/-- A name is a step down. -/
theorem IsName.walk {name : String} (isName : IsName name) (start : List String) :
    walk start name = name :: start := by
  obtain ⟨nonempty, nodot, noparent, -⟩ := isName
  rw [FilePath.walk, if_neg (by simp [nonempty, nodot]), if_neg noparent]

/-- Joining a name goes one step down. -/
theorem place_join_name (path : String) {name : String} (isName : IsName name) :
    place (join path name) = name :: place path := by
  rw [place_join, components_of_not_mem isName.2.2.2, List.foldl_cons, List.foldl_nil, isName.walk]

/-- Cleaning goes on to a name after a path that denotes more than the root. -/
theorem clean_append_name {path name : String} (isName : IsName name) (some : place path ≠ []) :
    clean (path ++ "/" ++ name) = clean path ++ "/" ++ name := by
  obtain ⟨nonempty, nodot, noparent, plain⟩ := isName
  have keptSome : cleaned path ≠ [] := by
    intro empty
    apply some
    rw [← (cleaned_kept path).2, empty]
    rfl
  have nonblank : path ≠ "" := by
    rintro rfl
    exact some rfl
  have sameRoot : rooted (path ++ "/" ++ name) = rooted path := by
    obtain ⟨first, rest, text⟩ := List.exists_cons_of_ne_nil
      (fun empty => nonblank (String.toList_eq_nil_iff.mp empty))
    simp [rooted, text]
  have step : cleanStep (rooted path) (cleaned path) name = name :: cleaned path := by
    unfold cleanStep
    rw [if_neg (by simp [nonempty, nodot]), if_neg noparent]
  have longer : cleaned (path ++ "/" ++ name) = name :: cleaned path := by
    rw [← step, cleaned, components_append, components_of_not_mem plain, sameRoot,
      List.foldl_append]
    rfl
  have text : String.intercalate "/" (name :: cleaned path).reverse =
      String.intercalate "/" (cleaned path).reverse ++ "/" ++ name := by
    rw [List.reverse_cons, String.intercalate_append_of_ne_nil (by simpa using keptSome)
      (by simp), String.intercalate_singleton]
  have blank := (cleaned_text keptSome).2
  rw [clean, clean, sameRoot, longer, text]
  cases rooted path <;> simp [blank, String.append_assoc]

/-- Joining a name to a clean path puts it behind a slash, and the result is clean. -/
theorem join_name_of_clean {path name : String} (isName : IsName name) (some : place path ≠ [])
    (isClean : clean path = path) :
    join path name = path ++ "/" ++ name ∧ clean (join path name) = join path name := by
  have nonblank : path ≠ "" := by
    rintro rfl
    exact some rfl
  have joined : join path name = path ++ "/" ++ name := by
    rw [join, if_pos nonblank, clean_append_name isName some, isClean]
  refine ⟨joined, ?_⟩
  rw [joined, clean_append_name isName some, isClean]

/-- A leading part that is there is taken away. -/
theorem trimLead_append (lead rest : String) : trimLead (lead ++ rest) lead = rest := by
  have leads : lead.toList.isPrefixOf (lead ++ rest).toList = true := by
    rw [List.isPrefixOf_iff_prefix, String.toList_append]
    exact List.prefix_append _ _
  rw [trimLead, if_pos leads, String.toList_append, List.drop_left, String.ofList_toList]

/-- From the root a cleaning keeps exactly the place. -/
theorem cleaned_rooted {path : String} (absolute : rooted path = true) :
    cleaned path = place path := by
  have fold : ∀ (names kept : List String), (∀ name ∈ kept, name ≠ "..") →
      names.foldl (cleanStep true) kept = names.foldl walk kept := by
    intro names
    induction names with
    | nil => exact fun _ _ => rfl
    | cons component names ih =>
      intro kept down
      have step : cleanStep true kept component = walk kept component := by
        unfold cleanStep walk
        cases kept with
        | nil => simp
        | cons last rest => simp [down last List.mem_cons_self]
      have still : ∀ name ∈ walk kept component, name ≠ ".." := by
        intro name listed
        unfold walk at listed
        split at listed
        · exact down name listed
        · split at listed
          · exact down name (List.mem_of_mem_tail listed)
          next up =>
            rcases List.mem_cons.mp listed with rfl | listed
            · exact up
            · exact down name listed
      rw [List.foldl_cons, List.foldl_cons, step]
      exact ih _ still
  rw [cleaned, absolute]
  exact fold _ [] (by simp)

/-- A place has names only. -/
theorem isName_of_mem_place {path name : String} (listed : name ∈ place path) : IsName name := by
  have fold : ∀ (names start : List String), (∀ name ∈ names, '/' ∉ name.toList) →
      (∀ name ∈ start, IsName name) → ∀ name ∈ names.foldl walk start, IsName name := by
    intro names
    induction names with
    | nil => exact fun _ _ all => all
    | cons component names ih =>
      intro start plain all
      refine ih _ (fun name among => plain name (List.mem_cons_of_mem _ among)) ?_
      intro name among
      unfold walk at among
      split at among
      · exact all name among
      next stay =>
        split at among
        · exact all name (List.mem_of_mem_tail among)
        next up =>
          rcases List.mem_cons.mp among with rfl | among
          · exact ⟨fun empty => stay (.inl empty), fun dot => stay (.inr dot), up,
              plain name List.mem_cons_self⟩
          · exact all name among
  exact fold _ [] (fun _ among => not_mem_of_mem_components among) (by simp) name listed

/-- Names lead down one after the other. -/
theorem foldl_walk_names {names : List String} (all : ∀ name ∈ names, IsName name)
    (start : List String) : names.foldl walk start = names.reverse ++ start := by
  induction names generalizing start with
  | nil => rfl
  | cons name names ih =>
    rw [List.foldl_cons, (all name List.mem_cons_self).walk,
      ih fun other listed => all other (List.mem_cons_of_mem _ listed)]
    simp

/-- What a cleaning keeps are names behind steps to the parent. -/
theorem cleaned_names (path : String) : ∃ names count,
    cleaned path = names ++ List.replicate count ".." ∧ ∀ name ∈ names, IsName name := by
  have fold : ∀ (atRoot : Bool) (parts : List String), (∀ part ∈ parts, '/' ∉ part.toList) →
      ∃ names count, parts.foldl (cleanStep atRoot) [] = names ++ List.replicate count ".." ∧
        ∀ name ∈ names, IsName name := by
    intro atRoot parts
    induction parts using List.reverseRecOn with
    | nil => exact fun _ => ⟨[], 0, rfl, by simp⟩
    | append_singleton parts part ih =>
      intro plain
      obtain ⟨names, count, kept, all⟩ := ih fun other listed => plain other (by simp [listed])
      rw [List.foldl_append, List.foldl_cons, List.foldl_nil, kept]
      unfold cleanStep
      by_cases stay : part = "" ∨ part = "."
      · rw [if_pos stay]
        exact ⟨names, count, rfl, all⟩
      · rw [if_neg stay]
        by_cases up : part = ".."
        · rw [if_pos up]
          cases names with
          | nil =>
            cases count with
            | zero =>
              cases atRoot with
              | true => exact ⟨[], 0, rfl, by simp⟩
              | false => exact ⟨[], 1, rfl, by simp⟩
            | succ count => exact ⟨[], count + 2, rfl, by simp⟩
          | cons last names =>
            have named : last ≠ ".." := (all last List.mem_cons_self).2.2.1
            refine ⟨names, count, by simp [named], fun name listed => ?_⟩
            exact all name (List.mem_cons_of_mem _ listed)
        · rw [if_neg up]
          refine ⟨part :: names, count, rfl, fun name listed => ?_⟩
          rcases List.mem_cons.mp listed with rfl | listed
          · exact ⟨fun empty => stay (.inl empty), fun dot => stay (.inr dot), up,
              plain name (by simp)⟩
          · exact all name listed
  exact fold (rooted path) (components path) fun _ listed => not_mem_of_mem_components listed

/-- Steps that stay at the root lead to the root. -/
theorem foldl_walk_root {lead : List String} (stays : ∀ part ∈ lead, walk [] part = []) :
    lead.foldl walk [] = [] := by
  induction lead with
  | nil => rfl
  | cons part lead ih =>
    rw [List.foldl_cons, stays part List.mem_cons_self]
    exact ih fun other listed => stays other (List.mem_cons_of_mem _ listed)

/-- A clean path names its place from the root, after parts that stay there. -/
theorem components_of_clean {path : String} (isClean : clean path = path) :
    ∃ lead, components path = lead ++ (place path).reverse ∧
      ∀ part ∈ lead, walk [] part = [] := by
  obtain ⟨names, count, kept, all⟩ := cleaned_names path
  have parents : ∀ part ∈ List.replicate count "..", walk [] part = [] := by
    intro part listed
    rw [List.eq_of_mem_replicate listed]
    rfl
  have located : place path = names := by
    rw [← (cleaned_kept path).2, kept, List.reverse_append, List.reverse_replicate,
      List.foldl_append, foldl_walk_root parents,
      foldl_walk_names (fun name listed => all name (List.mem_reverse.mp listed))]
    simp
  rw [located]
  rw [clean] at isClean
  by_cases empty : cleaned path = []
  · have none : names = [] := List.append_eq_nil_iff.mp (kept.symm.trans empty) |>.1
    rw [none]
    rw [empty] at isClean
    cases absolute : rooted path with
    | true =>
      rw [absolute] at isClean
      have text : path = "/" := isClean.symm
      exact ⟨["", ""], by rw [text]; decide, by decide⟩
    | false =>
      rw [absolute] at isClean
      have text : path = "." := isClean.symm
      exact ⟨["."], by rw [text]; decide, by decide⟩
  · obtain ⟨parts, nonempty⟩ := cleaned_text empty
    have split : (cleaned path).reverse = List.replicate count ".." ++ names.reverse := by
      rw [kept, List.reverse_append, List.reverse_replicate]
    cases absolute : rooted path with
    | true =>
      have slash : "/" ++ String.intercalate "/" (cleaned path).reverse =
          "" ++ "/" ++ String.intercalate "/" (cleaned path).reverse := by simp
      have some : ("/" ++ String.intercalate "/" (cleaned path).reverse) ≠ "" := by simp
      simp only [absolute, ↓reduceIte, some] at isClean
      refine ⟨"" :: List.replicate count "..", ?_, ?_⟩
      · have first := components_append "" (String.intercalate "/" (cleaned path).reverse)
        rw [← slash, isClean, parts, split] at first
        exact first
      · intro part listed
        rcases List.mem_cons.mp listed with rfl | listed
        · rfl
        · exact parents part listed
    | false =>
      simp only [absolute, Bool.false_eq_true, ↓reduceIte, String.empty_append, nonempty] at isClean
      refine ⟨List.replicate count "..", ?_, parents⟩
      rw [isClean] at parts
      rw [parts, split]

/-- Names are kept by a cleaning. -/
theorem foldl_cleanStep_names {names : List String} (all : ∀ name ∈ names, IsName name)
    (atRoot : Bool) (kept : List String) :
    names.foldl (cleanStep atRoot) kept = names.reverse ++ kept := by
  induction names generalizing kept with
  | nil => rfl
  | cons name names ih =>
    obtain ⟨nonempty, nodot, noparent, -⟩ := all name List.mem_cons_self
    have step : cleanStep atRoot kept name = name :: kept := by
      unfold cleanStep
      rw [if_neg (by simp [nonempty, nodot]), if_neg noparent]
    rw [List.foldl_cons, step, ih fun other listed => all other (List.mem_cons_of_mem _ listed)]
    simp

/-- Steps to the parent are kept at the start of a relative path. -/
theorem foldl_cleanStep_parents (count : Nat) :
    (List.replicate count "..").foldl (cleanStep false) [] = List.replicate count ".." := by
  induction count with
  | zero => rfl
  | succ count ih =>
    rw [List.replicate_succ', List.foldl_append, ih, List.foldl_cons, List.foldl_nil]
    cases count with
    | zero => rfl
    | succ count =>
      rw [← List.replicate_succ']
      rfl

/-- The text of a place, with a slash behind every name. -/
def slashed : List String → String
  | [] => "/"
  | name :: place => slashed place ++ name ++ "/"

/-- The names of a place with slashes around them. -/
theorem slashed_intercalate {names : List String} (some : names ≠ []) :
    "/" ++ String.intercalate "/" names.reverse ++ "/" = slashed names := by
  induction names with
  | nil => exact absurd rfl some
  | cons name names ih =>
    cases names with
    | nil => simp [slashed]
    | cons outer names =>
      have higher := ih (by simp)
      rw [slashed, ← higher, List.reverse_cons,
        String.intercalate_append_of_ne_nil (by simp) (by simp), String.intercalate_singleton]
      simp only [String.append_assoc]

/-- The text of a clean absolute path. -/
theorem clean_rooted {path : String} (absolute : rooted path = true) :
    clean path = "/" ++ String.intercalate "/" (place path).reverse := by
  have nonempty : "/" ++ String.intercalate "/" (place path).reverse ≠ "" := by simp
  rw [clean, cleaned_rooted absolute, absolute]
  simp only [↓reduceIte, nonempty]

/-- A clean absolute path is the root, or the text of its place without the last slash. -/
theorem clean_slashed {path : String} (absolute : rooted path = true) :
    clean path = "/" ∧ place path = [] ∨ clean path ++ "/" = slashed (place path) := by
  rw [clean_rooted absolute]
  cases place path with
  | nil => exact .inl ⟨by decide, rfl⟩
  | cons name names => exact .inr (slashed_intercalate (by simp))

/-- A clean path is absolute if the path is. -/
theorem rooted_clean {path : String} (absolute : rooted path = true) :
    rooted (clean path) = true := by
  rw [clean, absolute]
  simp [rooted]

/-- A path that goes on from an absolute path is absolute. -/
theorem rooted_append {first : String} (absolute : rooted first = true) (second : String) :
    rooted (first ++ second) = true := by
  obtain ⟨tail, text⟩ := List.head?_eq_some_iff.mp (of_decide_eq_true absolute)
  simp [rooted, text]

/-- Joining to an absolute path cleans the two with a slash between them. -/
theorem join_rooted {first : String} (absolute : rooted first = true) (second : String) :
    join first second = clean (first ++ "/" ++ second) := by
  have nonempty : first ≠ "" := by
    rintro rfl
    cases absolute
  rw [join, if_pos nonempty]

/-- A path joined to an absolute path is absolute. -/
theorem rooted_join {first : String} (absolute : rooted first = true) (second : String) :
    rooted (join first second) = true := by
  rw [join_rooted absolute]
  exact rooted_clean (rooted_append (rooted_append absolute _) _)

/-- Joining a name to an absolute path puts it behind the text of its place. -/
theorem join_name_rooted {path name : String} (absolute : rooted path = true)
    (isName : IsName name) : join path name = slashed (place path) ++ name := by
  have deeper := place_join_name path isName
  rw [join_rooted absolute] at deeper ⊢
  rw [place_clean] at deeper
  obtain ⟨-, root⟩ | text := clean_slashed (rooted_append (rooted_append absolute "/") name)
  · rw [deeper] at root
    cases root
  · rw [deeper, slashed] at text
    exact String.toList_injective
      (List.append_cancel_right (by simpa using congrArg String.toList text))

/-- The characters of some names, with a separator for each. -/
def weight (names : List String) : Nat := (names.map fun name => name.length + 1).sum

/-- The components of a path have its characters and one more separator. -/
theorem weight_components (path : String) : weight (components path) = path.length + 1 := by
  have split : ∀ text : List Char,
      ((text.splitOn '/').map fun piece => piece.length + 1).sum = text.length + 1 := by
    intro text
    induction text with
    | nil => simp
    | cons first text ih =>
      rw [List.splitOn_cons_eq_if_modifyHead]
      cases pieces : text.splitOn '/' with
      | nil => exact absurd pieces (List.splitOn_ne_nil _ _)
      | cons head tail =>
        rw [pieces] at ih
        split
        · simp only [List.map_cons, List.sum_cons, List.length_cons, List.length_nil] at ih ⊢
          omega
        · simp only [List.modifyHead_cons, List.map_cons, List.sum_cons, List.length_cons] at ih ⊢
          omega
  have lengths := split path.toList
  rw [weight, components, List.map_map, ← String.length_toList, ← lengths]
  simp [Function.comp_def]

/-- A walk adds at most the characters of the components. -/
theorem weight_walk (names start : List String) :
    weight (names.foldl walk start) ≤ weight start + weight names := by
  induction names generalizing start with
  | nil => simp [weight]
  | cons component names ih =>
    have step : weight (walk start component) ≤ weight start + (component.length + 1) := by
      unfold walk
      split
      · omega
      · split
        · cases start with
          | nil => simp [weight]
          | cons last start =>
            simp only [List.tail_cons, weight, List.map_cons, List.sum_cons]
            omega
        · simp only [weight, List.map_cons, List.sum_cons]
          omega
    have later := ih (walk start component)
    have total : weight (component :: names) = component.length + 1 + weight names := by
      simp [weight]
    rw [List.foldl_cons]
    omega

/-- An absolute path goes on from an empty component. -/
theorem exists_of_rooted {path : String} (absolute : rooted path = true) :
    ∃ rest, path = "" ++ "/" ++ rest := by
  obtain ⟨tail, text⟩ := List.head?_eq_some_iff.mp (of_decide_eq_true absolute)
  exact ⟨String.ofList tail, String.toList_injective (by simp [text])⟩

/-- Cleaning a clean path does nothing. -/
theorem clean_clean (path : String) : clean (clean path) = clean path := by
  cases absolute : rooted path with
  | true =>
    rw [clean_rooted (rooted_clean absolute), place_clean, ← clean_rooted absolute]
  | false =>
    by_cases empty : cleaned path = []
    · have dot : clean path = "." := by
        simp [clean, absolute, empty]
      rw [dot]
      decide
    · obtain ⟨parts, nonempty⟩ := cleaned_text empty
      have text : clean path = String.intercalate "/" (cleaned path).reverse := by
        simp [clean, absolute, nonempty]
      obtain ⟨names, count, kept, all⟩ := cleaned_names path
      have relative : rooted (clean path) = false := by
        apply Bool.eq_false_iff.mpr
        intro root
        obtain ⟨rest, slash⟩ := exists_of_rooted root
        rw [← text, slash, components_append] at parts
        have blank : "" ∈ cleaned path := by
          rw [← List.mem_reverse, ← parts]
          exact List.mem_append_left _ (by decide)
        exact ((cleaned_kept path).1 "" blank).1 rfl
      have again : cleaned (clean path) = cleaned path := by
        rw [cleaned, relative, text, parts, kept, List.reverse_append, List.reverse_replicate,
          List.foldl_append, foldl_cleanStep_parents, foldl_cleanStep_names
            fun name listed => all name (List.mem_reverse.mp listed)]
        simp
      rw [clean, relative, again, ← absolute, ← clean]

/-- A path that is joined to something is clean. -/
theorem clean_join (first : String) {second : String} (some : second ≠ "") :
    clean (join first second) = join first second := by
  rw [join, if_pos some]
  split
  · exact clean_clean _
  · exact clean_clean _

/-- The place of an absolute path has at most its characters. -/
theorem weight_place {path : String} (absolute : rooted path = true) :
    weight (place path) ≤ path.length := by
  obtain ⟨rest, text⟩ := exists_of_rooted absolute
  have walked : place path = (components rest).foldl walk [] := by
    rw [text, place, components_append, List.foldl_append]
    rfl
  have bound := weight_walk (components rest) []
  have length : path.length = rest.length + 1 := by
    rw [text, String.length_append, String.length_append]
    show 0 + 1 + rest.length = rest.length + 1
    omega
  have none : weight [] = 0 := rfl
  rw [weight_components, ← walked] at bound
  omega

/-- The text of a place has its characters and the first slash. -/
theorem length_slashed (place : List String) : (slashed place).length = weight place + 1 := by
  induction place with
  | nil => rfl
  | cons name place ih =>
    simp only [slashed, String.length_append, ih, weight, List.map_cons, List.sum_cons]
    have one : "/".length = 1 := rfl
    omega

/-- The text of a place ends with a slash. -/
theorem slashed_ends (place : List String) : ∃ start, slashed place = start ++ "/" := by
  cases place with
  | nil => exact ⟨"", by simp [slashed]⟩
  | cons name place => exact ⟨_, rfl⟩

/-- An absolute path that a longer text of its own place starts with is that text up to the last
slash, or goes on from there. -/
theorem rooted_lead {path rest more : String} (absolute : rooted path = true)
    (leads : path ++ rest = slashed (place path) ++ more) :
    path ++ "/" = slashed (place path) ∨
      ∃ next, path = slashed (place path) ++ next ∧ more = next ++ rest := by
  have characters := congrArg String.toList leads
  rw [String.toList_append, String.toList_append, List.append_eq_append_iff] at characters
  obtain ⟨missing, whole, -⟩ | ⟨next, whole, others⟩ := characters
  · -- the path is too long to leave out more than the last slash
    have bound := weight_place absolute
    have size := length_slashed (place path)
    have lengths := congrArg List.length whole
    rw [List.length_append, String.length_toList, String.length_toList] at lengths
    obtain ⟨start, ends⟩ := slashed_ends (place path)
    cases missing with
    | nil =>
      right
      refine ⟨"", String.toList_injective (by simpa using whole.symm), ?_⟩
      have same : slashed (place path) = path :=
        String.toList_injective (by simpa using whole)
      rw [same] at leads
      exact String.toList_injective (by simpa using (congrArg String.toList leads).symm)
    | cons last missing =>
      have single : missing = [] := List.eq_nil_of_length_eq_zero (by
        rw [List.length_cons] at lengths
        omega)
      subst single
      have final : last = '/' := by
        rw [ends, String.toList_append] at whole
        have lasts := congrArg List.getLast? whole
        simpa using lasts.symm
      left
      exact String.toList_injective (by rw [whole, final, String.toList_append]; rfl)
  · right
    exact ⟨String.ofList next, String.toList_injective (by simpa using whole),
      String.toList_injective (by simpa using others)⟩

/-- A text that does not start with a part is left as it is. -/
theorem trimLead_of_not {text lead : String} (other : ∀ rest, text ≠ lead ++ rest) :
    trimLead text lead = text := by
  have differs : ¬ lead.toList.isPrefixOf text.toList = true := by
    rw [List.isPrefixOf_iff_prefix]
    rintro ⟨rest, same⟩
    exact other (String.ofList rest) (String.toList_injective (by simpa using same.symm))
  rw [trimLead, if_neg differs]

/-- The place that a link denotes by its text: a relative text starts at the directory that holds
the link. -/
def resolve (link : List String) (text : String) : List String :=
  if rooted text then place text else (components text).foldl walk link.tail

/-- Names with slashes between them lead down from the directory of a link. -/
theorem resolve_names (link : List String) {names : List String} (some : names ≠ [])
    (all : ∀ name ∈ names, IsName name) :
    resolve link (String.intercalate "/" names) = names.reverse ++ link.tail := by
  have parts := components_intercalate some fun name listed => (all name listed).2.2.2
  have relative : rooted (String.intercalate "/" names) ≠ true := by
    intro absolute
    obtain ⟨rest, text⟩ := exists_of_rooted absolute
    rw [text, components_append] at parts
    have blank : "" ∈ names := by
      rw [← parts]
      exact List.mem_append_left _ (by decide)
    exact (all "" blank).1 rfl
  rw [resolve, if_neg relative, parts, foldl_walk_names all]

end FilePath
