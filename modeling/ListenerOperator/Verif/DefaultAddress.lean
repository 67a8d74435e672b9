import ListenerOperator.Verif.Containment

/-!
# The link to the default address

The text of the link is the path of an address directory, which is clean, without the target path,
which is taken as it was given. So the link leads to the directory only if the target path is
spelled as the clean path starts.
-/

namespace ListenerOperator

open Interaction FileTree FilePath

/-- A call that makes no link but one that denotes a place. -/
def Call.LinksTo (target : Place) : Call → Prop
  | .symlink oldName newName => resolve (place newName) oldName = target
  | _ => True

/-- The text of the link to an address below a target path. -/
def linkText (targetPath address : String) : String :=
  trimLead (trimLead (join (addressesPath targetPath) address) targetPath) "/"

/-- The one link that is made. -/
theorem symlinkToDefaultAddress_linksTo (targetPath address : String) :
    (symlinkToDefaultAddress (join (addressesPath targetPath) address) targetPath).Ensures
        (Call.LinksTo (place (join (addressesPath targetPath) address))) (fun _ => True) ↔
      resolve ("default-address" :: place targetPath) (linkText targetPath address) =
        place (join (addressesPath targetPath) address) := by
  rw [symlinkToDefaultAddress, ensures_ask_iff (.symlink _ _), Call.LinksTo,
    place_join_name _ (by decide)]
  simp [linkText]

/-- The path of an address directory below an absolute target path. -/
theorem addressPath_rooted {targetPath address : String} (absolute : rooted targetPath = true)
    (named : IsName address) :
    join (addressesPath targetPath) address =
      slashed (place targetPath) ++ ("addresses/" ++ address) := by
  rw [addressesPath, join_name_rooted (rooted_join absolute _) named,
    place_join_name _ (by decide), slashed]
  simp only [String.append_assoc]
  rfl

/-- Names lead away from a directory. -/
theorem ne_of_deeper {directory : Place} (names : List String) (some : names ≠ []) :
    names ++ directory ≠ directory := by
  intro same
  have length := congrArg List.length same
  rw [List.length_append] at length
  exact some (List.eq_nil_of_length_eq_zero (by omega))

/-- What of an address path leads back to where it starts: nothing, or up again by the first
characters of the address. -/
theorem lead_of_stays {directory : Place} {address next rest : String}
    (named : IsName address) (whole : "addresses/" ++ address = next ++ rest)
    (stays : (components next).foldl walk directory = directory) :
    next = "" ∨ (next = "addresses/.." ∧ address = ".." ++ rest) := by
  -- a part of the first name does not stay, unless it is empty
  have part : ∀ missing, "addresses".toList = next.toList ++ missing → next = "" := by
    intro missing start
    have inside : ∀ c ∈ next.toList, c ∈ "addresses".toList := fun c listed => by
      rw [start]
      exact List.mem_append_left _ listed
    have plain : '/' ∉ next.toList := fun listed => absurd (inside _ listed) (by decide)
    have dot : '.' ∉ next.toList := fun listed => absurd (inside _ listed) (by decide)
    by_contra nonempty
    have isName : IsName next :=
      ⟨nonempty, by rintro rfl; simp at dot, by rintro rfl; simp at dot, plain⟩
    have down : (components next).foldl walk directory = next :: directory := leads_name isName
    exact absurd (down.symm.trans stays) (ne_of_deeper [next] (by simp))
  have characters : "addresses".toList ++ '/' :: address.toList = next.toList ++ rest.toList := by
    simpa using congrArg String.toList whole
  obtain ⟨more, start, after⟩ | ⟨missing, start, -⟩ := List.append_eq_append_iff.mp characters
  · cases more with
    | nil => exact .inl (part [] (by simpa using start.symm))
    | cons slash more =>
      -- into the directory of the addresses, and on by a part of the address
      obtain rfl : '/' = slash := (List.cons.inj after).1
      replace after : address.toList = more ++ rest.toList := (List.cons.inj after).2
      have split : next = "addresses" ++ "/" ++ String.ofList more :=
        String.toList_injective (by simpa using start)
      have plain : '/' ∉ (String.ofList more).toList := by
        intro listed
        apply named.2.2.2
        rw [after]
        exact List.mem_append_left _ (by simpa using listed)
      rw [split, components_append, components_of_not_mem plain] at stays
      replace stays : walk ("addresses" :: directory) (String.ofList more) = directory := stays
      unfold walk at stays
      split at stays
      · exact absurd stays (ne_of_deeper ["addresses"] (by simp))
      · split at stays
        next up =>
          refine .inr ⟨by rw [split, up]; rfl, ?_⟩
          rw [← up]
          exact String.toList_injective (by simpa using after)
        · exact absurd stays (ne_of_deeper [_, "addresses"] (by simp))
  · exact .inl (part missing start)

/-- The link denotes the address directory if its text is the way down. -/
theorem resolve_addresses (link : Place) {address : String} (named : IsName address) :
    resolve link ("addresses/" ++ address) = address :: "addresses" :: link.tail := by
  have text : "addresses/" ++ address = String.intercalate "/" ["addresses", address] := rfl
  rw [text, resolve_names link (by simp)]
  · rfl
  · intro name listed
    simp only [List.mem_cons, List.not_mem_nil, or_false] at listed
    rcases listed with rfl | rfl
    · decide
    · exact named

/-- The text of the link if the path of the address starts with the target path. -/
theorem linkText_lead {targetPath address rest : String}
    (leads : join (addressesPath targetPath) address = targetPath ++ rest) :
    linkText targetPath address = trimLead rest "/" := by
  rw [linkText, leads, trimLead_append]

/-- A text without a leading slash keeps its start. -/
theorem trimLead_slash {text : String} (relative : rooted text = false) :
    trimLead text "/" = text := by
  refine trimLead_of_not fun rest same => ?_
  rw [same] at relative
  simp [rooted] at relative

/-- With a target path that its own clean form, with one more slash or without, starts with, the
text of the link is the way down. -/
theorem linkText_slashed {targetPath address : String} (absolute : rooted targetPath = true)
    (named : IsName address) (slash : targetPath = slashed (place targetPath) ∨
      targetPath ++ "/" = slashed (place targetPath)) :
    linkText targetPath address = "addresses/" ++ address := by
  have relative : rooted ("addresses/" ++ address) = false := by simp [rooted]
  have path := addressPath_rooted absolute named
  obtain same | same := slash
  · rw [← same] at path
    rw [linkText_lead path, trimLead_slash relative]
  · rw [← same, String.append_assoc] at path
    rw [linkText_lead path, trimLead_append]

/-- The place of an absolute path that goes on from its own place. -/
theorem place_slashed {targetPath : String} (absolute : rooted targetPath = true) (next : String) :
    place (slashed (place targetPath) ++ next) =
      (components next).foldl walk (place targetPath) := by
  obtain ⟨-, root⟩ | text := clean_slashed absolute
  · have split : slashed [] ++ next = "" ++ "/" ++ next := rfl
    rw [root, split, place, components_append, List.foldl_append]
    rfl
  · rw [← text, place, components_append, List.foldl_append]
    exact congrArg (List.foldl walk · _) (place_clean targetPath)

/-- With a target path that the path of the address does not start with, the whole path, walked
from the target path, leads too far down, unless the target path is the root. -/
theorem resolve_linkText_other {targetPath address : String} (absolute : rooted targetPath = true)
    (named : IsName address)
    (other : ∀ rest, join (addressesPath targetPath) address ≠ targetPath ++ rest) :
    resolve ("default-address" :: place targetPath) (linkText targetPath address) =
        address :: "addresses" :: place targetPath ↔ place targetPath = [] := by
  have within := place_join_name (addressesPath targetPath) named
  rw [place_addressesPath] at within
  have path : join (addressesPath targetPath) address =
      "/" ++ String.intercalate "/" (address :: "addresses" :: place targetPath).reverse := by
    have absolutePath : rooted (addressesPath targetPath) = true := rooted_join absolute _
    rw [join_rooted absolutePath, place_clean] at within
    rw [join_rooted absolutePath, clean_rooted (rooted_append (rooted_append absolutePath _) _),
      within]
  have text : linkText targetPath address =
      String.intercalate "/" (address :: "addresses" :: place targetPath).reverse := by
    rw [linkText, trimLead_of_not other, path, trimLead_append]
  have names : ∀ name ∈ (address :: "addresses" :: place targetPath).reverse, IsName name := by
    intro name listed
    rw [List.mem_reverse, ← within] at listed
    exact isName_of_mem_place listed
  rw [text, resolve_names _ (by simp) names, List.reverse_reverse]
  simp

/-- With a target path that goes through the directory of the addresses and back, the text of the
link is the end of the address. -/
theorem resolve_linkText_dots {targetPath address rest : String} (named : IsName address)
    (whole : join (addressesPath targetPath) address = targetPath ++ rest)
    (dots : address = ".." ++ rest) :
    resolve ("default-address" :: place targetPath) (linkText targetPath address) ≠
      address :: "addresses" :: place targetPath := by
  have plain : '/' ∉ rest.toList := by
    intro listed
    apply named.2.2.2
    rw [dots, String.toList_append]
    exact List.mem_append_right _ listed
  have relative : ¬ rooted rest = true := by
    intro absolute
    obtain ⟨tail, text⟩ := List.head?_eq_some_iff.mp (of_decide_eq_true absolute)
    exact plain (by rw [text]; exact List.mem_cons_self)
  rw [linkText_lead whole, trimLead_slash (by simpa using relative), resolve, if_neg relative,
    components_of_not_mem plain, List.tail_cons, List.foldl_cons, List.foldl_nil]
  intro same
  have length := congrArg List.length same
  unfold walk at length
  split at length
  · simp only [List.length_cons] at length
    omega
  · split at length
    · simp only [List.length_tail, List.length_cons] at length
      omega
    · simp only [List.length_cons] at length
      omega

/-- The link to an address denotes its directory if and only if the target path is clean, up to a
slash at its end, or is some path of the root, but the one path of the root that leads through the
directory of the addresses if the address starts with two dots. -/
theorem symlinkToDefaultAddress_resolves_iff {targetPath address : String}
    (absolute : rooted targetPath = true) (named : IsName address) :
    (symlinkToDefaultAddress (join (addressesPath targetPath) address) targetPath).Ensures
        (Call.LinksTo (place (join (addressesPath targetPath) address))) (fun _ => True) ↔
      targetPath = clean targetPath ∨ targetPath = clean targetPath ++ "/" ∨
        (clean targetPath = "/" ∧
          ∀ rest, targetPath = "/addresses/.." → address ≠ ".." ++ rest) := by
  have target : place (join (addressesPath targetPath) address) =
      address :: "addresses" :: place targetPath := by
    rw [place_join_name _ named, place_addressesPath]
  have path := addressPath_rooted absolute named
  rw [symlinkToDefaultAddress_linksTo, target]
  have root : clean targetPath = "/" → place targetPath = [] := by
    intro isRoot
    rw [← place_clean, isRoot]
    decide
  have down : linkText targetPath address = "addresses/" ++ address →
      resolve ("default-address" :: place targetPath) (linkText targetPath address) =
        address :: "addresses" :: place targetPath := by
    intro text
    rw [text, resolve_addresses _ named, List.tail_cons]
  by_cases leads : ∃ rest, join (addressesPath targetPath) address = targetPath ++ rest
  · obtain ⟨rest, whole⟩ := leads
    obtain slash | ⟨next, same, after⟩ := rooted_lead absolute (whole.symm.trans path)
    · refine iff_of_true (down (linkText_slashed absolute named (.inr slash))) (.inl ?_)
      obtain ⟨-, empty⟩ | text := clean_slashed absolute
      · rw [empty, slashed, String.append_eq_right_iff] at slash
        rw [slash] at absolute
        cases absolute
      · exact (String.append_left_inj "/").mp (slash.trans text.symm)
    · have stays : (components next).foldl walk (place targetPath) = place targetPath := by
        rw [← place_slashed absolute next, ← same]
      obtain rfl | ⟨rfl, dots⟩ := lead_of_stays named after stays
      · rw [String.append_empty] at same
        refine iff_of_true (down (linkText_slashed absolute named (.inl same))) ?_
        obtain ⟨isRoot, empty⟩ | text := clean_slashed absolute
        · rw [empty] at same
          exact .inl (same.trans isRoot.symm)
        · exact .inr (.inl (same.trans text.symm))
      · refine iff_of_false (resolve_linkText_dots named whole dots) ?_
        have long := congrArg String.length same
        have extra : "addresses/..".length = 12 := by decide
        have one : "/".length = 1 := by decide
        have short : (clean targetPath).length ≤ (slashed (place targetPath)).length := by
          obtain ⟨isRoot, empty⟩ | text := clean_slashed absolute
          · rw [isRoot, empty, slashed]
          · rw [← text, String.length_append]
            omega
        rw [String.length_append] at long
        rintro (isClean | slash | ⟨isRoot, other⟩)
        · rw [← isClean] at short
          omega
        · have length := congrArg String.length slash
          rw [String.length_append] at length
          omega
        · rw [root isRoot] at same
          exact other rest same dots
  · push Not at leads
    rw [resolve_linkText_other absolute named leads]
    constructor
    · intro empty
      right; right
      refine ⟨by rw [clean_rooted absolute, empty]; decide, fun rest through dots => ?_⟩
      apply leads rest
      rw [path, empty, through, dots, slashed]
      simp only [← String.append_assoc]
      rfl
    · rintro (isClean | slash | ⟨isRoot, -⟩)
      · obtain ⟨-, empty⟩ | text := clean_slashed absolute
        · exact empty
        · rw [← text, ← isClean, String.append_assoc] at path
          exact absurd path (leads _)
      · obtain ⟨-, empty⟩ | text := clean_slashed absolute
        · exact empty
        · rw [← text, ← slash] at path
          exact absurd path (leads _)
      · exact root isRoot

/-- The link to the address of a pod volume, with the path as the kubelet gives it, is right. -/
theorem podVolume_resolves :
    (symlinkToDefaultAddress (join (addressesPath "/pods/1/mount") "192.0.2.7")
        "/pods/1/mount").Ensures
      (Call.LinksTo (place (join (addressesPath "/pods/1/mount") "192.0.2.7")))
      (fun _ => True) :=
  (symlinkToDefaultAddress_resolves_iff (by decide) (by decide)).mpr (.inl (by decide +kernel))

/-- With a slash too many in the target path the link leads nowhere. -/
theorem doubleSlash_dangles :
    ¬ (symlinkToDefaultAddress (join (addressesPath "/pods//1/mount") "192.0.2.7")
        "/pods//1/mount").Ensures
      (Call.LinksTo (place (join (addressesPath "/pods//1/mount") "192.0.2.7"))) (fun _ => True) ∧
    linkText "/pods//1/mount" "192.0.2.7" = "pods/1/mount/addresses/192.0.2.7" := by
  refine ⟨?_, by decide +kernel⟩
  rw [symlinkToDefaultAddress_linksTo]
  decide +kernel

end ListenerOperator
