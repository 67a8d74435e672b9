import Mathlib

/-!
# Finite maps and merge patches

A merge patch names the keys on which a modified copy of a map differs from the copy it was
made from, each with what to do to the value of that key. It is applied to a third map, which
need not be the copy the patch was computed from. Keys that the two copies agree on are absent
from the patch, so their values in the third map stay (`merge_diff_get`). Values are patched by
a `ValuePatch`, which carries the laws of its own difference and merge.
-/

namespace MergePatch

/-- A finite map with string keys. Equality is equality of all lookups. -/
abbrev StringMap (β : Type) : Type := Std.ExtTreeMap String β compare

/-- Maps with the same lookups are equal. -/
theorem StringMap.ext {β : Type} {left right : StringMap β}
    (same : ∀ key : String, left[key]? = right[key]?) : left = right :=
  Std.ExtTreeMap.ext_getElem? same

/-- Lookup after inserting one key. -/
theorem StringMap.get_insert {β : Type} (map : StringMap β) (key other : String) (value : β) :
    (map.insert key value)[other]? = if key = other then some value else map[other]? := by
  simp only [Std.ExtTreeMap.getElem?_insert, Std.compare_eq_iff_eq]

/-- Copy every entry of a source over a destination. -/
def StringMap.copy {β : Type} (destination source : StringMap β) : StringMap β :=
  destination ∪ source

/-- A copied key has its source value; any other key keeps its own. -/
@[simp] theorem StringMap.get_copy {β : Type} (destination source : StringMap β) (key : String) :
    (destination.copy source)[key]? = source[key]?.or destination[key]? :=
  Std.ExtTreeMap.getElem?_union

/-- Entries that are copied once more stay. -/
theorem StringMap.copy_copy {β : Type} (destination source : StringMap β) :
    (destination.copy source).copy source = destination.copy source := by
  apply StringMap.ext
  intro key
  simp only [StringMap.get_copy]
  cases source[key]? <;> rfl

/-- The map of a single entry. -/
def StringMap.single {β : Type} (key : String) (value : β) : StringMap β :=
  (∅ : StringMap β).insert key value

/-- A single-entry map has a value at its key only. -/
@[simp] theorem StringMap.get_single {β : Type} (key other : String) (value : β) :
    (StringMap.single key value)[other]? = if key = other then some value else none := by
  rw [StringMap.single, StringMap.get_insert, Std.ExtTreeMap.getElem?_empty]

/-- Take over an entry of a map if it is selected. -/
def StringMap.collectStep {β γ : Type} (select : String → β → Option γ) (taken : StringMap γ)
    (entry : String × β) : StringMap γ :=
  match select entry.1 entry.2 with
  | some value => taken.insert entry.1 value
  | none => taken

/-- The selected entries of a map. -/
def StringMap.collect {β γ : Type} (select : String → β → Option γ) (map : StringMap β) :
    StringMap γ :=
  map.toList.foldl (collectStep select) ∅

/-- Taking over an entry concerns its key only. -/
theorem StringMap.collectStep_get {β γ : Type} (select : String → β → Option γ)
    (taken : StringMap γ) (entry : String × β) (key : String) :
    (collectStep select taken entry)[key]? =
      if entry.1 = key then (select entry.1 entry.2).or taken[key]? else taken[key]? := by
  rw [collectStep]
  cases select entry.1 entry.2 with
  | none => simp
  | some value => simp [StringMap.get_insert]

/-- A loop over entries with distinct keys takes over the entry of each key. -/
theorem StringMap.foldl_collectStep_get {β γ : Type} (select : String → β → Option γ)
    (entries : List (String × β)) (distinct : entries.Pairwise fun first second =>
      first.1 ≠ second.1) (taken : StringMap γ) (key : String) :
    (entries.foldl (collectStep select) taken)[key]? =
      ((entries.find? (·.1 = key)).bind fun entry => select entry.1 entry.2).or taken[key]? := by
  induction entries generalizing taken with
  | nil => simp
  | cons entry entries ih =>
    obtain ⟨apart, rest⟩ := List.pairwise_cons.mp distinct
    rw [List.foldl_cons, ih rest, collectStep_get, List.find?_cons]
    by_cases same : entry.1 = key
    · have absent : entries.find? (·.1 = key) = none := by
        rw [List.find?_eq_none]
        intro other listed
        simpa [← same] using Ne.symm (apart other listed)
      simp [same, absent]
    · simp [same]

/-- A loop over the entries of a map in any order takes over what is selected from them. -/
theorem StringMap.foldl_collectStep_perm {β γ : Type} (select : String → β → Option γ)
    {map : StringMap β} {entries : List (String × β)} (perm : entries.Perm map.toList)
    (key : String) :
    (entries.foldl (collectStep select) ∅)[key]? = map[key]?.bind (select key) := by
  have apart : map.toList.Pairwise fun first second => first.1 ≠ second.1 :=
    Std.ExtTreeMap.distinct_keys_toList.imp fun apart => by
      simpa only [ne_eq, Std.compare_eq_iff_eq] using apart
  have distinct : entries.Pairwise fun first second => first.1 ≠ second.1 :=
    (perm.pairwise_iff fun different => different.symm).mpr apart
  rw [foldl_collectStep_get select _ distinct, Std.ExtTreeMap.getElem?_empty, Option.or_none]
  cases found : entries.find? (·.1 = key) with
  | none =>
    have absent : map[key]? = none := by
      rw [Option.eq_none_iff_forall_not_mem]
      intro value held
      have listed := perm.mem_iff.mpr (Std.ExtTreeMap.mem_toList_iff_getElem?_eq_some.mpr held)
      simpa using List.find?_eq_none.mp found _ listed
    simp [absent]
  | some entry =>
    have same : entry.1 = key := by simpa using List.find?_some found
    have held : map[entry.1]? = some entry.2 := Std.ExtTreeMap.mem_toList_iff_getElem?_eq_some.mp
      (perm.mem_iff.mp (List.mem_of_find?_eq_some found))
    rw [← same, held]
    rfl

/-- The value of a key in the selection is selected from the value of the key. -/
theorem StringMap.collect_get {β γ : Type} (select : String → β → Option γ) (map : StringMap β)
    (key : String) : (map.collect select)[key]? = map[key]?.bind (select key) :=
  foldl_collectStep_perm select (List.Perm.refl _) key

/-- Inserting the entries of a map in any order gives the map. -/
theorem StringMap.foldl_insert_perm {β : Type} {map : StringMap β} {entries : List (String × β)}
    (perm : entries.Perm map.toList) :
    entries.foldl (fun copy entry => copy.insert entry.1 entry.2) ∅ = map := by
  apply StringMap.ext
  intro key
  exact (foldl_collectStep_perm (fun _ value => some value) perm key).trans (by simp)

/-- How values of one type are patched. -/
structure ValuePatch (β δ : Type) where
  /-- The patch that sets a whole value. -/
  full : β → δ
  /-- The patch from one value to another, absent if they are equal. -/
  diff : β → β → Option δ
  /-- Apply a patch to a present or absent value; it may leave no acceptable value. -/
  merge : δ → Option β → Option β
  /-- Setting a whole value leaves that value. -/
  merge_full : ∀ value current, merge (full value) current = some value
  /-- Equal values are those without a patch between them. -/
  diff_eq_none : ∀ first second, diff first second = none ↔ first = second
  /-- Patching the value a patch was computed from gives the value it was computed for. -/
  merge_diff : ∀ first second patch, diff first second = some patch →
    merge patch (some first) = some second

/-- Values without parts are replaced as a whole. -/
def ValuePatch.atomic (β : Type) [DecidableEq β] : ValuePatch β β where
  full value := value
  diff first second := if first = second then none else some second
  merge patch _ := some patch
  merge_full _ _ := rfl
  diff_eq_none first second := by simp
  merge_diff first second patch found := by
    by_cases same : first = second
    · simp [same] at found
    · simpa [same, eq_comm] using found

/-- What a patch does to one key. -/
inductive Change (δ : Type) where
  /-- The key is removed. -/
  | remove
  /-- The value of the key is patched. -/
  | set (patch : δ)
  deriving DecidableEq

variable {β δ : Type} (values : ValuePatch β δ)

/-- The merge patch from an original copy to a modified one. -/
def diff (original modified : StringMap β) : StringMap (Change δ) :=
  (original.collect fun key first =>
    match modified[key]? with
    | none => some .remove
    | some second => (values.diff first second).map .set).copy
  (modified.collect fun key second =>
    if original.contains key then none else some (.set (values.full second)))

/-- Apply a merge patch to a map. -/
def merge (patch : StringMap (Change δ)) (current : StringMap β) : StringMap β :=
  (current.collect fun key value => if patch.contains key then none else some value).copy
  (patch.collect fun key change =>
    match change with
    | .remove => none
    | .set patch => values.merge patch current[key]?)

/-- Every key a patch sets gets an acceptable value. -/
def applicable (patch : StringMap (Change δ)) (current : StringMap β) : Bool :=
  patch.toList.all fun entry =>
    match entry.2 with
    | .remove => true
    | .set change => (values.merge change current[entry.1]?).isSome

/-- What a patch does to a key depends on the two copies at that key only. -/
theorem diff_get (original modified : StringMap β) (key : String) :
    (diff values original modified)[key]? =
      match original[key]?, modified[key]? with
      | none, none => none
      | none, some second => some (.set (values.full second))
      | some _, none => some .remove
      | some first, some second => (values.diff first second).map .set := by
  simp only [diff, StringMap.get_copy, StringMap.collect_get,
    Std.ExtTreeMap.contains_eq_isSome_getElem?]
  cases original[key]? <;> cases modified[key]? <;> simp

/-- The value of a key after a patch depends on the patch and the map at that key only. -/
theorem merge_get (patch : StringMap (Change δ)) (current : StringMap β) (key : String) :
    (merge values patch current)[key]? =
      match patch[key]? with
      | none => current[key]?
      | some .remove => none
      | some (.set change) => values.merge change current[key]? := by
  simp only [merge, StringMap.get_copy, StringMap.collect_get,
    Std.ExtTreeMap.contains_eq_isSome_getElem?]
  cases found : patch[key]? with
  | none => cases current[key]? <;> simp
  | some change =>
    cases change with
    | remove => cases current[key]? <;> simp
    | set patch => cases current[key]? <;> simp

/-- A key the two copies agree on keeps its value in whatever map is patched. -/
theorem merge_diff_get_of_eq {original modified : StringMap β} {key : String}
    (same : original[key]? = modified[key]?) (current : StringMap β) :
    (merge values (diff values original modified) current)[key]? = current[key]? := by
  rw [merge_get, diff_get, ← same]
  cases original[key]? with
  | none => rfl
  | some value => simp [(values.diff_eq_none value value).mpr rfl]

/-- A key that the modified copy sets gets the modified value if the patched map holds at that
key what the original copy held, or if the original copy held nothing there. -/
theorem merge_diff_get {original modified current : StringMap β} {key : String} {value : β}
    (modifies : modified[key]? = some value)
    (fresh : original[key]? = none ∨ original[key]? = current[key]?) :
    (merge values (diff values original modified) current)[key]? = some value := by
  rw [merge_get, diff_get, modifies]
  cases before : original[key]? with
  | none => exact values.merge_full value _
  | some first =>
    have held : current[key]? = some first := by
      rcases fresh with absent | same
      · rw [absent] at before; contradiction
      · rw [← same, before]
    cases change : values.diff first value with
    | none =>
      obtain rfl := (values.diff_eq_none first value).mp change
      simp [change, held]
    | some patch => simp [change, held, values.merge_diff _ _ _ change]

/-- Patching the original copy itself gives the modified copy. -/
theorem merge_diff_self (original modified : StringMap β) :
    merge values (diff values original modified) original = modified := by
  apply StringMap.ext
  intro key
  cases modifies : modified[key]? with
  | some value => exact merge_diff_get values modifies (Or.inr rfl)
  | none =>
    rw [merge_get, diff_get, modifies]
    cases original[key]? <;> rfl

/-- A patch is applicable to the copy it was made from. -/
theorem applicable_diff_self (original modified : StringMap β) :
    applicable values (diff values original modified) original = true := by
  rw [applicable, List.all_eq_true]
  rintro ⟨key, change⟩ listed
  have found := Std.ExtTreeMap.mem_toList_iff_getElem?_eq_some.mp listed
  have merged := merge_get values (diff values original modified) original key
  rw [merge_diff_self, found] at merged
  cases change with
  | remove => rfl
  | set patch =>
    have modifies : modified[key]? ≠ none := by
      intro removed
      rw [diff_get, removed] at found
      cases first : original[key]? with
      | none => simp [first] at found
      | some value => simp [first] at found
    rw [merged] at modifies
    exact Option.isSome_iff_ne_none.mpr modifies

end MergePatch
