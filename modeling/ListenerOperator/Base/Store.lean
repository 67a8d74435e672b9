import Mathlib

/-!
# Keyed stores

A store holds at most one value under each key, and every value is held under its own key. It
lists its keys, so that the stored values can be enumerated.
-/

namespace Keyed

/-- Values, each held under its own key, with a list of the keys in use. -/
structure Store {κ β : Type} (keyOf : β → κ) where
  /-- Keys, of which some may have lost their value. -/
  keys : List κ
  /-- The value under a key. -/
  get : κ → Option β
  /-- Every key with a value is listed. -/
  covered : ∀ key, get key ≠ none → key ∈ keys
  /-- Every value is held under its own key. -/
  keyed : ∀ {key value}, get key = some value → keyOf value = key

namespace Store

variable {κ β : Type} {keyOf : β → κ}

/-- The store without values. -/
def empty : Store keyOf := ⟨[], fun _ => none, by simp, by simp⟩

instance : EmptyCollection (Store keyOf) := ⟨empty⟩

/-- All values, in the order of their keys. -/
def values (store : Store keyOf) : List β := store.keys.filterMap store.get

/-- The listing has exactly the stored values. -/
theorem mem_values (store : Store keyOf) (value : β) :
    value ∈ store.values ↔ store.get (keyOf value) = some value := by
  constructor
  · intro listed
    obtain ⟨key, _, found⟩ := List.mem_filterMap.mp listed
    rw [store.keyed found]
    exact found
  · intro found
    exact List.mem_filterMap.mpr ⟨_, store.covered _ (by simp [found]), found⟩

variable [DecidableEq κ]

/-- Store a value under its key. -/
def insert (store : Store keyOf) (value : β) : Store keyOf where
  keys := if keyOf value ∈ store.keys then store.keys else store.keys ++ [keyOf value]
  get := Function.update store.get (keyOf value) (some value)
  covered := by
    intro other present
    by_cases same : other = keyOf value
    · subst same
      split <;> simp_all
    · rw [Function.update_of_ne same] at present
      have listed := store.covered other present
      split <;> simp [listed]
  keyed := by
    intro other held found
    by_cases same : other = keyOf value
    · subst same
      rw [Function.update_self] at found
      rw [Option.some.inj found]
    · rw [Function.update_of_ne same] at found
      exact store.keyed found

/-- Remove the value of a key. -/
def erase (store : Store keyOf) (key : κ) : Store keyOf where
  keys := store.keys
  get := Function.update store.get key none
  covered := by
    intro other present
    by_cases same : other = key
    · subst same
      simp at present
    · rw [Function.update_of_ne same] at present
      exact store.covered other present
  keyed := by
    intro other held found
    by_cases same : other = key
    · subst same
      simp at found
    · rw [Function.update_of_ne same] at found
      exact store.keyed found

omit [DecidableEq κ] in
/-- Keep the values that pass a test. -/
def filter (store : Store keyOf) (keep : β → Bool) : Store keyOf where
  keys := store.keys
  get key := (store.get key).filter keep
  covered := by
    intro key present
    refine store.covered key fun absent => present ?_
    rw [absent]
    rfl
  keyed := by
    intro key value found
    exact store.keyed (Option.filter_eq_some_iff.mp found).1

/-- A store with the given values, a later one of a key before an earlier one. -/
def ofList (values : List β) : Store keyOf := values.foldl insert empty

/-- Lookup after storing a value. -/
theorem get_insert (store : Store keyOf) (key : κ) (value : β) :
    (store.insert value).get key = if key = keyOf value then some value else store.get key :=
  Function.update_apply _ _ _ _

/-- A stored value is found under its key. -/
@[simp] theorem get_insert_self (store : Store keyOf) (value : β) :
    (store.insert value).get (keyOf value) = some value := Function.update_self _ _ _

/-- Storing a value does not touch other keys. -/
theorem get_insert_of_ne (store : Store keyOf) {key : κ} {value : β}
    (different : key ≠ keyOf value) : (store.insert value).get key = store.get key :=
  Function.update_of_ne different _ _

/-- Lookup after removing a value. -/
theorem get_erase (store : Store keyOf) (key other : κ) :
    (store.erase key).get other = if other = key then none else store.get other :=
  Function.update_apply _ _ _ _

/-- Every value of a store has a related one under its key in another store. -/
def Grows (related : β → β → Prop) (before after : Store keyOf) : Prop :=
  ∀ key value, before.get key = some value → ∃ now, after.get key = some now ∧ related value now

omit [DecidableEq κ] in
/-- A store grows into itself. -/
theorem Grows.refl {related : β → β → Prop} (reflexive : ∀ value, related value value)
    (store : Store keyOf) : Grows related store store :=
  fun _ value found => ⟨value, found, reflexive value⟩

omit [DecidableEq κ] in
/-- Growth in two steps is growth. -/
theorem Grows.trans {related : β → β → Prop}
    (transitive : ∀ {first second third}, related first second → related second third →
      related first third) {first second third : Store keyOf} (left : Grows related first second)
    (right : Grows related second third) : Grows related first third := by
  intro key value found
  obtain ⟨middle, held, before⟩ := left key value found
  obtain ⟨last, stored, after⟩ := right key middle held
  exact ⟨last, stored, transitive before after⟩

/-- A store grows when a value is stored that is related to the one it replaces. -/
theorem grows_insert {related : β → β → Prop} (reflexive : ∀ value, related value value)
    (store : Store keyOf) {value : β}
    (replaces : ∀ old, store.get (keyOf value) = some old → related old value) :
    Grows related store (store.insert value) := by
  intro key held found
  by_cases same : key = keyOf value
  · subst same
    exact ⟨value, store.get_insert_self value, replaces held found⟩
  · exact ⟨held, (store.get_insert_of_ne same).trans found, reflexive held⟩

/-- A store that lost no value, whose values are the same but under some keys, where they are related
to those they replace, and that got new values under some other keys only. -/
structure ChangesWithin (edited created : κ → Prop) (related : β → β → Prop)
    (before after : Store keyOf) : Prop where
  unedited : ∀ key value, ¬ edited key → before.get key = some value → after.get key = some value
  uncreated : ∀ key, ¬ created key → before.get key = none → after.get key = none
  grows : Grows related before after

omit [DecidableEq κ] in
/-- A store that is the same changed nowhere. -/
theorem ChangesWithin.refl {edited created : κ → Prop} {related : β → β → Prop}
    (reflexive : ∀ value, related value value) (store : Store keyOf) :
    ChangesWithin edited created related store store :=
  ⟨fun _ _ _ held => held, fun _ _ absent => absent, .refl reflexive store⟩

omit [DecidableEq κ] in
/-- Changes in two steps are changes under the same keys. -/
theorem ChangesWithin.trans {edited created : κ → Prop} {related : β → β → Prop}
    {first second third : Store keyOf} (left : ChangesWithin edited created related first second)
    (transitive : ∀ {first second third}, related first second → related second third →
      related first third)
    (right : ChangesWithin edited created related second third) :
    ChangesWithin edited created related first third where
  unedited key value outside held :=
    right.unedited key value outside (left.unedited key value outside held)
  uncreated key outside absent := right.uncreated key outside (left.uncreated key outside absent)
  grows := Grows.trans @transitive left.grows right.grows

omit [DecidableEq κ] in
/-- Changes under some keys are changes under more keys. -/
theorem ChangesWithin.mono {edited created wider further : κ → Prop} {related : β → β → Prop}
    {before after : Store keyOf} (changes : ChangesWithin edited created related before after)
    (edits : ∀ key, edited key → wider key) (creates : ∀ key, created key → further key) :
    ChangesWithin wider further related before after where
  unedited key value outside := changes.unedited key value fun inside => outside (edits key inside)
  uncreated key outside := changes.uncreated key fun inside => outside (creates key inside)
  grows := changes.grows

/-- Storing a value under a free key creates it. -/
theorem changesWithin_create {edited created : κ → Prop} {related : β → β → Prop}
    (reflexive : ∀ value, related value value) (store : Store keyOf) {value : β}
    (absent : store.get (keyOf value) = none) (here : created (keyOf value)) :
    ChangesWithin edited created related store (store.insert value) := by
  have other : ∀ {key held}, store.get key = some held → key ≠ keyOf value := by
    intro key held found same
    rw [same, absent] at found
    cases found
  refine ⟨fun key held _ found => ?_, fun key outside none => ?_,
    grows_insert reflexive store fun old found => absurd rfl (other found)⟩
  · exact (store.get_insert_of_ne (other found)).trans found
  · apply (store.get_insert_of_ne _).trans none
    intro same
    exact outside (same ▸ here)

/-- Storing a value in the place of another one edits it. -/
theorem changesWithin_replace {edited created : κ → Prop} {related : β → β → Prop}
    (reflexive : ∀ value, related value value) (store : Store keyOf) {value old : β}
    (held : store.get (keyOf value) = some old) (here : edited (keyOf value))
    (replaces : related old value) :
    ChangesWithin edited created related store (store.insert value) := by
  refine ⟨fun key kept outside found => ?_, fun key _ absent => ?_,
    grows_insert reflexive store fun other found => ?_⟩
  · apply (store.get_insert_of_ne _).trans found
    intro same
    exact outside (same ▸ here)
  · apply (store.get_insert_of_ne _).trans absent
    intro same
    rw [same, held] at absent
    cases absent
  · rw [held] at found
    cases found
    exact replaces

end Store

end Keyed
