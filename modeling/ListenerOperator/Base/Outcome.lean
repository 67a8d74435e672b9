import Mathlib

/-!
# Outcomes

Sequences of computations that return a value or an error, and loops over a list of them.
-/

namespace Outcome

variable {ε α β : Type}

/-- A value is passed on. -/
@[simp] theorem ok_bind (value : α) (rest : α → Except ε β) :
    (Except.ok value >>= rest) = rest value := rfl

/-- An error ends the sequence. -/
@[simp] theorem error_bind (failure : ε) (rest : α → Except ε β) :
    (Except.error failure >>= rest) = .error failure := rfl

/-- Returning is a value. -/
@[simp] theorem pure_eq (value : α) : (pure value : Except ε α) = .ok value := rfl

/-- A sequence returns a value if both its parts do. -/
theorem bind_eq_ok {first : Except ε α} {rest : α → Except ε β} {result : β} :
    (first >>= rest) = .ok result ↔ ∃ value, first = .ok value ∧ rest value = .ok result := by
  cases first <;> simp

/-- A sequence fails in its first part, or in its second after a value of the first. -/
theorem bind_eq_error {first : Except ε α} {rest : α → Except ε β} {failure : ε} :
    (first >>= rest) = .error failure ↔
      first = .error failure ∨ ∃ value, first = .ok value ∧ rest value = .error failure := by
  cases first <;> simp

/-- A loop returns the list of the values of its items, in order. -/
theorem mapM_eq_ok {step : α → Except ε β} {items : List α} {values : List β} :
    items.mapM step = .ok values ↔ List.Forall₂ (fun item value => step item = .ok value)
      items values := by
  induction items generalizing values with
  | nil => cases values <;> simp
  | cons item items ih =>
    rw [List.mapM_cons, bind_eq_ok]
    constructor
    · rintro ⟨value, first, loop⟩
      obtain ⟨rest, others, same⟩ := bind_eq_ok.mp loop
      obtain rfl := Except.ok.inj same
      exact .cons first (ih.mp others)
    · intro matched
      cases matched with
      | cons first others => exact ⟨_, first, bind_eq_ok.mpr ⟨_, ih.mpr others, rfl⟩⟩

/-- Every item of a loop that ended has its value among the results. -/
theorem mapM_ok_value {step : α → Except ε β} {items : List α} {values : List β} {item : α}
    (ended : items.mapM step = .ok values) (listed : item ∈ items) :
    ∃ value ∈ values, step item = .ok value := by
  have matched := mapM_eq_ok.mp ended
  induction matched with
  | nil => cases listed
  | cons first others ih =>
    rcases List.mem_cons.mp listed with rfl | listed
    · exact ⟨_, List.mem_cons_self, first⟩
    · obtain ⟨value, included, found⟩ := ih (mapM_eq_ok.mpr others) listed
      exact ⟨value, List.mem_cons_of_mem _ included, found⟩

/-- Every result of a loop that ended is the value of an item. -/
theorem mapM_ok_item {step : α → Except ε β} {items : List α} {values : List β} {value : β}
    (ended : items.mapM step = .ok values) (included : value ∈ values) :
    ∃ item ∈ items, step item = .ok value := by
  have matched := mapM_eq_ok.mp ended
  induction matched with
  | nil => cases included
  | cons first others ih =>
    rcases List.mem_cons.mp included with rfl | included
    · exact ⟨_, List.mem_cons_self, first⟩
    · obtain ⟨item, listed, found⟩ := ih (mapM_eq_ok.mpr others) included
      exact ⟨item, List.mem_cons_of_mem _ listed, found⟩

/-- What the values of the items have in common with the items, the results have with the list. -/
theorem mapM_ok_map {γ : Type} {step : α → Except ε β} {items : List α} {values : List β}
    (ofValue : β → γ) (ofItem : α → γ) (ended : items.mapM step = .ok values)
    (agree : ∀ item value, step item = .ok value → ofValue value = ofItem item) :
    values.map ofValue = items.map ofItem := by
  have matched := mapM_eq_ok.mp ended
  induction matched with
  | nil => rfl
  | cons first others ih =>
    rw [List.map_cons, List.map_cons, agree _ _ first, ih (mapM_eq_ok.mpr others)]

/-- A loop that fails does so at an item. -/
theorem mapM_eq_error {step : α → Except ε β} {items : List α} {failure : ε}
    (failed : items.mapM step = .error failure) : ∃ item ∈ items, step item = .error failure := by
  induction items with
  | nil => cases failed
  | cons item items ih =>
    rw [List.mapM_cons] at failed
    rcases bind_eq_error.mp failed with first | ⟨value, _, loop⟩
    · exact ⟨item, List.mem_cons_self, first⟩
    · rcases bind_eq_error.mp loop with others | ⟨values, _, last⟩
      · obtain ⟨other, listed, found⟩ := ih others
        exact ⟨other, List.mem_cons_of_mem _ listed, found⟩
      · cases last

end Outcome
