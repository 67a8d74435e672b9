import Mathlib

/-!
# Canonical identifiers

The canonical text of a universally unique identifier: hexadecimal digits in groups of 8, 4, 4, 4
and 12, with a dash between groups. The dashes carry no information, since the groups are found
again by their lengths.
-/

namespace Uuid

/-- A lower-case hexadecimal digit. -/
def isHexDigit (digit : Char) : Bool :=
  ('0' ≤ digit && digit ≤ '9') || ('a' ≤ digit && digit ≤ 'f')

/-- The lengths of the groups. -/
def groupLengths : List Nat := [8, 4, 4, 4, 12]

/-- A text in the canonical form. -/
def Canonical (text : String) : Prop :=
  (text.toList.splitOn '-').map List.length = groupLengths ∧
    ((text.toList.splitOn '-').all fun group => group.all isHexDigit) = true

instance (text : String) : Decidable (Canonical text) := inferInstanceAs (Decidable (_ ∧ _))

/-- Without its separators a list is what stands between them. -/
theorem filter_ne_eq_flatten_splitOn {α : Type} [DecidableEq α] (separator : α) (text : List α) :
    text.filter (· ≠ separator) = (text.splitOn separator).flatten := by
  induction text with
  | nil => simp
  | cons first text ih =>
    rw [List.splitOn_cons_eq_if_modifyHead]
    by_cases same : first = separator
    · simpa [same] using ih
    · obtain ⟨head, tail, pieces⟩ := List.exists_cons_of_ne_nil
        (List.splitOn_ne_nil separator text)
      rw [pieces] at ih ⊢
      simpa [same] using ih

/-- Canonical texts that agree without their dashes are equal. -/
theorem Canonical.eq_of_digits {first second : String} (left : Canonical first)
    (right : Canonical second)
    (digits : first.toList.filter (· ≠ '-') = second.toList.filter (· ≠ '-')) :
    first = second := by
  rw [filter_ne_eq_flatten_splitOn, filter_ne_eq_flatten_splitOn] at digits
  have groups : first.toList.splitOn '-' = second.toList.splitOn '-' :=
    List.eq_iff_flatten_eq.mpr ⟨digits, left.1.trans right.1.symm⟩
  have text : first.toList = second.toList := by
    have joined := congrArg ['-'].intercalate groups
    rwa [List.intercalate_splitOn, List.intercalate_splitOn] at joined
  exact String.toList_inj.mp text

end Uuid
