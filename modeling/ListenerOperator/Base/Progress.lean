import Mathlib

/-!
# Progress through stages

Events of several kinds happen in some order, and something is to succeed. A plan says what is left
to happen first, as a list of kinds: each event keeps what the plan says, and one of the first kind
that is left takes it off the list. Whatever else happens, if events of the kinds of the plan happen
in their order and one more that would succeed then, something succeeds.
-/

namespace Progress

variable {Event Kind State : Type}

/-- The state after some events. -/
def afterAll (after : Event → State → State) : List Event → State → State
  | [], state => state
  | event :: events, state => afterAll after events (after event state)

/-- What is left to happen before an event of the last kind succeeds. -/
structure Plan (after : Event → State → State) (succeeds : Event → State → Prop)
    (allowed : Event → Prop) (kind : Event → Kind) (last : Kind) where
  /-- Events of these kinds are left to happen in this state. -/
  left : List Kind → State → Prop
  /-- No event that does not succeed takes anything back. -/
  keeps : ∀ remaining event state, allowed event → left remaining state → ¬ succeeds event state →
    left remaining (after event state)
  /-- The first kind that is left is not left after an event of it happened. -/
  advances : ∀ remaining event state, allowed event → left (kind event :: remaining) state →
    ¬ succeeds event state → left remaining (after event state)
  /-- When nothing is left, an event of the last kind succeeds. -/
  finishes : ∀ event state, allowed event → kind event = last → left [] state → succeeds event state

/-- If events of the kinds that are left happen in their order, whatever else happens between them,
and then one of the last kind, then some event has succeeded, where the plan still said what was
left. -/
theorem Plan.reaches {after : Event → State → State} {succeeds : Event → State → Prop}
    {allowed : Event → Prop} {kind : Event → Kind} {last : Kind}
    (plan : Plan after succeeds allowed kind last) {final : Event} (permitted : allowed final)
    (ends : kind final = last) {remaining : List Kind} {events : List Event} {state : State}
    (holds : plan.left remaining state) (all : ∀ event ∈ events, allowed event)
    (order : remaining.Sublist (events.map kind)) :
    ∃ earlier event rest others, events ++ [final] = earlier ++ event :: rest ∧
      plan.left others (afterAll after earlier state) ∧
        succeeds event (afterAll after earlier state) := by
  induction events generalizing remaining state with
  | nil =>
    rw [List.sublist_nil.mp order] at holds
    exact ⟨[], final, [], [], rfl, holds, plan.finishes final state permitted ends holds⟩
  | cons event events ih =>
    have here := all event List.mem_cons_self
    by_cases now : succeeds event state
    · exact ⟨[], event, events ++ [final], remaining, rfl, holds, now⟩
    · have onward : ∃ others, plan.left others (after event state) ∧
          others.Sublist (events.map kind) := by
        rw [List.map_cons] at order
        cases order with
        | cons _ rest => exact ⟨remaining, plan.keeps _ _ _ here holds now, rest⟩
        | cons_cons _ rest => exact ⟨_, plan.advances _ _ _ here holds now, rest⟩
      obtain ⟨others, still, rest⟩ := onward
      obtain ⟨earlier, next, later, last, split, reached⟩ :=
        ih still (fun other listed => all other (List.mem_cons_of_mem _ listed)) rest
      refine ⟨event :: earlier, next, later, last, ?_, reached⟩
      rw [List.cons_append, split, List.cons_append]

end Progress
