import Mathlib

/-!
# Versioned states

A state together with all its earlier versions and the requests that were committed, the last
first. A reader that may be late sees any version. A relation that is reflexive and transitive,
and that every commit respects, holds from every version to the current state.
-/

namespace Versioned

/-- A state, its earlier versions and the committed requests. -/
structure History (σ κ : Type) where
  current : σ
  past : List σ := []
  log : List κ := []

namespace History

variable {σ κ : Type}

/-- The state is or was a version of the history. -/
def Has (history : History σ κ) (version : σ) : Prop :=
  version = history.current ∨ version ∈ history.past

/-- The history with a new state that no request of the log explains. -/
def commit (history : History σ κ) (next : σ) : History σ κ :=
  { history with current := next, past := history.current :: history.past }

/-- The history with the new state that a request leaves. -/
def record (history : History σ κ) (request : κ) (next : σ) : History σ κ :=
  { history.commit next with log := request :: history.log }

/-- The current state is a version. -/
theorem has_current (history : History σ κ) : history.Has history.current := Or.inl rfl

/-- A commit adds one version. -/
@[simp] theorem has_commit (history : History σ κ) (next version : σ) :
    (history.commit next).Has version ↔ version = next ∨ history.Has version := by
  simp [Has, commit]

/-- A recorded request adds one version. -/
@[simp] theorem has_record (history : History σ κ) (request : κ) (next version : σ) :
    (history.record request next).Has version ↔ version = next ∨ history.Has version := by
  simp [Has, record, commit]

/-- Nothing of a history is lost in another one. -/
structure Extends (before after : History σ κ) : Prop where
  versions : ∀ version, before.Has version → after.Has version
  log : ∀ request, request ∈ before.log → request ∈ after.log

/-- A history loses nothing of itself. -/
theorem Extends.refl (history : History σ κ) : history.Extends history :=
  ⟨fun _ had => had, fun _ logged => logged⟩

/-- Two extensions are one. -/
theorem Extends.trans {first second third : History σ κ} (left : first.Extends second)
    (right : second.Extends third) : first.Extends third :=
  ⟨fun version had => right.versions version (left.versions version had),
    fun request logged => right.log request (left.log request logged)⟩

/-- A commit loses nothing. -/
theorem extends_commit (history : History σ κ) (next : σ) :
    history.Extends (history.commit next) :=
  ⟨fun _ had => (history.has_commit next _).mpr (Or.inr had), fun _ logged => logged⟩

/-- Recording a request loses nothing. -/
theorem extends_record (history : History σ κ) (request : κ) (next : σ) :
    history.Extends (history.record request next) :=
  ⟨fun _ had => (history.has_record request next _).mpr (Or.inr had),
    fun _ logged => List.mem_cons_of_mem _ logged⟩

/-- Every version is related to the current state. -/
def Along (related : σ → σ → Prop) (history : History σ κ) : Prop :=
  ∀ version, history.Has version → related version history.current

/-- A commit that respects a relation keeps all versions related to the current state. -/
theorem Along.commit {related : σ → σ → Prop} {history : History σ κ}
    (along : history.Along related) (refl : ∀ state, related state state)
    (trans : ∀ {first second third}, related first second → related second third →
      related first third) {next : σ} (respects : related history.current next) :
    (history.commit next).Along related := by
  intro version had
  rcases (history.has_commit next version).mp had with rfl | earlier
  · exact refl version
  · exact trans (along version earlier) respects

end History

end Versioned
