import ListenerOperator.Base.History

/-!
# Optimistic concurrency

A store gives every value it writes a stamp from a clock that only moves forward. A reader may be
late and read any earlier version. The stamp of what it read tells it whether that is still
current: under one key, values with the same stamp are the same value, in all versions of the
history. A write that the store accepts for the stamp that was read is therefore computed from
what it replaces.
-/

namespace Versioned

variable {σ κ ν β : Type}

/-- How the values of a state are read, stamped and timed. -/
structure Stamping (σ ν β : Type) where
  /-- The value under a key. -/
  view : σ → ν → Option β
  /-- The stamp of a value. -/
  stamp : β → Nat
  /-- The last stamp that was given. -/
  clock : σ → Nat

namespace Stamping

variable {stamping : Stamping σ ν β}

/-- A state that follows another one: the clock does not go back, and a value that was not there
has a stamp that was not given yet. -/
structure Ticks (stamping : Stamping σ ν β) (before after : σ) : Prop where
  clock : stamping.clock before ≤ stamping.clock after
  fresh : ∀ key value, stamping.view after key = some value →
    stamping.view before key = some value ∨
      stamping.clock before < stamping.stamp value ∧ stamping.stamp value ≤ stamping.clock after

/-- The stamps of a history tell its values apart. -/
structure Stamped (stamping : Stamping σ ν β) (history : History σ κ) : Prop where
  /-- Every stamp was given. -/
  bounded : ∀ version key value, history.Has version → stamping.view version key = some value →
    stamping.stamp value ≤ stamping.clock history.current
  /-- Under one key a stamp is given once. -/
  unique : ∀ first second key left right, history.Has first → history.Has second →
    stamping.view first key = some left → stamping.view second key = some right →
      stamping.stamp left = stamping.stamp right → left = right

/-- A history of one version is stamped if its stamps were given. -/
theorem stamped_single {state : σ} (bounded : ∀ key value, stamping.view state key = some value →
      stamping.stamp value ≤ stamping.clock state) :
    stamping.Stamped ({ current := state } : History σ κ) := by
  have only : ∀ version, ({ current := state } : History σ κ).Has version → version = state := by
    rintro version (rfl | past)
    · rfl
    · cases past
  refine ⟨?_, ?_⟩
  · intro version key value had found
    obtain rfl := only version had
    exact bounded key value found
  · intro first second key left right firstHad secondHad leftFound rightFound _
    obtain rfl := only first firstHad
    obtain rfl := only second secondHad
    exact Option.some.inj (leftFound.symm.trans rightFound)

/-- A new version that follows the current one leaves the history stamped. -/
theorem Stamped.commit {history : History σ κ} (stamped : stamping.Stamped history) {next : σ}
    (ticks : stamping.Ticks history.current next) : stamping.Stamped (history.commit next) := by
  have earlier : ∀ version key value, history.Has version →
      stamping.view version key = some value → stamping.stamp value ≤ stamping.clock next :=
    fun version key value had found =>
      (stamped.bounded version key value had found).trans ticks.clock
  -- A value of the new version was in the current one, or no version has its stamp.
  have against : ∀ version key left right, history.Has version →
      stamping.view version key = some left → stamping.view next key = some right →
        stamping.stamp left = stamping.stamp right → left = right := by
    intro version key left right had leftFound rightFound same
    rcases ticks.fresh key right rightFound with kept | ⟨later, -⟩
    · exact stamped.unique version history.current key left right had history.has_current
        leftFound kept same
    · have given := stamped.bounded version key left had leftFound
      omega
  refine ⟨?_, ?_⟩
  · intro version key value had found
    rcases (history.has_commit next version).mp had with rfl | past
    · rcases ticks.fresh key value found with kept | ⟨-, given⟩
      · exact earlier history.current key value history.has_current kept
      · exact given
    · exact earlier version key value past found
  · intro first second key left right firstHad secondHad leftFound rightFound same
    rcases (history.has_commit next first).mp firstHad with rfl | firstPast
    · rcases (history.has_commit first second).mp secondHad with rfl | secondPast
      · exact Option.some.inj (leftFound.symm.trans rightFound)
      · exact (against second key right left secondPast rightFound leftFound same.symm).symm
    · rcases (history.has_commit next second).mp secondHad with rfl | secondPast
      · exact against first key left right firstPast leftFound rightFound same
      · exact stamped.unique first second key left right firstPast secondPast leftFound
          rightFound same

/-- A request is recorded with a version that follows the current one. -/
theorem Stamped.record {history : History σ κ} (stamped : stamping.Stamped history) {next : σ}
    (ticks : stamping.Ticks history.current next) (request : κ) :
    stamping.Stamped (history.record request next) := by
  obtain ⟨bounded, unique⟩ := stamped.commit ticks
  exact ⟨bounded, unique⟩

/-- What was read from any version is current, if the current value has its stamp. -/
theorem Stamped.current {history : History σ κ} (stamped : stamping.Stamped history) {version : σ}
    {key : ν} {read held : β} (had : history.Has version)
    (found : stamping.view version key = some read)
    (stored : stamping.view history.current key = some held)
    (same : stamping.stamp held = stamping.stamp read) : held = read :=
  stamped.unique history.current version key held read history.has_current had stored found same

end Stamping

end Versioned
