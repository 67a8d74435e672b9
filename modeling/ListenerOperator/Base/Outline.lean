import ListenerOperator.Base.Concurrent

/-!
# Proof outlines and progress

A call that nothing can answer yet blocks its program, so what is known before a call matters as
much as what is known after it. `Program.Outlined` is `Program.Safe` with a precondition for each
call: in a pool of outlined programs the precondition of every waiting call holds in every state
of every interleaving (`Pool.Outlined.waiting`).

That a pool ends is stated with `Inevitable`: whatever happens next, a goal is reached. It follows
from two facts about each state, that something can happen, and that everything that happens makes
a bound smaller or belongs to something that comes to rest (`Inevitable.of_bound`). Programs that
make a bounded number of calls have such a bound (`Program.Within`, `Pool.Within.thread`).
-/

namespace Interaction

namespace Program

variable {Call : Type} {Reply : Call → Type} {ε ε' α β σ : Type}

/-- Make the calls of a program over a smaller interface as calls of a larger one. -/
def embed {Small : Type} {Answer : Small → Type} (into : Small → Call)
    (back : ∀ request, Reply (into request) → Answer request) :
    Program Small Answer ε α → Program Call Reply ε α
  | done outcome => done outcome
  | call request next => call (into request) fun reply => (next (back request reply)).embed into back

/-- The value of a program that has returned one. -/
def value? : Program Call Reply ε α → Option α
  | done outcome => outcome.toOption
  | call _ _ => none

/-- A program that shows a value has returned it. -/
theorem value?_eq_some {program : Program Call Reply ε α} {value : α}
    (shows : program.value? = some value) : program = done (.ok value) := by
  cases program with
  | call request next => cases shows
  | done outcome =>
    cases outcome with
    | error failure => cases shows
    | ok returned =>
      have same : returned = value := Option.some.inj shows
      rw [same]

variable {answers : Answers Call Reply σ} {rules : Rules σ} {pre : Call → σ → Prop}

/-- From this state on, the program makes each call in a state that meets the precondition of the
call, keeps its rules and ends in the postcondition, whatever the others do between its calls. -/
def Outlined (answers : Answers Call Reply σ) (rules : Rules σ) (pre : Call → σ → Prop)
    (post : Except ε α → σ → Prop) : Program Call Reply ε α → σ → Prop
  | done outcome, state =>
    ∀ later, rules.rely state later → rules.invariant later → post outcome later
  | call request next, state =>
    ∀ later, rules.rely state later → rules.invariant later → pre request later ∧
      ∀ reply after, answers request later reply after →
        rules.invariant after ∧ rules.guarantee later after ∧
          (next reply).Outlined answers rules pre post after

/-- Interference leaves a program outlined. -/
theorem Outlined.stable {post : Except ε α → σ → Prop} {program : Program Call Reply ε α}
    {state later : σ} (outlined : program.Outlined answers rules pre post state)
    (moves : rules.rely state later) : program.Outlined answers rules pre post later := by
  cases program with
  | done outcome => exact fun last onward => outlined last (rules.rely_trans moves onward)
  | call request next => exact fun last onward => outlined last (rules.rely_trans moves onward)

/-- A program is outlined if it is so in every state the others may leave. -/
theorem Outlined.of_later {post : Except ε α → σ → Prop} {program : Program Call Reply ε α}
    {state : σ} (outlined : ∀ later, rules.rely state later → rules.invariant later →
      program.Outlined answers rules pre post later) :
    program.Outlined answers rules pre post state := by
  cases program with
  | done outcome =>
    intro later moves holds
    exact outlined later moves holds later (rules.rely_refl later) holds
  | call request next =>
    intro later moves holds
    exact outlined later moves holds later (rules.rely_refl later) holds

/-- A weaker postcondition is met as well. -/
theorem Outlined.mono {post weaker : Except ε α → σ → Prop}
    (weaken : ∀ outcome state, rules.invariant state → post outcome state → weaker outcome state)
    {program : Program Call Reply ε α} {state : σ}
    (outlined : program.Outlined answers rules pre post state) :
    program.Outlined answers rules pre weaker state := by
  induction program generalizing state with
  | done outcome => exact fun later moves holds => weaken _ _ holds (outlined later moves holds)
  | call request next ih =>
    intro later moves holds
    obtain ⟨met, onward⟩ := outlined later moves holds
    refine ⟨met, fun reply after answered => ?_⟩
    obtain ⟨kept, allowed, rest⟩ := onward reply after answered
    exact ⟨kept, allowed, ih reply rest⟩

/-- The outline of a sequence: the first part ends in a state from which the second part is
outlined, or in an error that meets the postcondition. -/
theorem Outlined.bind {post : Except ε β → σ → Prop} {program : Program Call Reply ε α}
    {rest : α → Program Call Reply ε β} {state : σ}
    (outlined : program.Outlined answers rules pre (fun outcome after =>
      match outcome with
      | .ok value => (rest value).Outlined answers rules pre post after
      | .error failure => post (.error failure) after) state) :
    (program >>= rest).Outlined answers rules pre post state := by
  induction program generalizing state with
  | done outcome =>
    cases outcome with
    | ok value => exact Outlined.of_later outlined
    | error failure => exact outlined
  | call request next ih =>
    intro later moves holds
    obtain ⟨met, onward⟩ := outlined later moves holds
    refine ⟨met, fun reply after answered => ?_⟩
    obtain ⟨kept, allowed, continues⟩ := onward reply after answered
    exact ⟨kept, allowed, ih reply continues⟩

/-- Rewriting the error of a program rewrites the error in its postcondition. -/
theorem Outlined.mapError {rewrite : ε → ε'} {post : Except ε' α → σ → Prop}
    {program : Program Call Reply ε α} {state : σ}
    (outlined : program.Outlined answers rules pre
      (fun outcome => post (outcome.mapError rewrite)) state) :
    (program.mapError rewrite).Outlined answers rules pre post state := by
  induction program generalizing state with
  | done outcome => exact outlined
  | call request next ih =>
    intro later moves holds
    obtain ⟨met, onward⟩ := outlined later moves holds
    refine ⟨met, fun reply after answered => ?_⟩
    obtain ⟨kept, allowed, continues⟩ := onward reply after answered
    exact ⟨kept, allowed, ih reply continues⟩

/-- The program makes at most this many calls. -/
def Within : Program Call Reply ε α → Nat → Prop
  | done _, _ => True
  | call _ next, bound => ∃ rest, bound = rest + 1 ∧ ∀ reply, (next reply).Within rest

/-- A call is one more than what follows it. -/
theorem Within.call {request : Call} {next : Reply request → Program Call Reply ε α} {bound : Nat}
    (within : ∀ reply, (next reply).Within bound) : (call request next).Within (bound + 1) :=
  ⟨bound, rfl, within⟩

/-- A larger bound is a bound too. -/
theorem Within.mono {program : Program Call Reply ε α} {bound larger : Nat}
    (within : program.Within bound) (le : bound ≤ larger) : program.Within larger := by
  induction program generalizing bound larger with
  | done outcome => trivial
  | call request next ih =>
    obtain ⟨rest, rfl, within⟩ := within
    exact ⟨larger - 1, by omega, fun reply => ih reply (within reply) (by omega)⟩

/-- The bounds of the parts of a sequence add up. -/
theorem Within.bind {program : Program Call Reply ε α} {rest : α → Program Call Reply ε β}
    {first second : Nat} (within : program.Within first)
    (onward : ∀ value, (rest value).Within second) :
    (program >>= rest).Within (first + second) := by
  induction program generalizing first with
  | done outcome =>
    cases outcome with
    | ok value => exact (onward value).mono (Nat.le_add_left _ _)
    | error failure => trivial
  | call request next ih =>
    obtain ⟨remaining, rfl, within⟩ := within
    exact ⟨remaining + second, by omega, fun reply => ih reply (within reply)⟩

/-- Rewriting the error of a program leaves its calls. -/
theorem Within.mapError {rewrite : ε → ε'} {program : Program Call Reply ε α} {bound : Nat}
    (within : program.Within bound) : (program.mapError rewrite).Within bound := by
  induction program generalizing bound with
  | done outcome => trivial
  | call request next ih =>
    obtain ⟨rest, rfl, within⟩ := within
    exact ⟨rest, rfl, fun reply => ih reply (within reply)⟩

end Program

namespace Pool

variable {ι Call : Type} {Reply : Call → Type} {ε α σ : Type}
variable {answers : Program.Answers Call Reply σ} {environment : σ → σ → Prop}
variable {rules : ι → Rules σ} {pre : ι → Call → σ → Prop} {post : ι → Except ε α → σ → Prop}

/-- The invariant holds and every program is outlined. -/
structure Outlined (answers : Program.Answers Call Reply σ) (rules : ι → Rules σ)
    (pre : ι → Call → σ → Prop) (post : ι → Except ε α → σ → Prop)
    (pool : Pool ι Call Reply ε α σ) : Prop where
  /-- The common invariant. -/
  invariant : ∀ index, (rules index).invariant pool.state
  /-- Each remaining program is outlined. -/
  outlined : ∀ index, (pool.thread index).Outlined answers (rules index) (pre index) (post index)
    pool.state

/-- A step of a pool of outlined programs leaves one. -/
theorem Outlined.step (compatible : Compatible rules environment)
    {pool after : Pool ι Call Reply ε α σ} (holds : Outlined answers rules pre post pool)
    (step : Step answers environment pool after) : Outlined answers rules pre post after := by
  classical
  cases step with
  | thread index request next reply state waiting answered =>
    have outlined := holds.outlined index
    rw [waiting] at outlined
    obtain ⟨kept, allowed, rest⟩ := (outlined pool.state ((rules index).rely_refl _)
      (holds.invariant index)).2 reply state answered
    refine ⟨fun other => compatible.shared index other state kept, fun other => ?_⟩
    by_cases same : other = index
    · subst same
      simpa only [Function.update_self] using rest
    · simp only [Function.update_of_ne same]
      exact (holds.outlined other).stable (compatible.tolerated index other (Ne.symm same) _ _
        (holds.invariant index) kept allowed)
  | environment state moves =>
    exact ⟨fun index => compatible.environment_invariant index _ _ (holds.invariant index) moves,
      fun index => (holds.outlined index).stable
        (compatible.environment_tolerated index _ _ (holds.invariant index) moves)⟩

/-- Every pool reached from a pool of outlined programs is one. -/
theorem Outlined.reaches (compatible : Compatible rules environment)
    {start pool : Pool ι Call Reply ε α σ} (holds : Outlined answers rules pre post start)
    (reached : Reaches answers environment start pool) : Outlined answers rules pre post pool := by
  induction reached with
  | refl => exact holds
  | tail _ step ih => exact ih.step compatible step

/-- The precondition of a waiting call holds. -/
theorem Outlined.waiting {pool : Pool ι Call Reply ε α σ}
    (holds : Outlined answers rules pre post pool) {index : ι} {request : Call}
    {next : Reply request → Program Call Reply ε α}
    (waits : pool.thread index = .call request next) : pre index request pool.state := by
  have outlined := holds.outlined index
  rw [waits] at outlined
  exact (outlined pool.state ((rules index).rely_refl _) (holds.invariant index)).1

/-- The postcondition of an ended program holds. -/
theorem Outlined.ended {pool : Pool ι Call Reply ε α σ}
    (holds : Outlined answers rules pre post pool) {index : ι} {outcome : Except ε α}
    (ended : pool.thread index = .done outcome) : post index outcome pool.state := by
  have outlined := holds.outlined index
  rw [ended] at outlined
  exact outlined pool.state ((rules index).rely_refl _) (holds.invariant index)

/-- Let the programs of a list make one call after the other, if each call can be answered. -/
def follow [DecidableEq ι] (answer : (request : Call) → σ → Option (Reply request × σ)) :
    List ι → Pool ι Call Reply ε α σ → Option (Pool ι Call Reply ε α σ)
  | [], pool => some pool
  | index :: schedule, pool =>
    match pool.thread index with
    | .done _ => none
    | .call request next =>
      match answer request pool.state with
      | none => none
      | some (reply, after) =>
        follow answer schedule ⟨after, Function.update pool.thread index (next reply)⟩

/-- A schedule that is followed reaches its end. -/
theorem reaches_follow [DecidableEq ι] (environment : σ → σ → Prop)
    {answer : (request : Call) → σ → Option (Reply request × σ)}
    (valid : ∀ request state reply after, answer request state = some (reply, after) →
      answers request state reply after)
    {schedule : List ι} {pool last : Pool ι Call Reply ε α σ}
    (followed : follow answer schedule pool = some last) : Reaches answers environment pool last := by
  induction schedule generalizing pool with
  | nil =>
    cases followed
    exact .refl
  | cons index schedule ih =>
    unfold follow at followed
    split at followed
    · cases followed
    · rename_i request next waits
      split at followed
      · cases followed
      · rename_i reply after answered
        have step : Step answers environment pool _ :=
          .thread pool index request next reply after waits
            (valid request pool.state reply after answered)
        refine .head ?_ (ih followed)
        convert step

/-- The programs of a pool make at most this many calls together. -/
def Within [Fintype ι] (pool : Pool ι Call Reply ε α σ) (bound : Nat) : Prop :=
  ∃ calls : ι → Nat,
    (∀ index, (pool.thread index).Within (calls index)) ∧ ∑ index, calls index = bound

/-- A call makes the bound smaller. -/
theorem Within.thread [Fintype ι] [DecidableEq ι] {pool : Pool ι Call Reply ε α σ} {bound : Nat}
    (within : pool.Within bound) {index : ι} {request : Call}
    {next : Reply request → Program Call Reply ε α}
    (waits : pool.thread index = .call request next) (reply : Reply request) (after : σ) :
    ∃ smaller, smaller < bound ∧
      (⟨after, Function.update pool.thread index (next reply)⟩ :
        Pool ι Call Reply ε α σ).Within smaller := by
  obtain ⟨calls, each, rfl⟩ := within
  have own := each index
  rw [waits] at own
  obtain ⟨rest, bounded, onward⟩ := own
  refine ⟨∑ other, Function.update calls index rest other, ?_, Function.update calls index rest,
    fun other => ?_, rfl⟩
  · refine Finset.sum_lt_sum (fun other _ => ?_) ⟨index, Finset.mem_univ _, ?_⟩
    · by_cases same : other = index
      · subst same
        rw [Function.update_self]
        omega
      · rw [Function.update_of_ne same]
    · rw [Function.update_self]
      omega
  · by_cases same : other = index
    · subst same
      simpa only [Function.update_self] using onward reply
    · simp only [Function.update_of_ne same]
      exact each other

/-- A pool keeps its bound. -/
theorem Within.reaches [Fintype ι] {start pool : Pool ι Call Reply ε α σ} {bound : Nat}
    (within : start.Within bound) (reached : Reaches answers environment start pool) :
    ∃ smaller, smaller ≤ bound ∧ pool.Within smaller := by
  classical
  induction reached with
  | refl => exact ⟨bound, le_refl _, within⟩
  | tail _ step ih =>
    obtain ⟨smaller, below, within⟩ := ih
    cases step with
    | thread index request next reply after waits answered =>
      obtain ⟨less, under, onward⟩ := within.thread waits reply after
      refine ⟨less, by omega, ?_⟩
      convert onward
    | environment after moves => exact ⟨smaller, below, within⟩

end Pool

/-- Whatever happens, the goal is reached. -/
inductive Inevitable {σ : Type} (step : σ → σ → Prop) (goal : σ → Prop) : σ → Prop where
  /-- The goal is reached. -/
  | here {state : σ} (reached : goal state) : Inevitable step goal state
  /-- Something can happen, and whatever it is the goal stays inevitable. -/
  | there {state : σ} (possible : ∃ next, step state next)
      (onward : ∀ next, step state next → Inevitable step goal next) : Inevitable step goal state

/-- A goal is inevitable if in every state before it something can happen, and everything that
happens makes a bound smaller, or is a step of something that comes to rest. -/
theorem Inevitable.of_bound {σ : Type} {step : σ → σ → Prop} {goal : σ → Prop}
    {bounded : Nat → σ → Prop} {inner : σ → σ → Prop}
    (progress : ∀ bound state, bounded bound state → goal state ∨ ∃ next, step state next)
    (smaller : ∀ bound state next, bounded bound state → step state next →
      (∃ less, less < bound ∧ bounded less next) ∨ inner state next ∧ bounded bound next)
    (rests : ∀ bound state, bounded bound state →
      Acc (fun after before => inner before after) state)
    (bound : Nat) {state : σ} (holds : bounded bound state) : Inevitable step goal state := by
  induction bound using Nat.strong_induction_on generalizing state with
  | _ bound ih =>
    -- between two steps that make the bound smaller only what comes to rest happens
    induction rests bound state holds with
    | intro state _ onward =>
      rcases progress bound state holds with reached | possible
      · exact .here reached
      · refine .there possible fun next moves => ?_
        rcases smaller bound state next holds moves with ⟨less, below, kept⟩ | ⟨resting, kept⟩
        · exact ih less below kept
        · exact onward next resting kept

end Interaction
