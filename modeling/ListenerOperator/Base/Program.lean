import Mathlib

/-!
# Programs over a call interface

A program is finished, with a value or an error, or waits for the reply of one call. The
interface fixes the calls and the type of each reply and gives them no meaning. One program
text therefore has several executions: against a server that answers as a function of its
state (`Program.run`), against any relation between states and replies (`Program.Exec`), cut
off after any call (`Program.Interrupted`), or interleaved with others (`Base.Concurrent`).
-/

namespace Interaction

/-- A program over the calls `Call`, each answered by a value of its own reply type. -/
inductive Program (Call : Type) (Reply : Call → Type) (ε α : Type) : Type where
  /-- The program has ended. -/
  | done (outcome : Except ε α)
  /-- The program waits for the reply of a call and continues with it. -/
  | call (request : Call) (next : Reply request → Program Call Reply ε α)

namespace Program

variable {Call : Type} {Reply : Call → Type} {ε ε' α β γ σ : Type}

/-- Continue a finished program with its value; an error ends the whole. -/
def bind : Program Call Reply ε α → (α → Program Call Reply ε β) → Program Call Reply ε β
  | done (.ok value), rest => rest value
  | done (.error failure), _ => done (.error failure)
  | call request next, rest => call request fun reply => (next reply).bind rest

instance : Monad (Program Call Reply ε) where
  pure value := done (.ok value)
  bind := bind

/-- End with an error. -/
def fail (failure : ε) : Program Call Reply ε α := done (.error failure)

/-- Make one call and return its reply. -/
def perform (request : Call) : Program Call Reply ε (Reply request) :=
  call request fun reply => done (.ok reply)

/-- End with the given value or error. -/
def lift (outcome : Except ε α) : Program Call Reply ε α := done outcome

/-- Return the outcome of a program as a value, so that its error can be inspected. -/
def attempt : Program Call Reply ε α → Program Call Reply ε (Except ε α)
  | done outcome => done (.ok outcome)
  | call request next => call request fun reply => (next reply).attempt

/-- Rewrite the error of a program. -/
def mapError (rewrite : ε → ε') : Program Call Reply ε α → Program Call Reply ε' α
  | done outcome => done (outcome.mapError rewrite)
  | call request next => call request fun reply => (next reply).mapError rewrite

/-- Returning a value is a finished program. -/
@[simp] theorem pure_eq (value : α) :
    (pure value : Program Call Reply ε α) = done (.ok value) := rfl

/-- Failing is a finished program. -/
@[simp] theorem fail_eq (failure : ε) :
    (fail failure : Program Call Reply ε α) = done (.error failure) := rfl

/-- Lifting an outcome is a finished program. -/
@[simp] theorem lift_eq (outcome : Except ε α) :
    (lift outcome : Program Call Reply ε α) = done outcome := rfl

/-- A returned value is passed on. -/
@[simp] theorem done_ok_bind (value : α) (rest : α → Program Call Reply ε β) :
    (done (.ok value) >>= rest) = rest value := rfl

/-- An error ends the whole program. -/
@[simp] theorem done_error_bind (failure : ε) (rest : α → Program Call Reply ε β) :
    (done (.error failure) >>= rest) = done (.error failure) := rfl

/-- A call is made before what follows the program. -/
@[simp] theorem call_bind (request : Call) (next : Reply request → Program Call Reply ε α)
    (rest : α → Program Call Reply ε β) :
    (call request next >>= rest) = call request fun reply => next reply >>= rest := rfl

/-- Sequencing is associative. -/
theorem bind_assoc' (program : Program Call Reply ε α) (first : α → Program Call Reply ε β)
    (second : β → Program Call Reply ε γ) :
    (program >>= first >>= second) = (program >>= fun value => first value >>= second) := by
  induction program with
  | done outcome => cases outcome <;> rfl
  | call request next ih =>
    simp only [call_bind]
    congr 1
    funext reply
    exact ih reply

/-- Returning the value of a program unchanged is the program. -/
theorem bind_pure' (program : Program Call Reply ε α) : (program >>= pure) = program := by
  induction program with
  | done outcome => cases outcome <;> rfl
  | call request next ih =>
    simp only [call_bind]
    congr 1
    funext reply
    exact ih reply

instance : LawfulMonad (Program Call Reply ε) := LawfulMonad.mk' _
  (fun program => bind_pure' program) (fun _ _ => rfl) bind_assoc'

/-- Run a program against a server that answers each call as a function of its state. -/
def run (serve : (request : Call) → σ → Reply request × σ) :
    Program Call Reply ε α → σ → Except ε α × σ
  | done outcome, state => (outcome, state)
  | call request next, state =>
    (next (serve request state).1).run serve (serve request state).2

/-- What remains of a program after a number of calls, and the state they leave. -/
def advance (serve : (request : Call) → σ → Reply request × σ) :
    Nat → Program Call Reply ε α → σ → Program Call Reply ε α × σ
  | 0, program, state => (program, state)
  | _ + 1, done outcome, state => (done outcome, state)
  | calls + 1, call request next, state =>
    (next (serve request state).1).advance serve calls (serve request state).2

/-- The calls a run makes, in order. -/
def calls (serve : (request : Call) → σ → Reply request × σ) :
    Program Call Reply ε α → σ → List Call
  | done _, _ => []
  | call request next, state =>
    request :: (next (serve request state).1).calls serve (serve request state).2

section Run

variable (serve : (request : Call) → σ → Reply request × σ)

/-- A finished program runs to its outcome. -/
@[simp] theorem run_done (outcome : Except ε α) (state : σ) :
    (done outcome : Program Call Reply ε α).run serve state = (outcome, state) := rfl

/-- A waiting program continues with the reply of the server. -/
@[simp] theorem run_call (request : Call) (next : Reply request → Program Call Reply ε α)
    (state : σ) : (call request next).run serve state =
      (next (serve request state).1).run serve (serve request state).2 := rfl

/-- A finished program makes no call. -/
@[simp] theorem calls_done (outcome : Except ε α) (state : σ) :
    (done outcome : Program Call Reply ε α).calls serve state = [] := rfl

/-- A waiting program makes its call first. -/
@[simp] theorem calls_call (request : Call) (next : Reply request → Program Call Reply ε α)
    (state : σ) : (call request next).calls serve state =
      request :: (next (serve request state).1).calls serve (serve request state).2 := rfl

/-- A sequence runs its first part and, if that returns a value, its second. -/
theorem run_bind (program : Program Call Reply ε α) (rest : α → Program Call Reply ε β)
    (state : σ) : (program >>= rest).run serve state =
      match program.run serve state with
      | (.ok value, after) => (rest value).run serve after
      | (.error failure, after) => (.error failure, after) := by
  induction program generalizing state with
  | done outcome => cases outcome <;> rfl
  | call request next ih => exact ih _ _

/-- If the first part returns a value, the sequence runs as the second part. -/
theorem run_bind_ok {program : Program Call Reply ε α} {rest : α → Program Call Reply ε β}
    {state after : σ} {value : α} (first : program.run serve state = (.ok value, after)) :
    (program >>= rest).run serve state = (rest value).run serve after := by
  rw [run_bind, first]

/-- If the first part fails, so does the sequence, in the state the first part left. -/
theorem run_bind_error {program : Program Call Reply ε α} {rest : α → Program Call Reply ε β}
    {state after : σ} {failure : ε} (first : program.run serve state = (.error failure, after)) :
    (program >>= rest).run serve state = (.error failure, after) := by
  rw [run_bind, first]

/-- A sequence returns a value if its parts do. -/
theorem run_bind_eq_ok {program : Program Call Reply ε α} {rest : α → Program Call Reply ε β}
    {state after : σ} {value : β} :
    (program >>= rest).run serve state = (.ok value, after) ↔ ∃ first middle,
      program.run serve state = (.ok first, middle) ∧
        (rest first).run serve middle = (.ok value, after) := by
  rw [run_bind]
  rcases program.run serve state with ⟨outcome, middle⟩
  cases outcome with
  | error failure => simp
  | ok first => simp

/-- A sequence fails if its first part does, or its second after a value of the first. -/
theorem run_bind_eq_error {program : Program Call Reply ε α} {rest : α → Program Call Reply ε β}
    {state : σ} {failure : ε} :
    ((program >>= rest).run serve state).1 = .error failure ↔
      (program.run serve state).1 = .error failure ∨ ∃ first middle,
        program.run serve state = (.ok first, middle) ∧
          ((rest first).run serve middle).1 = .error failure := by
  rw [run_bind]
  rcases program.run serve state with ⟨outcome, middle⟩
  cases outcome with
  | error other => simp
  | ok first => simp

/-- The sequence of an outcome is the sequence of programs that end with it. -/
theorem lift_bind (outcome : Except ε α) (rest : α → Except ε β) :
    (lift (outcome >>= rest) : Program Call Reply ε β) =
      lift outcome >>= fun value => lift (rest value) := by
  cases outcome <;> rfl

/-- A first part that leaves the state can be replaced by its outcome. -/
theorem run_bind_read {program : Program Call Reply ε α} {rest next : α → Program Call Reply ε β}
    {state : σ} {outcome : Except ε α} (read : program.run serve state = (outcome, state))
    (same : ∀ value, outcome = .ok value →
      (rest value).run serve state = (next value).run serve state) :
    (program >>= rest).run serve state = (lift outcome >>= next).run serve state := by
  rw [run_bind, read]
  cases outcome with
  | error failure => rfl
  | ok value => exact same value rfl

/-- A sequence of parts that leave the state is the sequence of their outcomes. -/
theorem run_bind_reads {program : Program Call Reply ε α} {rest : α → Program Call Reply ε β}
    {state : σ} {outcome : Except ε α} {next : α → Except ε β}
    (first : program.run serve state = (outcome, state))
    (second : ∀ value, (rest value).run serve state = (next value, state)) :
    (program >>= rest).run serve state = (outcome >>= next, state) := by
  rw [run_bind, first]
  cases outcome with
  | error failure => rfl
  | ok value => exact second value

/-- A sequence makes the calls of its first part and then those of its second. -/
theorem calls_bind_ok {program : Program Call Reply ε α} {rest : α → Program Call Reply ε β}
    {state after : σ} {value : α} (first : program.run serve state = (.ok value, after)) :
    (program >>= rest).calls serve state =
      program.calls serve state ++ (rest value).calls serve after := by
  induction program generalizing state with
  | done outcome =>
    simp only [run_done, Prod.mk.injEq] at first
    obtain ⟨rfl, rfl⟩ := first
    rfl
  | call request next ih =>
    simp only [call_bind, calls_call, List.cons_append, List.cons.injEq, true_and]
    exact ih _ first

/-- A call of a sequence is made by its first part, or by its second after a value of the
first. -/
theorem mem_calls_bind {program : Program Call Reply ε α} {rest : α → Program Call Reply ε β}
    {state : σ} {request : Call} (made : request ∈ (program >>= rest).calls serve state) :
    request ∈ program.calls serve state ∨ ∃ value after,
      program.run serve state = (.ok value, after) ∧ request ∈ (rest value).calls serve after := by
  induction program generalizing state with
  | done outcome =>
    cases outcome with
    | ok value => exact Or.inr ⟨value, state, rfl, made⟩
    | error failure => cases made
  | call first next ih =>
    rcases List.mem_cons.mp made with rfl | later
    · exact Or.inl List.mem_cons_self
    · rcases ih _ later with among | continued
      · exact Or.inl (List.mem_cons_of_mem _ among)
      · exact Or.inr continued

/-- Running a reified program returns its outcome as a value. -/
theorem run_attempt (program : Program Call Reply ε α) (state : σ) :
    program.attempt.run serve state =
      (.ok (program.run serve state).1, (program.run serve state).2) := by
  induction program generalizing state with
  | done outcome => rfl
  | call request next ih => exact ih _ _

/-- Rewriting errors does not change the calls or the final state of a run. -/
theorem run_mapError (rewrite : ε → ε') (program : Program Call Reply ε α) (state : σ) :
    (program.mapError rewrite).run serve state =
      ((program.run serve state).1.mapError rewrite, (program.run serve state).2) := by
  induction program generalizing state with
  | done outcome => rfl
  | call request next ih => exact ih _ _

/-- Rewriting errors leaves values. -/
theorem run_mapError_eq_ok {rewrite : ε → ε'} {program : Program Call Reply ε α} {state after : σ}
    {value : α} :
    (program.mapError rewrite).run serve state = (.ok value, after) ↔
      program.run serve state = (.ok value, after) := by
  rw [run_mapError]
  rcases program.run serve state with ⟨outcome, middle⟩
  cases outcome with
  | error failure => simp [Except.mapError]
  | ok first => simp [Except.mapError]

end Run

/-- The replies a server may give in a state, each with the state it leaves. -/
abbrev Answers (Call : Type) (Reply : Call → Type) (σ : Type) : Type :=
  (request : Call) → σ → Reply request → σ → Prop

/-- An execution of a program cut off before any of its calls, or after its last. -/
def Interrupted (answers : Answers Call Reply σ) : Program Call Reply ε α → σ → σ → Prop
  | done _, state, after => after = state
  | call request next, state, after => after = state ∨
    ∃ reply middle, answers request state reply middle ∧
      (next reply).Interrupted answers middle after

/-- An execution of a program to its end, with its outcome. -/
def Exec (answers : Answers Call Reply σ) : Program Call Reply ε α → σ → Except ε α → σ → Prop
  | done outcome, state, result, after => result = outcome ∧ after = state
  | call request next, state, result, after => ∃ reply middle, answers request state reply middle ∧
    (next reply).Exec answers middle result after

/-- An execution to the end is one that is cut off after the last call. -/
theorem Exec.interrupted {answers : Answers Call Reply σ} {program : Program Call Reply ε α}
    {state after : σ} {result : Except ε α} (executed : program.Exec answers state result after) :
    program.Interrupted answers state after := by
  induction program generalizing state with
  | done outcome => exact executed.2
  | call request next ih =>
    obtain ⟨reply, middle, answered, rest⟩ := executed
    exact Or.inr ⟨reply, middle, answered, ih reply rest⟩

/-- A run against a server is an execution. -/
theorem exec_run {serve : (request : Call) → σ → Reply request × σ}
    {answers : Answers Call Reply σ}
    (served : ∀ request state, answers request state (serve request state).1
      (serve request state).2) (program : Program Call Reply ε α) (state : σ) :
    program.Exec answers state (program.run serve state).1 (program.run serve state).2 := by
  induction program generalizing state with
  | done outcome => exact ⟨rfl, rfl⟩
  | call request next ih => exact ⟨_, _, served request state, ih _ _⟩

/-- An execution of a sequence ends in its first part with an error, or goes on with its value. -/
theorem exec_bind {answers : Answers Call Reply σ} {program : Program Call Reply ε α}
    {rest : α → Program Call Reply ε β} {state after : σ} {result : Except ε β} :
    (program >>= rest).Exec answers state result after ↔
      (∃ failure, program.Exec answers state (.error failure) after ∧ result = .error failure) ∨
      ∃ value middle, program.Exec answers state (.ok value) middle ∧
        (rest value).Exec answers middle result after := by
  induction program generalizing state with
  | done outcome => cases outcome <;> simp [Exec, and_comm]
  | call request next ih =>
    simp only [call_bind, Exec, ih]
    constructor
    · rintro ⟨reply, middle, answered, ⟨failure, failed, same⟩ | ⟨value, last, first, second⟩⟩
      · exact Or.inl ⟨failure, ⟨reply, middle, answered, failed⟩, same⟩
      · exact Or.inr ⟨value, last, ⟨reply, middle, answered, first⟩, second⟩
    · rintro (⟨failure, ⟨reply, middle, answered, failed⟩, same⟩ |
        ⟨value, last, ⟨reply, middle, answered, first⟩, second⟩)
      · exact ⟨reply, middle, answered, Or.inl ⟨failure, failed, same⟩⟩
      · exact ⟨reply, middle, answered, Or.inr ⟨value, last, first, second⟩⟩

/-- An execution with rewritten errors. -/
theorem exec_mapError {answers : Answers Call Reply σ} {rewrite : ε → ε'}
    {program : Program Call Reply ε α} {state after : σ} {result : Except ε' α} :
    (program.mapError rewrite).Exec answers state result after ↔
      ∃ outcome, program.Exec answers state outcome after ∧
        result = outcome.mapError rewrite := by
  induction program generalizing state with
  | done outcome =>
    constructor
    · rintro ⟨rfl, rfl⟩
      exact ⟨outcome, ⟨rfl, rfl⟩, rfl⟩
    · rintro ⟨_, ⟨rfl, rfl⟩, rfl⟩
      exact ⟨rfl, rfl⟩
  | call request next ih =>
    simp only [mapError, Exec, ih]
    constructor
    · rintro ⟨reply, middle, answered, outcome, executed, same⟩
      exact ⟨outcome, ⟨reply, middle, answered, executed⟩, same⟩
    · rintro ⟨outcome, ⟨reply, middle, answered, executed⟩, same⟩
      exact ⟨reply, middle, answered, outcome, executed, same⟩

/-- Whatever the replies, the program makes only allowed calls and returns only values that meet
the postcondition. -/
def Ensures (allowed : Call → Prop) (post : α → Prop) : Program Call Reply ε α → Prop
  | done (.ok value) => post value
  | done (.error _) => True
  | call request next => allowed request ∧ ∀ reply, (next reply).Ensures allowed post

section Ensures

variable {allowed : Call → Prop} {post : α → Prop}

/-- A sequence is what its parts are. -/
theorem Ensures.bind {program : Program Call Reply ε α} {rest : α → Program Call Reply ε β}
    {last : β → Prop} (first : program.Ensures allowed post)
    (second : ∀ value, post value → (rest value).Ensures allowed last) :
    (program >>= rest).Ensures allowed last := by
  induction program with
  | done outcome =>
    cases outcome with
    | ok value => exact second value first
    | error failure => trivial
  | call request next ih => exact ⟨first.1, fun reply => ih reply (first.2 reply)⟩

/-- What a sequence ensures is what its first part ensures of the second. -/
theorem ensures_bind_iff {program : Program Call Reply ε α} {rest : α → Program Call Reply ε β}
    {last : β → Prop} : (program >>= rest).Ensures allowed last ↔
      program.Ensures allowed fun value => (rest value).Ensures allowed last := by
  induction program with
  | done outcome => cases outcome <;> rfl
  | call request next ih => exact and_congr_right fun _ => forall_congr' ih

/-- Rewriting errors changes no call and no value. -/
theorem Ensures.mapError {rewrite : ε → ε'} {program : Program Call Reply ε α}
    (ensures : program.Ensures allowed post) : (program.mapError rewrite).Ensures allowed post := by
  induction program with
  | done outcome =>
    cases outcome with
    | ok value => exact ensures
    | error failure => trivial
  | call request next ih => exact ⟨ensures.1, fun reply => ih reply (ensures.2 reply)⟩

/-- More calls are allowed, and less is known of the value. -/
theorem Ensures.mono {permitted : Call → Prop} {weaker : α → Prop}
    {program : Program Call Reply ε α} (ensures : program.Ensures allowed post)
    (permits : ∀ request, allowed request → permitted request)
    (weaken : ∀ value, post value → weaker value) : program.Ensures permitted weaker := by
  induction program with
  | done outcome =>
    cases outcome with
    | ok value => exact weaken value ensures
    | error failure => trivial
  | call request next ih =>
    exact ⟨permits request ensures.1, fun reply => ih reply (ensures.2 reply)⟩

/-- The outcome of a reified program is its value. -/
theorem Ensures.attempt {program : Program Call Reply ε α} (ensures : program.Ensures allowed post) :
    program.attempt.Ensures allowed fun outcome => ∀ value, outcome = .ok value → post value := by
  induction program with
  | done outcome =>
    rintro value rfl
    exact ensures
  | call request next ih => exact ⟨ensures.1, fun reply => ih reply (ensures.2 reply)⟩

/-- What all allowed calls keep, a run keeps, and its value meets the postcondition. -/
theorem Ensures.run {serve : (request : Call) → σ → Reply request × σ} {kept : σ → Prop}
    {program : Program Call Reply ε α} (ensures : program.Ensures allowed post)
    (keeps : ∀ request state, allowed request → kept state → kept (serve request state).2)
    {state after : σ} {outcome : Except ε α} (holds : kept state)
    (ran : program.run serve state = (outcome, after)) :
    kept after ∧ ∀ value, outcome = .ok value → post value := by
  induction program generalizing state with
  | done result =>
    obtain ⟨rfl, rfl⟩ := Prod.mk.inj ran
    refine ⟨holds, ?_⟩
    rintro value rfl
    exact ensures
  | call request next ih =>
    exact ih _ (ensures.2 _) (keeps request state ensures.1 holds) ran

/-- A program runs alike on servers that answer its calls alike in the states it comes to. -/
theorem Ensures.run_congr {serve other : (request : Call) → σ → Reply request × σ}
    {program : Program Call Reply ε α} {state : σ} (ensures : program.Ensures allowed post)
    (invariant : σ → Prop) (same : ∀ request state, allowed request → invariant state →
      serve request state = other request state)
    (stays : ∀ request state, allowed request → invariant state →
      invariant (other request state).2) (holds : invariant state) :
    program.run serve state = program.run other state := by
  induction program generalizing state with
  | done outcome => rfl
  | call request next ih =>
    rw [run_call, run_call, same request state ensures.1 holds]
    exact ih _ (ensures.2 _) (stays request state ensures.1 holds)

end Ensures

/-- Whatever the replies, the program fails only as expected. -/
def FailsAs (expected : ε → Prop) : Program Call Reply ε α → Prop
  | done (.ok _) => True
  | done (.error failure) => expected failure
  | call _ next => ∀ reply, (next reply).FailsAs expected

section FailsAs

variable {expected : ε → Prop}

/-- A sequence fails as its parts do. -/
theorem FailsAs.bind {program : Program Call Reply ε α} {rest : α → Program Call Reply ε β}
    (first : program.FailsAs expected) (second : ∀ value, (rest value).FailsAs expected) :
    (program >>= rest).FailsAs expected := by
  induction program with
  | done outcome =>
    cases outcome with
    | ok value => exact second value
    | error failure => exact first
  | call request next ih => exact fun reply => ih reply (first reply)

/-- Rewritten errors are as expected if the rewriting makes them so. -/
theorem FailsAs.mapError {rewrite : ε → ε'} {rewritten : ε' → Prop}
    {program : Program Call Reply ε α} (fails : program.FailsAs expected)
    (rewrites : ∀ failure, expected failure → rewritten (rewrite failure)) :
    (program.mapError rewrite).FailsAs rewritten := by
  induction program with
  | done outcome =>
    cases outcome with
    | ok value => trivial
    | error failure => exact rewrites failure fails
  | call request next ih => exact fun reply => ih reply (fails reply)

/-- A run fails as expected. -/
theorem FailsAs.run {serve : (request : Call) → σ → Reply request × σ}
    {program : Program Call Reply ε α} (fails : program.FailsAs expected) {state : σ}
    {failure : ε} (failed : (program.run serve state).1 = .error failure) : expected failure := by
  induction program generalizing state with
  | done outcome =>
    obtain rfl : outcome = .error failure := failed
    exact fails
  | call request next ih => exact ih _ (fails _) failed

end FailsAs

/-- As long as the replies are accepted, the program returns a value. -/
def Returns (accepted : (request : Call) → Reply request → Prop) : Program Call Reply ε α → Prop
  | done outcome => ∃ value, outcome = .ok value
  | call request next => ∀ reply, accepted request reply → (next reply).Returns accepted

section Returns

variable {accepted : (request : Call) → Reply request → Prop}

/-- A sequence returns a value if its parts do. -/
theorem Returns.bind {program : Program Call Reply ε α} {rest : α → Program Call Reply ε β}
    (first : program.Returns accepted) (second : ∀ value, (rest value).Returns accepted) :
    (program >>= rest).Returns accepted := by
  induction program with
  | done outcome =>
    obtain ⟨value, rfl⟩ := first
    exact second value
  | call request next ih => exact fun reply accepts => ih reply (first reply accepts)

/-- Rewriting errors changes no value. -/
theorem Returns.mapError {rewrite : ε → ε'} {program : Program Call Reply ε α}
    (returns : program.Returns accepted) : (program.mapError rewrite).Returns accepted := by
  induction program with
  | done outcome =>
    obtain ⟨value, rfl⟩ := returns
    exact ⟨value, rfl⟩
  | call request next ih => exact fun reply accepts => ih reply (returns reply accepts)

/-- An execution with accepted replies ends with a value. -/
theorem Returns.exec {answers : Answers Call Reply σ} {program : Program Call Reply ε α}
    (returns : program.Returns accepted)
    (accepts : ∀ request state reply after, answers request state reply after →
      accepted request reply) {state after : σ} {result : Except ε α}
    (executed : program.Exec answers state result after) : ∃ value, result = .ok value := by
  induction program generalizing state with
  | done outcome =>
    obtain ⟨value, rfl⟩ := returns
    exact ⟨value, executed.1⟩
  | call request next ih =>
    obtain ⟨reply, middle, answered, rest⟩ := executed
    exact ih reply (returns reply (accepts _ _ _ _ answered)) rest

end Returns

/-- The calls that were made, each with its reply, the last first. -/
abbrev Transcript (Call : Type) (Reply : Call → Type) : Type := List (Sigma Reply)

/-- Whatever the replies, the program makes only calls that the transcript before them allows, and
returns only values that meet the postcondition with the transcript at the end. -/
def Follows (allowed : Transcript Call Reply → Call → Prop)
    (post : Transcript Call Reply → α → Prop) :
    Program Call Reply ε α → Transcript Call Reply → Prop
  | done (.ok value), transcript => post transcript value
  | done (.error _), _ => True
  | call request next, transcript => allowed transcript request ∧
    ∀ reply, (next reply).Follows allowed post (⟨request, reply⟩ :: transcript)

section Follows

variable {allowed : Transcript Call Reply → Call → Prop}
  {post : Transcript Call Reply → α → Prop} {transcript : Transcript Call Reply}

/-- A sequence, with a transcript that continues the first one. -/
theorem Follows.bind {program : Program Call Reply ε α} {rest : α → Program Call Reply ε β}
    {last : Transcript Call Reply → β → Prop} (first : program.Follows allowed post transcript)
    (second : ∀ later value, transcript <:+ later → post later value →
      (rest value).Follows allowed last later) :
    (program >>= rest).Follows allowed last transcript := by
  induction program generalizing transcript with
  | done outcome =>
    cases outcome with
    | ok value => exact second transcript value (List.suffix_refl _) first
    | error failure => trivial
  | call request next ih =>
    exact ⟨first.1, fun reply => ih reply (first.2 reply) fun later value continues =>
      second later value ((List.suffix_cons _ _).trans continues)⟩

/-- Rewriting errors changes no call and no value. -/
theorem Follows.mapError {rewrite : ε → ε'} {program : Program Call Reply ε α}
    (follows : program.Follows allowed post transcript) :
    (program.mapError rewrite).Follows allowed post transcript := by
  induction program generalizing transcript with
  | done outcome => cases outcome <;> exact follows
  | call request next ih => exact ⟨follows.1, fun reply => ih reply (follows.2 reply)⟩

/-- The outcome of a reified program is its value. -/
theorem Follows.attempt {program : Program Call Reply ε α}
    (follows : program.Follows allowed post transcript) :
    program.attempt.Follows allowed
      (fun later outcome => ∀ value, outcome = .ok value → post later value) transcript := by
  induction program generalizing transcript with
  | done outcome =>
    rintro value rfl
    exact follows
  | call request next ih => exact ⟨follows.1, fun reply => ih reply (follows.2 reply)⟩

/-- Without its transcripts, a program ensures what it follows. -/
theorem Follows.ensures {permitted : Call → Prop} {returns : α → Prop}
    {program : Program Call Reply ε α} (follows : program.Follows allowed post transcript)
    (permits : ∀ transcript request, allowed transcript request → permitted request)
    (ends : ∀ transcript value, post transcript value → returns value) :
    program.Ensures permitted returns := by
  induction program generalizing transcript with
  | done outcome =>
    cases outcome with
    | ok value => exact ends _ value follows
    | error failure => trivial
  | call request next ih =>
    exact ⟨permits _ request follows.1, fun reply => ih reply (follows.2 reply)⟩

/-- A weaker postcondition is met as well. -/
theorem Follows.mono {weaker : Transcript Call Reply → α → Prop} {program : Program Call Reply ε α}
    (follows : program.Follows allowed post transcript)
    (weaken : ∀ later value, post later value → weaker later value) :
    program.Follows allowed weaker transcript := by
  induction program generalizing transcript with
  | done outcome =>
    cases outcome with
    | ok value => exact weaken _ value follows
    | error failure => trivial
  | call request next ih => exact ⟨follows.1, fun reply => ih reply (follows.2 reply)⟩

/-- More calls are allowed. -/
theorem Follows.weaken {permitted : Transcript Call Reply → Call → Prop}
    {program : Program Call Reply ε α} (follows : program.Follows allowed post transcript)
    (permits : ∀ transcript request, allowed transcript request → permitted transcript request) :
    program.Follows permitted post transcript := by
  induction program generalizing transcript with
  | done outcome => cases outcome <;> exact follows
  | call request next ih =>
    exact ⟨permits _ request follows.1, fun reply => ih reply (follows.2 reply)⟩

/-- What a program ensures, it follows. -/
theorem Ensures.follows {permitted : Call → Prop} {returns : α → Prop}
    {program : Program Call Reply ε α} (ensures : program.Ensures permitted returns)
    (permits : ∀ transcript request, permitted request → allowed transcript request)
    (transcript : Transcript Call Reply) :
    program.Follows allowed (fun _ value => returns value) transcript := by
  induction program generalizing transcript with
  | done outcome => cases outcome <;> exact ensures
  | call request next ih =>
    exact ⟨permits _ request ensures.1, fun reply => ih reply (ensures.2 reply) _⟩

end Follows

/-- From this state, whatever the replies, the invariant holds before each call and at the end,
and the postcondition where a value is returned. -/
def Keeps (answers : Answers Call Reply σ) (invariant : σ → Prop) (post : α → σ → Prop) :
    Program Call Reply ε α → σ → Prop
  | done (.ok value), state => invariant state ∧ post value state
  | done (.error _), state => invariant state
  | call request next, state => invariant state ∧
    ∀ reply after, answers request state reply after → (next reply).Keeps answers invariant post after

section Keeps

variable {answers : Answers Call Reply σ} {invariant : σ → Prop} {post : α → σ → Prop}

/-- A sequence keeps the invariant if its second part does where its first part ends. -/
theorem Keeps.bind {program : Program Call Reply ε α} {rest : α → Program Call Reply ε β}
    {last : β → σ → Prop} {state : σ} (first : program.Keeps answers invariant post state)
    (second : ∀ value after, post value after → (rest value).Keeps answers invariant last after) :
    (program >>= rest).Keeps answers invariant last state := by
  induction program generalizing state with
  | done outcome =>
    cases outcome with
    | ok value => exact second value state first.2
    | error failure => exact first
  | call request next ih =>
    exact ⟨first.1, fun reply after answered => ih reply (first.2 reply after answered)⟩

/-- A weaker postcondition is met as well. -/
theorem Keeps.mono {weaker : α → σ → Prop} {program : Program Call Reply ε α} {state : σ}
    (keeps : program.Keeps answers invariant post state)
    (weaken : ∀ value after, post value after → weaker value after) :
    program.Keeps answers invariant weaker state := by
  induction program generalizing state with
  | done outcome =>
    cases outcome with
    | ok value => exact ⟨keeps.1, weaken value state keeps.2⟩
    | error failure => exact keeps
  | call request next ih =>
    exact ⟨keeps.1, fun reply after answered => ih reply (keeps.2 reply after answered)⟩

/-- Rewriting errors keeps the invariant. -/
theorem Keeps.mapError {rewrite : ε → ε'} {program : Program Call Reply ε α} {state : σ}
    (keeps : program.Keeps answers invariant post state) :
    (program.mapError rewrite).Keeps answers invariant post state := by
  induction program generalizing state with
  | done outcome => cases outcome <;> exact keeps
  | call request next ih =>
    exact ⟨keeps.1, fun reply after answered => ih reply (keeps.2 reply after answered)⟩

/-- The invariant holds wherever the program is interrupted. -/
theorem Keeps.interrupted {program : Program Call Reply ε α} {state after : σ}
    (keeps : program.Keeps answers invariant post state)
    (interrupted : program.Interrupted answers state after) : invariant after := by
  induction program generalizing state with
  | done outcome =>
    rw [show after = state from interrupted]
    cases outcome with
    | ok value => exact keeps.1
    | error failure => exact keeps
  | call request next ih =>
    rcases interrupted with rfl | ⟨reply, middle, answered, rest⟩
    · exact keeps.1
    · exact ih reply (keeps.2 reply middle answered) rest

/-- What all allowed calls keep, the program keeps. -/
theorem Ensures.keeps {allowed : Call → Prop} {returns : α → Prop} {kept : σ → Prop}
    {program : Program Call Reply ε α} (ensures : program.Ensures allowed returns)
    (stays : ∀ request state reply after, allowed request → kept state →
      answers request state reply after → kept after)
    (within : ∀ state, kept state → invariant state) {state : σ} (holds : kept state) :
    program.Keeps answers invariant (fun _ after => kept after) state := by
  induction program generalizing state with
  | done outcome =>
    cases outcome with
    | ok value => exact ⟨within state holds, holds⟩
    | error failure => exact within state holds
  | call request next ih =>
    exact ⟨within state holds, fun reply after answered =>
      ih reply (ensures.2 reply) (stays request state reply after ensures.1 holds answered)⟩

end Keeps

/-- The program fails at the first call that is refused. -/
def Stops (refused : (request : Call) → Reply request → Prop) : Program Call Reply ε α → Prop
  | done _ => True
  | call request next => ∀ reply,
    (refused request reply → ∃ failure, next reply = done (.error failure)) ∧
      (next reply).Stops refused

section Stops

variable {refused : (request : Call) → Reply request → Prop}

/-- A sequence stops if its parts do. -/
theorem Stops.bind {program : Program Call Reply ε α} {rest : α → Program Call Reply ε β}
    (first : program.Stops refused) (second : ∀ value, (rest value).Stops refused) :
    (program >>= rest).Stops refused := by
  induction program with
  | done outcome =>
    cases outcome with
    | ok value => exact second value
    | error failure => trivial
  | call request next ih =>
    intro reply
    obtain ⟨stops, later⟩ := first reply
    refine ⟨fun refuses => ?_, ih reply later⟩
    obtain ⟨failure, ended⟩ := stops refuses
    exact ⟨failure, congrArg (·.bind rest) ended⟩

/-- Where a call is refused or served, a program that stops at a refusal ends with the value and in
the state of its run, or fails on the way. -/
theorem Stops.keeps {serve : (request : Call) → σ → Reply request × σ}
    {answers : Answers Call Reply σ} {allowed : Call → Prop} {returns : α → Prop}
    {kept invariant : σ → Prop} {program : Program Call Reply ε α} (stops : program.Stops refused)
    (ensures : program.Ensures allowed returns)
    (served : ∀ request state reply after, allowed request →
      answers request state reply after →
        refused request reply ∨ (reply, after) = serve request state)
    (stays : ∀ request state reply after, allowed request → kept state →
      answers request state reply after → kept after)
    (within : ∀ state, kept state → invariant state)
    {state final : σ} {value : α} (ran : program.run serve state = (.ok value, final))
    (holds : kept state) :
    program.Keeps answers invariant (fun last after => last = value ∧ after = final) state := by
  induction program generalizing state with
  | done outcome =>
    obtain ⟨rfl, rfl⟩ := Prod.mk.inj ran
    exact ⟨within _ holds, rfl, rfl⟩
  | call request next ih =>
    refine ⟨within _ holds, fun reply after answered => ?_⟩
    have still := stays request state reply after ensures.1 holds answered
    obtain refuses | same := served request state reply after ensures.1 answered
    · obtain ⟨failure, ended⟩ := (stops reply).1 refuses
      rw [ended]
      exact within _ still
    · rw [run_call, ← same] at ran
      exact ih reply (stops reply).2 (ensures.2 reply) ran still

end Stops

/-- From this state, whatever the replies, each call is allowed in the state it is made in, and the
postcondition holds where a value is returned. -/
def Guarded (answers : Answers Call Reply σ) (allowed : σ → Call → Prop) (post : α → σ → Prop) :
    Program Call Reply ε α → σ → Prop
  | done (.ok value), state => post value state
  | done (.error _), _ => True
  | call request next, state => allowed state request ∧
    ∀ reply after, answers request state reply after →
      (next reply).Guarded answers allowed post after

section Guarded

variable {answers : Answers Call Reply σ} {allowed : σ → Call → Prop} {post : α → σ → Prop}

/-- A sequence is guarded if its second part is where its first part ends. -/
theorem Guarded.bind {program : Program Call Reply ε α} {rest : α → Program Call Reply ε β}
    {last : β → σ → Prop} {state : σ} (first : program.Guarded answers allowed post state)
    (second : ∀ value after, post value after → (rest value).Guarded answers allowed last after) :
    (program >>= rest).Guarded answers allowed last state := by
  induction program generalizing state with
  | done outcome =>
    cases outcome with
    | ok value => exact second value state first
    | error failure => trivial
  | call request next ih =>
    exact ⟨first.1, fun reply after answered => ih reply (first.2 reply after answered)⟩

/-- Rewriting errors changes no call and no value. -/
theorem Guarded.mapError {rewrite : ε → ε'} {program : Program Call Reply ε α} {state : σ}
    (guarded : program.Guarded answers allowed post state) :
    (program.mapError rewrite).Guarded answers allowed post state := by
  induction program generalizing state with
  | done outcome => cases outcome <;> exact guarded
  | call request next ih =>
    exact ⟨guarded.1, fun reply after answered => ih reply (guarded.2 reply after answered)⟩

/-- A weaker postcondition is met as well. -/
theorem Guarded.mono {weaker : α → σ → Prop} {program : Program Call Reply ε α} {state : σ}
    (guarded : program.Guarded answers allowed post state)
    (weaken : ∀ value after, post value after → weaker value after) :
    program.Guarded answers allowed weaker state := by
  induction program generalizing state with
  | done outcome =>
    cases outcome with
    | ok value => exact weaken value state guarded
    | error failure => trivial
  | call request next ih =>
    exact ⟨guarded.1, fun reply after answered => ih reply (guarded.2 reply after answered)⟩

/-- What the allowed calls keep, the program keeps. -/
theorem Guarded.keeps {invariant : σ → Prop} {program : Program Call Reply ε α} {state : σ}
    (guarded : program.Guarded answers allowed post state)
    (stays : ∀ request state reply after, allowed state request → invariant state →
      answers request state reply after → invariant after) (holds : invariant state) :
    program.Keeps answers invariant post state := by
  induction program generalizing state with
  | done outcome =>
    cases outcome with
    | ok value => exact ⟨holds, guarded⟩
    | error failure => exact holds
  | call request next ih =>
    exact ⟨holds, fun reply after answered => ih reply (guarded.2 reply after answered)
      (stays request state reply after guarded.1 holds answered)⟩

/-- The postcondition holds where an execution ends with a value. -/
theorem Guarded.exec {program : Program Call Reply ε α} {state after : σ} {value : α}
    (guarded : program.Guarded answers allowed post state)
    (executed : program.Exec answers state (.ok value) after) : post value after := by
  induction program generalizing state with
  | done outcome =>
    obtain ⟨rfl, rfl⟩ := executed
    exact guarded
  | call request next ih =>
    obtain ⟨reply, middle, answered, rest⟩ := executed
    exact ih reply (guarded.2 reply middle answered) rest

/-- A program is guarded that makes only calls which are allowed in every state, and that keep
what is known of the state. -/
theorem Ensures.guarded {permitted : Call → Prop} {returns : α → Prop} {kept : σ → Prop}
    {program : Program Call Reply ε α} (ensures : program.Ensures permitted returns)
    (permits : ∀ state request, permitted request → allowed state request)
    (stays : ∀ request state reply after, permitted request → kept state →
      answers request state reply after → kept after) {state : σ} (holds : kept state) :
    program.Guarded answers allowed (fun _ after => kept after) state := by
  induction program generalizing state with
  | done outcome =>
    cases outcome with
    | ok value => exact holds
    | error failure => trivial
  | call request next ih =>
    exact ⟨permits state request ensures.1, fun reply after answered =>
      ih reply (ensures.2 reply) (stays request state reply after ensures.1 holds answered)⟩

end Guarded

/-- The state of a server after a number of calls of a program. -/
def stateAfter (serve : (request : Call) → σ → Reply request × σ) :
    Nat → Program Call Reply ε α → σ → σ
  | 0, _, state => state
  | _ + 1, done _, state => state
  | count + 1, call request next, state =>
    stateAfter serve count (next (serve request state).1) (serve request state).2

/-- A run against a server can be interrupted after any number of calls. -/
theorem interrupted_stateAfter {serve : (request : Call) → σ → Reply request × σ}
    {answers : Answers Call Reply σ}
    (served : ∀ request state, answers request state (serve request state).1
      (serve request state).2) (count : Nat) (program : Program Call Reply ε α) (state : σ) :
    program.Interrupted answers state (stateAfter serve count program state) := by
  induction count generalizing program state with
  | zero => cases program with
    | done outcome => rfl
    | call request next => exact Or.inl rfl
  | succ count ih => cases program with
    | done outcome => rfl
    | call request next => exact Or.inr ⟨_, _, served request state, ih _ _⟩

end Program

end Interaction
