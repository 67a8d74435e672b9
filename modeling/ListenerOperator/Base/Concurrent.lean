import ListenerOperator.Base.Program

/-!
# Interleaved programs

Programs that share a state make their calls in any order. A program is proved on its own
against what the others may do: `Rules` names an invariant of the state, the interference a
program must tolerate and the changes it may make itself, and `Program.Safe` is the weakest
condition under which the rest of a program keeps its rules and ends in its postcondition.
A pool of safe programs with compatible rules keeps the invariant, and each program that has
ended meets its postcondition, in every state of every interleaving (`Pool.safe_of_reaches`).
-/

namespace Interaction

/-- The conditions under which one program of several is proved. -/
structure Rules (σ : Type) where
  /-- Holds between any two calls. -/
  invariant : σ → Prop
  /-- What the others may do between two calls of the program. -/
  rely : σ → σ → Prop
  /-- What a call of the program may do. -/
  guarantee : σ → σ → Prop
  /-- The others may do nothing. -/
  rely_refl : ∀ state, rely state state
  /-- The others may act repeatedly. -/
  rely_trans : ∀ {first second third}, rely first second → rely second third → rely first third

namespace Program

variable {Call : Type} {Reply : Call → Type} {ε ε' α β σ : Type}
variable {answers : Answers Call Reply σ} {rules : Rules σ}

/-- From this state on, the program keeps its rules and ends in the postcondition, whatever
the others do between its calls. -/
def Safe (answers : Answers Call Reply σ) (rules : Rules σ) (post : Except ε α → σ → Prop) :
    Program Call Reply ε α → σ → Prop
  | done outcome, state =>
    ∀ later, rules.rely state later → rules.invariant later → post outcome later
  | call request next, state =>
    ∀ later, rules.rely state later → rules.invariant later →
      ∀ reply after, answers request later reply after →
        rules.invariant after ∧ rules.guarantee later after ∧
          (next reply).Safe answers rules post after

/-- Interference does not make a program unsafe. -/
theorem Safe.stable {post : Except ε α → σ → Prop} {program : Program Call Reply ε α}
    {state later : σ} (safe : program.Safe answers rules post state)
    (moves : rules.rely state later) : program.Safe answers rules post later := by
  cases program with
  | done outcome => exact fun last onward => safe last (rules.rely_trans moves onward)
  | call request next => exact fun last onward => safe last (rules.rely_trans moves onward)

/-- A program is safe if it is safe in every state the others may leave. -/
theorem Safe.of_later {post : Except ε α → σ → Prop} {program : Program Call Reply ε α}
    {state : σ} (safe : ∀ later, rules.rely state later → rules.invariant later →
      program.Safe answers rules post later) : program.Safe answers rules post state := by
  cases program with
  | done outcome =>
    intro later moves holds
    exact safe later moves holds later (rules.rely_refl later) holds
  | call request next =>
    intro later moves holds
    exact safe later moves holds later (rules.rely_refl later) holds

/-- A weaker postcondition is met as well. -/
theorem Safe.mono {post weaker : Except ε α → σ → Prop}
    (weaken : ∀ outcome state, rules.invariant state → post outcome state →
      weaker outcome state)
    {program : Program Call Reply ε α} {state : σ}
    (safe : program.Safe answers rules post state) :
    program.Safe answers rules weaker state := by
  induction program generalizing state with
  | done outcome => exact fun later moves holds => weaken _ _ holds (safe later moves holds)
  | call request next ih =>
    intro later moves holds reply after answered
    obtain ⟨kept, allowed, rest⟩ := safe later moves holds reply after answered
    exact ⟨kept, allowed, ih reply rest⟩

/-- A sequence is safe if its first part ends in a state from which the second part is safe,
or in an error that meets the postcondition. -/
theorem Safe.bind {post : Except ε β → σ → Prop} {program : Program Call Reply ε α}
    {rest : α → Program Call Reply ε β} {state : σ}
    (safe : program.Safe answers rules (fun outcome after =>
      match outcome with
      | .ok value => (rest value).Safe answers rules post after
      | .error failure => post (.error failure) after) state) :
    (program >>= rest).Safe answers rules post state := by
  induction program generalizing state with
  | done outcome =>
    cases outcome with
    | ok value => exact Safe.of_later safe
    | error failure => exact safe
  | call request next ih =>
    intro later moves holds reply after answered
    obtain ⟨kept, allowed, continues⟩ := safe later moves holds reply after answered
    exact ⟨kept, allowed, ih reply continues⟩

/-- The outcome of a reified program is its value. -/
theorem Safe.attempt {post : Except ε (Except ε α) → σ → Prop}
    {program : Program Call Reply ε α} {state : σ}
    (safe : program.Safe answers rules (fun outcome => post (.ok outcome)) state) :
    program.attempt.Safe answers rules post state := by
  induction program generalizing state with
  | done outcome => exact safe
  | call request next ih =>
    intro later moves holds reply after answered
    obtain ⟨kept, allowed, continues⟩ := safe later moves holds reply after answered
    exact ⟨kept, allowed, ih reply continues⟩

/-- A program that follows its transcripts is safe, if each call that they allow keeps the rules
and leaves a fact about the state for the longer transcript. -/
theorem Follows.safe {allowed : Transcript Call Reply → Call → Prop}
    {post : Transcript Call Reply → α → Prop} {fact : Transcript Call Reply → σ → Prop}
    (stable : ∀ {transcript before after}, fact transcript before →
      rules.rely before after → rules.invariant after → fact transcript after)
    (step : ∀ {transcript request before reply after}, allowed transcript request →
      rules.invariant before → fact transcript before → answers request before reply after →
      rules.invariant after ∧ rules.guarantee before after ∧
        fact (⟨request, reply⟩ :: transcript) after)
    {program : Program Call Reply ε α} {transcript : Transcript Call Reply} {state : σ}
    (follows : program.Follows allowed post transcript) (holds : fact transcript state) :
    program.Safe answers rules (fun outcome after => ∀ value, outcome = .ok value →
      ∃ transcript, post transcript value ∧ fact transcript after) state := by
  induction program generalizing transcript state with
  | done outcome =>
    rintro later moves kept value rfl
    exact ⟨transcript, follows, stable holds moves kept⟩
  | call request next ih =>
    intro later moves kept reply after answered
    obtain ⟨invariant, allows, learned⟩ :=
      step follows.1 kept (stable holds moves kept) answered
    exact ⟨invariant, allows, ih reply (follows.2 reply) learned⟩

end Program

/-- A shared state and the programs that work on it. -/
structure Pool (ι : Type) (Call : Type) (Reply : Call → Type) (ε α σ : Type) where
  /-- The shared state. -/
  state : σ
  /-- What remains of each program. -/
  thread : ι → Program Call Reply ε α

namespace Pool

variable {ι Call : Type} {Reply : Call → Type} {ε α σ : Type}

open Classical in
/-- One call of one program, or one step of the environment. -/
inductive Step (answers : Program.Answers Call Reply σ) (environment : σ → σ → Prop) :
    Pool ι Call Reply ε α σ → Pool ι Call Reply ε α σ → Prop where
  /-- A waiting program gets a reply and continues. -/
  | thread (pool : Pool ι Call Reply ε α σ) (index : ι) (request : Call)
      (next : Reply request → Program Call Reply ε α) (reply : Reply request) (after : σ)
      (waiting : pool.thread index = .call request next)
      (answered : answers request pool.state reply after) :
      Step answers environment pool
        ⟨after, Function.update pool.thread index (next reply)⟩
  /-- The state changes without a call. -/
  | environment (pool : Pool ι Call Reply ε α σ) (after : σ)
      (moves : environment pool.state after) :
      Step answers environment pool ⟨after, pool.thread⟩

/-- The pools reached by any interleaving of calls and steps of the environment. -/
abbrev Reaches (answers : Program.Answers Call Reply σ) (environment : σ → σ → Prop) :
    Pool ι Call Reply ε α σ → Pool ι Call Reply ε α σ → Prop :=
  Relation.ReflTransGen (Step answers environment)

/-- Rules of several programs fit together: they share their invariant, what one does the
others tolerate, and so they do what the environment does. -/
structure Compatible (rules : ι → Rules σ) (environment : σ → σ → Prop) : Prop where
  /-- All programs have one invariant. -/
  shared : ∀ first second state, (rules first).invariant state → (rules second).invariant state
  /-- What one program does is interference the others tolerate. -/
  tolerated : ∀ first second, first ≠ second → ∀ before after,
    (rules first).invariant before → (rules first).invariant after →
      (rules first).guarantee before after → (rules second).rely before after
  /-- The environment keeps the invariant. -/
  environment_invariant : ∀ index before after, (rules index).invariant before →
    environment before after → (rules index).invariant after
  /-- What the environment does is interference every program tolerates. -/
  environment_tolerated : ∀ index before after, (rules index).invariant before →
    environment before after → (rules index).rely before after

variable {answers : Program.Answers Call Reply σ} {environment : σ → σ → Prop}
variable {rules : ι → Rules σ} {post : ι → Except ε α → σ → Prop}

/-- The invariant holds and every program is safe. -/
structure Verified (answers : Program.Answers Call Reply σ) (rules : ι → Rules σ)
    (post : ι → Except ε α → σ → Prop) (pool : Pool ι Call Reply ε α σ) : Prop where
  /-- The common invariant. -/
  invariant : ∀ index, (rules index).invariant pool.state
  /-- Each remaining program is safe. -/
  safe : ∀ index, (pool.thread index).Safe answers (rules index) (post index) pool.state

/-- A step of a verified pool leaves a verified pool. -/
theorem Verified.step (compatible : Compatible rules environment)
    {pool after : Pool ι Call Reply ε α σ} (verified : Verified answers rules post pool)
    (step : Step answers environment pool after) : Verified answers rules post after := by
  classical
  cases step with
  | thread index request next reply state waiting answered =>
    have safe := verified.safe index
    rw [waiting] at safe
    obtain ⟨kept, allowed, rest⟩ := safe pool.state ((rules index).rely_refl _)
      (verified.invariant index) reply state answered
    refine ⟨fun other => compatible.shared index other state kept, fun other => ?_⟩
    by_cases same : other = index
    · subst same
      simpa only [Function.update_self] using rest
    · simp only [Function.update_of_ne same]
      exact (verified.safe other).stable (compatible.tolerated index other (Ne.symm same) _ _
        (verified.invariant index) kept allowed)
  | environment state moves =>
    exact ⟨fun index => compatible.environment_invariant index _ _ (verified.invariant index) moves,
      fun index => (verified.safe index).stable
        (compatible.environment_tolerated index _ _ (verified.invariant index) moves)⟩

/-- Every pool reached from a verified one is verified. -/
theorem safe_of_reaches (compatible : Compatible rules environment)
    {start pool : Pool ι Call Reply ε α σ} (verified : Verified answers rules post start)
    (reached : Reaches answers environment start pool) : Verified answers rules post pool := by
  induction reached with
  | refl => exact verified
  | tail _ step ih => exact ih.step compatible step

/-- A call of a program of a verified pool does what the program guarantees. -/
theorem Verified.guarantee {pool : Pool ι Call Reply ε α σ}
    (verified : Verified answers rules post pool) {index : ι} {request : Call}
    {next : Reply request → Program Call Reply ε α} {reply : Reply request} {after : σ}
    (waiting : pool.thread index = .call request next)
    (answered : answers request pool.state reply after) :
    (rules index).guarantee pool.state after := by
  have safe := verified.safe index
  rw [waiting] at safe
  have kept := safe pool.state ((rules index).rely_refl _) (verified.invariant index) reply after
    answered
  exact kept.2.1

/-- A program of a verified pool that has ended meets its postcondition. -/
theorem Verified.outcome {pool : Pool ι Call Reply ε α σ}
    (verified : Verified answers rules post pool) {index : ι} {outcome : Except ε α}
    (ended : pool.thread index = .done outcome) : post index outcome pool.state := by
  have safe := verified.safe index
  rw [ended] at safe
  exact safe pool.state ((rules index).rely_refl _) (verified.invariant index)

/-- The common invariant holds in every pool reached from a verified one, also in one without
programs. -/
theorem invariant_of_reaches (compatible : Compatible rules environment) {invariant : σ → Prop}
    (common : ∀ index state, (rules index).invariant state → invariant state)
    (kept : ∀ before after, invariant before → environment before after → invariant after)
    {start pool : Pool ι Call Reply ε α σ} (verified : Verified answers rules post start)
    (holds : invariant start.state) (reached : Reaches answers environment start pool) :
    invariant pool.state := by
  rcases isEmpty_or_nonempty ι with none | ⟨⟨index⟩⟩
  · induction reached with
    | refl => exact holds
    | tail _ step ih =>
      cases step with
      | thread index => exact isEmptyElim index
      | environment after moves => exact kept _ after ih moves
  · exact common index _ ((safe_of_reaches compatible verified reached).invariant index)

/-- What is reached in an environment is reached in one that does more. -/
theorem Reaches.mono {wider : σ → σ → Prop}
    (widen : ∀ before after, environment before after → wider before after)
    {start pool : Pool ι Call Reply ε α σ} (reached : Reaches answers environment start pool) :
    Reaches answers wider start pool := by
  refine Relation.ReflTransGen.mono (fun before after step => ?_) _ _ reached
  cases step with
  | thread index request next reply state waiting answered =>
    exact .thread before index request next reply state waiting answered
  | environment state moves => exact .environment before state (widen _ _ moves)

/-- A program can run to its end, answered by a server whose answers are among the possible ones
as long as something holds that they keep. -/
theorem reaches_run (environment : σ → σ → Prop)
    {serve : (request : Call) → σ → Reply request × σ} {kept : σ → Prop}
    (valid : ∀ request state, kept state →
      answers request state (serve request state).1 (serve request state).2 ∧
        kept (serve request state).2)
    (pool : Pool ι Call Reply ε α σ) (index : ι) (holds : kept pool.state) :
    ∃ after, Reaches answers environment pool after ∧
      after.state = ((pool.thread index).run serve pool.state).2 ∧
      after.thread index = .done ((pool.thread index).run serve pool.state).1 ∧
      (∀ other, other ≠ index → after.thread other = pool.thread other) ∧ kept after.state := by
  classical
  obtain ⟨state, thread⟩ := pool
  generalize remains : thread index = program
  induction program generalizing state thread with
  | done outcome =>
    simp only [remains, Program.run_done]
    exact ⟨_, .refl, rfl, remains, fun _ _ => rfl, holds⟩
  | call request next ih =>
    obtain ⟨answered, onward⟩ := valid request state holds
    have step : Step answers environment ⟨state, thread⟩
        ⟨(serve request state).2, Function.update thread index (next (serve request state).1)⟩ :=
      .thread ⟨state, thread⟩ index request next _ _ remains answered
    obtain ⟨after, reached, state, ended, others, stays⟩ := ih (serve request state).1
      (serve request state).2 (Function.update thread index (next (serve request state).1)) onward
      (Function.update_self _ _ _)
    simp only [Function.update_self] at state ended
    simp only [remains, Program.run_call]
    refine ⟨after, .head step reached, state, ended, fun other different => ?_, stays⟩
    exact (others other different).trans (Function.update_of_ne different _ _)

/-- A program can make its next calls, answered by a server whose answers are among the possible
ones as long as something holds that they keep. -/
theorem reaches_advance (environment : σ → σ → Prop)
    {serve : (request : Call) → σ → Reply request × σ} {kept : σ → Prop}
    (valid : ∀ request state, kept state →
      answers request state (serve request state).1 (serve request state).2 ∧
        kept (serve request state).2)
    (pool : Pool ι Call Reply ε α σ) (index : ι) (holds : kept pool.state) (calls : Nat) :
    ∃ after, Reaches answers environment pool after ∧
      after.state = ((pool.thread index).advance serve calls pool.state).2 ∧
      after.thread index = ((pool.thread index).advance serve calls pool.state).1 ∧
      (∀ other, other ≠ index → after.thread other = pool.thread other) ∧ kept after.state := by
  classical
  obtain ⟨state, thread⟩ := pool
  induction calls generalizing state thread with
  | zero => exact ⟨_, .refl, rfl, rfl, fun _ _ => rfl, holds⟩
  | succ calls ih =>
    cases remains : thread index with
    | done outcome =>
      refine ⟨⟨state, thread⟩, .refl, ?_, ?_, fun _ _ => rfl, holds⟩
      · simp only [remains, Program.advance]
      · simp only [remains, Program.advance]
    | call request next =>
      obtain ⟨answered, onward⟩ := valid request state holds
      have step : Step answers environment ⟨state, thread⟩
          ⟨(serve request state).2, Function.update thread index (next (serve request state).1)⟩ :=
        .thread ⟨state, thread⟩ index request next _ _ remains answered
      obtain ⟨after, reached, state, continued, others, stays⟩ := ih (serve request state).2
        (Function.update thread index (next (serve request state).1)) onward
      simp only [Function.update_self] at state continued
      simp only [remains, Program.advance]
      refine ⟨after, .head step reached, state, continued, fun other different => ?_, stays⟩
      exact (others other different).trans (Function.update_of_ne different _ _)

end Pool

end Interaction
