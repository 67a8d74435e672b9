import ListenerOperator.Base.Concurrent

/-!
# Running as if alone

A program among others that leave what it depends on. If it ends at the first refused call, then it
fails, or it ends with the value of a run by itself and where that run ends, as far as the program
can tell: `Stops.safe` follows the two runs call by call.
-/

namespace Interaction

namespace Program

variable {Call : Type} {Reply : Call → Type} {ε ε' α β σ τ : Type}

/-- A program follows two transcripts together. -/
theorem Follows.and {allowed permitted : Transcript Call Reply → Call → Prop}
    {post last : Transcript Call Reply → α → Prop} {program : Program Call Reply ε α}
    {transcript : Transcript Call Reply} (first : program.Follows allowed post transcript)
    (second : program.Follows permitted last transcript) :
    program.Follows
      (fun before request => allowed before request ∧ permitted before request)
      (fun later value => post later value ∧ last later value) transcript := by
  induction program generalizing transcript with
  | done outcome =>
    cases outcome with
    | ok value => exact ⟨first, second⟩
    | error failure => trivial
  | call request next ih =>
    exact ⟨⟨first.1, second.1⟩, fun reply => ih reply (first.2 reply) (second.2 reply)⟩

/-- Rewriting the error does not make a program go on. -/
theorem Stops.mapError {refused : (request : Call) → Reply request → Prop} {rewrite : ε → ε'}
    {program : Program Call Reply ε α} (stops : program.Stops refused) :
    (program.mapError rewrite).Stops refused := by
  induction program with
  | done outcome => trivial
  | call request next ih =>
    intro reply
    obtain ⟨ends, later⟩ := stops reply
    refine ⟨fun refuses => ?_, ih reply later⟩
    obtain ⟨failure, ended⟩ := ends refuses
    exact ⟨rewrite failure, congrArg (·.mapError rewrite) ended⟩

/-- Whatever accepted replies it gets, the program returns only values with the postcondition. -/
def Yields (accepted : (request : Call) → Reply request → Prop) (post : α → Prop) :
    Program Call Reply ε α → Prop
  | done (.ok value) => post value
  | done (.error _) => True
  | call request next => ∀ reply, accepted request reply → (next reply).Yields accepted post

section Yields

variable {accepted : (request : Call) → Reply request → Prop} {post : α → Prop}

/-- Every program returns something. -/
theorem Yields.something (program : Program Call Reply ε α) :
    program.Yields accepted fun _ => True := by
  induction program with
  | done outcome => cases outcome <;> trivial
  | call request next ih => exact fun reply _ => ih reply

/-- A sequence returns what its second part does after its first. -/
theorem Yields.bind {program : Program Call Reply ε α} {rest : α → Program Call Reply ε β}
    {last : β → Prop} (first : program.Yields accepted post)
    (second : ∀ value, post value → (rest value).Yields accepted last) :
    (program >>= rest).Yields accepted last := by
  induction program with
  | done outcome =>
    cases outcome with
    | ok value => exact second value first
    | error failure => trivial
  | call request next ih => exact fun reply accepts => ih reply (first reply accepts)

/-- Rewriting the error leaves the values. -/
theorem Yields.mapError {rewrite : ε → ε'} {program : Program Call Reply ε α}
    (yields : program.Yields accepted post) : (program.mapError rewrite).Yields accepted post := by
  induction program with
  | done outcome => cases outcome <;> exact yields
  | call request next ih => exact fun reply accepts => ih reply (yields reply accepts)

/-- A program whose calls keep the rules and get accepted replies is safe, and returns what it
ensures and yields. -/
theorem Ensures.safe {answers : Answers Call Reply σ} {rules : Rules σ} {allowed : Call → Prop}
    {returns : α → Prop} {program : Program Call Reply ε α}
    (frame : ∀ request state reply after, allowed request → rules.invariant state →
      answers request state reply after →
        rules.invariant after ∧ rules.guarantee state after ∧ accepted request reply)
    (ensures : program.Ensures allowed returns) (yields : program.Yields accepted post) (state : σ) :
    program.Safe answers rules (fun outcome _ =>
      ∀ value, outcome = .ok value → returns value ∧ post value) state := by
  induction program generalizing state with
  | done outcome =>
    intro later moves holds value ended
    subst ended
    exact ⟨ensures, yields⟩
  | call request next ih =>
    intro later moves holds reply after answered
    obtain ⟨kept, allows, accepts⟩ := frame _ _ _ _ ensures.1 holds answered
    exact ⟨kept, allows, ih reply (ensures.2 reply) (yields reply accepts) after⟩

end Yields

section Alone

variable {answers : Answers Call Reply σ} {rules : Rules σ}
  {serve : (request : Call) → τ → Reply request × τ} {agree : σ → τ → Prop}
  {allowed : Call → Prop} {refused : (request : Call) → Reply request → Prop}

/-- A program that ends at the first refused call is safe, and returns only the value of its run
alone, in a state that agrees with the end of that run: if the others keep the agreement, its own
calls keep the rules, and calls that are not refused get the reply that they get alone and keep the
agreement. -/
theorem Stops.safe
    (stable : ∀ state later alone, agree state alone → rules.rely state later →
      rules.invariant later → agree later alone)
    (frame : ∀ request state reply after, allowed request → rules.invariant state →
      answers request state reply after → rules.invariant after ∧ rules.guarantee state after)
    (step : ∀ request state reply after alone, allowed request → rules.invariant state →
      agree state alone → answers request state reply after → ¬ refused request reply →
        ¬ refused request (serve request alone).1 →
          reply = (serve request alone).1 ∧ agree after (serve request alone).2)
    {program : Program Call Reply ε α} {returns : α → Prop} (stops : program.Stops refused)
    (ensures : program.Ensures allowed returns) {state : σ} {alone final : τ} {value : α}
    (agrees : agree state alone) (ran : program.run serve alone = (.ok value, final)) :
    program.Safe answers rules (fun outcome after =>
      ∀ result, outcome = .ok result → result = value ∧ agree after final) state := by
  induction program generalizing state alone with
  | done outcome =>
    intro later moves holds result ended
    obtain ⟨same, rfl⟩ := Prod.mk.inj ran
    have equal : result = value := Except.ok.inj (ended.symm.trans same)
    exact ⟨equal, stable _ _ _ agrees moves holds⟩
  | call request next ih =>
    intro later moves holds reply after answered
    have still : agree later alone := stable _ _ _ agrees moves holds
    obtain ⟨kept, allows⟩ := frame _ _ _ _ ensures.1 holds answered
    refine ⟨kept, allows, ?_⟩
    by_cases refuses : refused request reply
    · obtain ⟨failure, ended⟩ := (stops reply).1 refuses
      rw [ended]
      intro last onward stays result impossible
      cases impossible
    · -- The run alone returns a value, so none of its calls is refused.
      have granted : ¬ refused request (serve request alone).1 := by
        intro refusesAlone
        obtain ⟨failure, ended⟩ := (stops _).1 refusesAlone
        rw [run_call, ended] at ran
        cases ran
      obtain ⟨same, agreesAfter⟩ := step _ _ _ _ _ ensures.1 holds still answered refuses
        granted
      rw [run_call, ← same] at ran
      exact ih reply (stops reply).2 (ensures.2 reply) agreesAfter ran

end Alone

end Program

end Interaction
