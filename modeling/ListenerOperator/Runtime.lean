import ListenerOperator.Calls

/-!
# The controller runtime

What the code uses of the controller runtime and of the client library. Owner references are
set by a function outside the repository, which is a parameter here with its documented laws.
`CreateOrUpdate` and `RetryOnConflict` are programs over the calls they are documented to make.
-/

namespace ListenerOperator

open Interaction

/-- An owner reference by which another object than the given one is the controller. -/
def OwnerReference.ControlledByOther (reference : OwnerReference) (kind : String)
    (owner : ObjectMeta) : Prop :=
  reference.controller = true ∧ ¬ (reference.kind = kind ∧ reference.name = owner.name)

instance (reference : OwnerReference) (kind : String) (owner : ObjectMeta) :
    Decidable (reference.ControlledByOther kind owner) :=
  inferInstanceAs (Decidable (_ ∧ _))

/-- `SetControllerReference` and what it is documented to do. -/
structure ControllerRuntime where
  /-- The owner references of an object after an owner of a kind is made its controller. -/
  setControllerReference : String → ObjectMeta → ObjectMeta → Except Failure (List OwnerReference)
  /-- An object whose references were set for an owner is left as it is. -/
  settled : ∀ {kind owner controlled references},
    setControllerReference kind owner controlled = .ok references →
      ∀ again, again.ns = controlled.ns → again.ownerReferences = references →
        setControllerReference kind owner again = .ok references
  /-- It succeeds for an owner of the same namespace or of the cluster, if no other object is
  the controller. -/
  succeeds : ∀ {kind owner controlled}, (owner.ns = "" ∨ owner.ns = controlled.ns) →
    (∀ reference ∈ controlled.ownerReferences, ¬ reference.ControlledByOther kind owner) →
      ∃ references, setControllerReference kind owner controlled = .ok references
  /-- It fails with an error if another object is the controller. -/
  refuses : ∀ {kind owner controlled},
    (∃ reference ∈ controlled.ownerReferences, reference.ControlledByOther kind owner) →
      ∃ failure, setControllerReference kind owner controlled = .error (.error failure)

/-- What else `SetControllerReference` is documented to do. -/
structure ControllerRuntime.Documented (runtime : ControllerRuntime) : Prop where
  /-- It returns. -/
  returns : ∀ kind owner controlled,
    runtime.setControllerReference kind owner controlled ≠ .error .nilDereference
  /-- It looks at the name, the namespace and the identifier of an owner only. -/
  identity : ∀ kind {owner other : ObjectMeta} (controlled : ObjectMeta),
    owner.name = other.name → owner.ns = other.ns → owner.uid = other.uid →
      runtime.setControllerReference kind owner controlled =
        runtime.setControllerReference kind other controlled
  /-- The owner is the controller afterwards. -/
  controls : ∀ {kind owner controlled references},
    runtime.setControllerReference kind owner controlled = .ok references →
      { kind, name := owner.name, uid := owner.uid, controller := true } ∈ references
  /-- No other reference is added. -/
  adds : ∀ {kind owner controlled references},
    runtime.setControllerReference kind owner controlled = .ok references →
      ∀ reference ∈ references, reference ∈ controlled.ownerReferences ∨
        reference = { kind, name := owner.name, uid := owner.uid, controller := true }

/-- The result of a reconciliation: whether the request is queued again. -/
structure Result where
  requeue : Bool := false
  deriving DecidableEq

/-- `Result.IsZero`. -/
def Result.isZero (result : Result) : Bool := !result.requeue

/-- What `CreateOrUpdate` did. -/
inductive OperationResult where
  | none
  | created
  | updated
  deriving DecidableEq

/-- `controllerutil.CreateOrUpdate` for a Service. -/
def createOrUpdate (service : Service) (mutate : Service → Except Failure Service) :
    Prog OperationResult :=
  .call (.getService service.metadata.key) fun reply =>
    match reply with
    | .ok existing => do
      let mutated ← Program.lift (mutate existing)
      if mutated = existing then
        return .none
      let _ ← ask (.updateService mutated)
      return .updated
    | .error failure =>
      if failure.reason = .notFound then do
        let mutated ← Program.lift (mutate service)
        let _ ← ask (.createService mutated)
        return .created
      else Program.fail (.error (.call failure))

/-- Whether an error is a conflict with another write. -/
def Failure.isConflict : Failure → Bool
  | .error (.call failure) => failure.reason = .conflict
  | _ => false

/-- `retry.RetryOnConflict` with a number of attempts. -/
def retryOnConflict {α : Type} (body : Prog α) : Nat → Prog α
  | 0 => body
  | retries + 1 => do
    match ← body.attempt with
    | .ok value => return value
    | .error failure =>
      if failure.isConflict then retryOnConflict body retries else Program.fail failure

/-- Attempts that `retry.DefaultRetry` makes after the first. -/
def defaultRetries : Nat := 4

end ListenerOperator
