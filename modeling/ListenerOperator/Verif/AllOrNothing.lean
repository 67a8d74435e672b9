import ListenerOperator.Verif.Addresses
import ListenerOperator.Verif.Service

/-!
# Reconciliation in one piece

A reconciliation either writes the Service, or writes the status, or fails and has written neither.
Any of its calls may fail on the way: the run is served by a session in which each call has its
turn, with an error that is set for that turn or with the answer of the API server. The one way in
which a run escapes this is the nil dereference of the status computation.
-/

namespace ListenerOperator

open Interaction Outcome MergePatch Keyed

/-- A cluster and the number of calls that were made so far. -/
structure Session where
  cluster : Cluster
  made : Nat := 0

/-- The session after one more call, which left a cluster. -/
def Session.next (session : Session) (cluster : Cluster) : Session :=
  { cluster, made := session.made + 1 }

/-- The answer to a call in a session: the error that is set for its turn, or the answer of the
API server of that turn. A call that fails changes nothing. -/
def serveFailing (api : Nat → ApiServer) (faults : Nat → Option CallError) (request : Call)
    (session : Session) : Reply request × Session :=
  match faults session.made with
  | some failure => (.error failure, session.next session.cluster)
  | none => ((serve (api session.made) request session.cluster).1,
      session.next (serve (api session.made) request session.cluster).2)

section Failing

variable (api : Nat → ApiServer) (faults : Nat → Option CallError)

/-- A call fails without an effect or is served. -/
theorem serveFailing_cases (request : Call) (session : Session) :
    (∃ failure, serveFailing api faults request session =
      (.error failure, session.next session.cluster)) ∨
    faults session.made = none ∧ serveFailing api faults request session =
      ((serve (api session.made) request session.cluster).1,
        session.next (serve (api session.made) request session.cluster).2) := by
  rw [serveFailing]
  cases faults session.made with
  | some failure => exact Or.inl ⟨failure, rfl⟩
  | none => exact Or.inr ⟨rfl, rfl⟩

/-- A program that only reads, and returns an error when a call fails. -/
def Reading {α : Type} : Prog α → Prop
  | .done _ => True
  | .call request next => request.kind = .read ∧
    (∀ failure, ∃ error, next (.error failure) = .done (.error (.error error))) ∧
      ∀ value, Reading (next (.ok value))

/-- A sequence of reading programs. -/
theorem Reading.bind {α β : Type} {program : Prog α} {rest : α → Prog β}
    (first : Reading program) (second : ∀ value, Reading (rest value)) :
    Reading (program >>= rest) := by
  induction program with
  | done outcome =>
    cases outcome with
    | ok value => exact second value
    | error failure => trivial
  | call request next ih =>
    obtain ⟨reads, fails, continues⟩ := first
    refine ⟨reads, fun failure => ?_, fun value => ih (.ok value) (continues value)⟩
    obtain ⟨error, same⟩ := fails failure
    exact ⟨error, congrArg (Program.bind · rest) same⟩

/-- A single read. -/
theorem reading_ask {request : Call} (reads : request.kind = .read) : Reading (ask request) :=
  ⟨reads, fun failure => ⟨.call failure, rfl⟩, fun _ => trivial⟩

/-- A computed outcome. -/
theorem reading_lift {α : Type} (outcome : Except Failure α) :
    Reading (Program.lift outcome : Prog α) := trivial

/-- A reading program changes nothing, and ends as on a server on which nothing fails or in a
returned error. -/
theorem Reading.run {α : Type} {program : Prog α} (reading : Reading program) (server : ApiServer)
    (session : Session) :
    (program.run (serveFailing api faults) session).2.cluster = session.cluster ∧
      ((program.run (serveFailing api faults) session).1 =
          (program.run (ListenerOperator.serve server) session.cluster).1 ∨
        ∃ error, (program.run (serveFailing api faults) session).1 = .error (.error error)) := by
  induction program generalizing session with
  | done outcome => exact ⟨rfl, Or.inl rfl⟩
  | call request next ih =>
    obtain ⟨reads, fails, continues⟩ := reading
    rw [Program.run_call, Program.run_call]
    rcases serveFailing_cases api faults request session with
      ⟨failure, failed⟩ | ⟨-, served⟩
    · obtain ⟨error, same⟩ := fails failure
      rw [failed, same]
      exact ⟨rfl, Or.inr ⟨error, rfl⟩⟩
    · rw [served, serve_read_reply _ server _ _ reads, serve_read _ _ _ reads,
        serve_read _ _ _ reads]
      cases (serve server request session.cluster).1 with
      | error failure =>
        obtain ⟨error, same⟩ := fails failure
        rw [same]
        exact ⟨rfl, Or.inl rfl⟩
      | ok value => exact ih (.ok value) (continues value) (session.next session.cluster)

variable {api faults}

/-- A run that returns an error and has changed nothing. -/
def Session.Fails {α : Type} (session : Session) (run : Except Failure α × Session) : Prop :=
  ∃ error after, run = (.error (.error error), after) ∧ after.cluster = session.cluster

/-- A sequence fails with its first part. -/
theorem Session.Fails.bind {α β : Type} {session : Session} {program : Prog α}
    (rest : α → Prog β)
    (fails : session.Fails (program.run (serveFailing api faults) session)) :
    session.Fails ((program >>= rest).run (serveFailing api faults) session) := by
  obtain ⟨error, after, ran, same⟩ := fails
  exact ⟨error, after, Program.run_bind_error _ ran, same⟩

variable (api faults)

/-- A call that the server of its turn answers by a value fails, or returns that value. -/
theorem ask_failing_ok {request : Call} {session : Session} {value : Value request}
    {after : Cluster}
    (answered : serve (api session.made) request session.cluster = (.ok value, after)) :
    session.Fails ((ask request).run (serveFailing api faults) session) ∨
      (ask request).run (serveFailing api faults) session = (.ok value, session.next after) := by
  rcases serveFailing_cases api faults request session with ⟨failure, failed⟩ | ⟨-, served⟩
  · exact Or.inl ⟨_, _, run_ask_error _ failed, rfl⟩
  · rw [answered] at served
    exact Or.inr (run_ask_ok _ served)

/-- A call that the server of its turn refuses fails. -/
theorem ask_failing_error {request : Call} {session : Session} {failure : CallError}
    (refused : serve (api session.made) request session.cluster =
      (.error failure, session.cluster)) :
    session.Fails ((ask request).run (serveFailing api faults) session) := by
  rcases serveFailing_cases api faults request session with ⟨failure, failed⟩ | ⟨-, served⟩
  · exact ⟨_, _, run_ask_error _ failed, rfl⟩
  · rw [refused] at served
    exact ⟨_, _, run_ask_error _ served, rfl⟩

/-- A Service that is created is stored, or nothing happens. -/
theorem createService_ask_failing (session : Session) (sent : Service) :
    session.Fails ((ask (.createService sent)).run (serveFailing api faults) session) ∨
      ∃ server stored after, session.cluster.services.get sent.metadata.key = none ∧
        Stored server sent stored ∧
        (ask (.createService sent)).run (serveFailing api faults) session = (.ok stored, after) ∧
        after.cluster = session.cluster.storeService stored := by
  cases present : session.cluster.services.get sent.metadata.key with
  | some existing =>
    have refused : serve (api session.made) (.createService sent) session.cluster =
        (.error (serverError .alreadyExists "already exists"), session.cluster) := by
      simp only [serve, present]
    exact Or.inl (ask_failing_error api faults refused)
  | none =>
    rcases serve_createService (api session.made) present with
      ⟨failure, -, refused⟩ | ⟨stored, kept, created⟩
    · exact Or.inl (ask_failing_error api faults refused)
    · refine (ask_failing_ok api faults created).imp_right fun ran => ?_
      exact ⟨_, stored, _, rfl, kept, ran, rfl⟩

/-- A stored Service that is updated is stored, or nothing happens. -/
theorem updateService_ask_failing {session : Session} {sent existing : Service}
    (present : session.cluster.services.get sent.metadata.key = some existing)
    (version : existing.metadata.resourceVersion = sent.metadata.resourceVersion) :
    session.Fails ((ask (.updateService sent)).run (serveFailing api faults) session) ∨
      ∃ server stored after, Stored server sent stored ∧
        (ask (.updateService sent)).run (serveFailing api faults) session = (.ok stored, after) ∧
        after.cluster = session.cluster.storeService stored := by
  rcases serve_updateService (api session.made) present version with
    ⟨failure, -, refused⟩ | ⟨stored, kept, updated⟩
  · exact Or.inl (ask_failing_error api faults refused)
  · refine (ask_failing_ok api faults updated).imp_right fun ran => ?_
    exact ⟨_, stored, _, kept, ran, rfl⟩

section Update

variable {service : Service} {mutate : Service → Except Failure Service}

/-- A failed computation is a failure, if it is no nil dereference. -/
theorem Session.fails_lift {α β : Type} (session : Session) {outcome : Except Failure α}
    {failure : Failure} (failed : outcome = .error failure) (rest : α → Prog β)
    (ordinary : outcome ≠ .error .nilDereference) :
    session.Fails ((Program.lift outcome >>= rest).run (serveFailing api faults) session) := by
  cases failure with
  | nilDereference => exact absurd failed ordinary
  | error error =>
    rw [failed]
    exact ⟨error, session, rfl, rfl⟩

/-- The second part of `createOrUpdate` for a Service that was not found. -/
theorem create_failing (session : Session)
    (keyed : ∀ {mutated}, mutate service = .ok mutated →
      mutated.metadata.key = service.metadata.key)
    (ordinary : mutate service ≠ .error .nilDereference)
    {run : Except Failure OperationResult × Session}
    (ran : run = ((do
      let mutated ← Program.lift (mutate service)
      let _ ← ask (.createService mutated)
      return OperationResult.created) : Prog OperationResult).run (serveFailing api faults)
        session) :
    session.Fails run ∨ ∃ server base sent stored operation after, operation ≠ .none ∧
      session.cluster.UpdatesFrom service base ∧ mutate base = .ok sent ∧
      Stored server sent stored ∧ run = (.ok operation, after) ∧
      after.cluster = session.cluster.storeService stored := by
  cases mutation : mutate service with
  | error failure =>
    rw [ran]
    exact Or.inl (session.fails_lift api faults mutation _ ordinary)
  | ok sent =>
    rw [mutation, Program.lift_eq, Program.done_ok_bind] at ran
    rcases createService_ask_failing api faults session sent with
      fails | ⟨server, stored, after, absent, kept, created, same⟩
    · rw [ran]
      exact Or.inl (fails.bind _)
    · rw [keyed mutation] at absent
      refine Or.inr ⟨server, service, sent, stored, .created, after, by simp,
        Or.inr ⟨absent, rfl⟩, mutation, kept, ?_, same⟩
      rw [ran, Program.run_bind_ok _ created]
      rfl

/-- The second part of `createOrUpdate` for a Service that was found. -/
theorem update_failing (session : Session) {existing : Service}
    (described : session.cluster.services.get service.metadata.key = some existing)
    (keyed : ∀ {mutated}, mutate existing = .ok mutated →
      mutated.metadata.key = existing.metadata.key)
    (versioned : ∀ {mutated}, mutate existing = .ok mutated →
      mutated.metadata.resourceVersion = existing.metadata.resourceVersion)
    (ordinary : mutate existing ≠ .error .nilDereference)
    {run : Except Failure OperationResult × Session}
    (ran : run = ((do
      let mutated ← Program.lift (mutate existing)
      if mutated = existing then
        return .none
      let _ ← ask (.updateService mutated)
      return OperationResult.updated) : Prog OperationResult).run (serveFailing api faults)
        session) :
    session.Fails run ∨
    (mutate existing = .ok existing ∧ run = (.ok .none, session)) ∨
    ∃ server base sent stored operation after, operation ≠ .none ∧
      session.cluster.UpdatesFrom service base ∧ mutate base = .ok sent ∧
      Stored server sent stored ∧ run = (.ok operation, after) ∧
      after.cluster = session.cluster.storeService stored := by
  cases mutation : mutate existing with
  | error failure =>
    rw [ran]
    exact Or.inl (session.fails_lift api faults mutation _ ordinary)
  | ok sent =>
    rw [mutation, Program.lift_eq, Program.done_ok_bind] at ran
    by_cases settled : sent = existing
    · rw [if_pos settled] at ran
      exact Or.inr (Or.inl ⟨by rw [settled], ran⟩)
    · rw [if_neg settled] at ran
      have present : session.cluster.services.get sent.metadata.key = some existing := by
        rw [keyed mutation, session.cluster.services.keyed described]
        exact described
      rcases updateService_ask_failing api faults present (versioned mutation).symm with
        fails | ⟨server, stored, after, kept, updated, same⟩
      · rw [ran]
        exact Or.inl (fails.bind _)
      · refine Or.inr (Or.inr ⟨server, existing, sent, stored, .updated, after, by simp,
          Or.inl described, mutation, kept, ?_, same⟩)
        rw [ran, Program.run_bind_ok _ updated]
        rfl

end Update

/-- What a run of `createOrUpdate` does in a session: it fails without an effect, finds nothing to
change, or stores the mutated Service. -/
theorem createOrUpdate_failing (session : Session) (service : Service)
    {mutate : Service → Except Failure Service}
    (keyed : ∀ {base mutated}, mutate base = .ok mutated →
      mutated.metadata.key = base.metadata.key)
    (versioned : ∀ {base mutated}, mutate base = .ok mutated →
      mutated.metadata.resourceVersion = base.metadata.resourceVersion)
    (ordinary : ∀ base, base.metadata.key = service.metadata.key →
      mutate base ≠ .error .nilDereference) :
    session.Fails ((createOrUpdate service mutate).run (serveFailing api faults) session) ∨
    (∃ existing after, session.cluster.services.get service.metadata.key = some existing ∧
      mutate existing = .ok existing ∧
      (createOrUpdate service mutate).run (serveFailing api faults) session = (.ok .none, after) ∧
      after.cluster = session.cluster) ∨
    ∃ server base sent stored operation after, operation ≠ .none ∧
      session.cluster.UpdatesFrom service base ∧ mutate base = .ok sent ∧
      Stored server sent stored ∧
      (createOrUpdate service mutate).run (serveFailing api faults) session =
        (.ok operation, after) ∧ after.cluster = session.cluster.storeService stored := by
  have creates := create_failing api faults (session.next session.cluster) keyed
    (ordinary service rfl) rfl
  rcases serveFailing_cases api faults (.getService service.metadata.key) session with
    ⟨failure, failed⟩ | ⟨-, served⟩
  · rw [createOrUpdate, Program.run_call, failed]
    by_cases missing : failure.reason = .notFound
    · simp only [missing, ↓reduceIte]
      exact creates.imp_right Or.inr
    · simp only [missing, ↓reduceIte]
      exact Or.inl ⟨.call failure, _, rfl, rfl⟩
  · rw [createOrUpdate, Program.run_call, served]
    cases described : session.cluster.services.get service.metadata.key with
    | none =>
      simp only [serve, described, found_none, ↓reduceIte]
      exact creates.imp_right Or.inr
    | some existing =>
      have key : existing.metadata.key = service.metadata.key :=
        session.cluster.services.keyed described
      simp only [serve, described, found_some]
      rcases update_failing api faults (session.next session.cluster) described keyed versioned
        (ordinary existing key) rfl with fails | ⟨fixed, ran⟩ | written
      · exact Or.inl fails
      · exact Or.inr (Or.inl ⟨existing, _, rfl, fixed, ran, rfl⟩)
      · exact Or.inr (Or.inr written)

/-- The mutation of a Service of the Listener's key fails with an error that is returned. -/
theorem mutateService_ordinary (runtime : ControllerRuntime) {listener : Listener}
    (desired : Service) {base : Service} (key : base.metadata.key = listener.metadata.key) :
    mutateService runtime listener desired base ≠ .error .nilDereference := by
  intro failed
  have ns : listener.metadata.ns = base.metadata.ns := (congrArg ObjectKey.ns key).symm
  rcases bind_eq_error.mp failed with refused | ⟨_, _, impossible⟩
  · by_cases other : ∃ reference ∈ base.metadata.ownerReferences,
        reference.ControlledByOther "Listener" listener.metadata
    · obtain ⟨failure, same⟩ := runtime.refuses other
      rw [same] at refused
      cases refused
    · have free : ∀ reference ∈ base.metadata.ownerReferences,
          ¬ reference.ControlledByOther "Listener" listener.metadata :=
        fun reference listed controlled => other ⟨reference, listed, controlled⟩
      obtain ⟨references, same⟩ := runtime.succeeds (Or.inr ns) free
      rw [same] at refused
      cases refused
  · cases impossible

/-- What a run of `createService` does in a session: it fails without an effect, finds the Service
as it should be, or stores it and asks to be run again. -/
theorem createService_failing (runtime : ControllerRuntime) (session : Session)
    (listener : Listener)
    (admitted : ∀ listenerClass, session.cluster.listenerClasses.get listener.spec.className =
      some listenerClass → listenerClass.Admitted) :
    session.Fails ((createService runtime listener).run (serveFailing api faults) session) ∨
    ∃ listenerClass desired, session.cluster.Wants listener listenerClass desired ∧
      ((∃ existing after, session.cluster.services.get listener.metadata.key = some existing ∧
        mutateService runtime listener desired existing = .ok existing ∧
        (createService runtime listener).run (serveFailing api faults) session = (.ok {}, after) ∧
        after.cluster = session.cluster) ∨
      ∃ server base sent stored after, session.cluster.UpdatesFrom desired base ∧
        mutateService runtime listener desired base = .ok sent ∧ Stored server sent stored ∧
        (createService runtime listener).run (serveFailing api faults) session =
          (.ok { requeue := true }, after) ∧
        after.cluster = session.cluster.storeService stored) := by
  cases classed : session.cluster.listenerClasses.get listener.spec.className with
  | none =>
    have refused : serve (api session.made) (.getListenerClass { name := listener.spec.className })
        session.cluster = (.error ⟨.notFound, "not found"⟩, session.cluster) := by
      simp [serve, classed]
    exact Or.inl ((ask_failing_error api faults refused).bind _)
  | some listenerClass =>
    have answered : serve (api session.made)
        (.getListenerClass { name := listener.spec.className }) session.cluster =
          (.ok listenerClass, session.cluster) := by
      simp [serve, classed]
    rcases ask_failing_ok api faults answered with fails | read
    · exact Or.inl (fails.bind _)
    by_cases ported : servicePorts listener = []
    · refine Or.inl ⟨.text (noPortsMessage listener), session.next session.cluster, ?_, rfl⟩
      rw [createService, getListenerClass, Program.run_bind_ok _ read, if_pos ported]
      rfl
    obtain ⟨type, typed, -⟩ := (admitted listenerClass classed).serviceType
    obtain ⟨desired, wanted⟩ := exists_desiredService listener typed
    have wants : session.cluster.Wants listener listenerClass desired := ⟨classed, ported, wanted⟩
    have key := desiredService_key wanted
    have run : (createService runtime listener).run (serveFailing api faults) session =
        ((createOrUpdate desired (mutateService runtime listener desired)) >>= fun operation =>
          if operation ≠ .none then return { requeue := true } else return {} : Prog Result).run
            (serveFailing api faults) (session.next session.cluster) := by
      rw [createService, getListenerClass, Program.run_bind_ok _ read, if_neg ported, wanted]
      rfl
    have ordinary : ∀ base : Service, base.metadata.key = desired.metadata.key →
        mutateService runtime listener desired base ≠ .error .nilDereference :=
      fun base same => mutateService_ordinary runtime desired (same.trans key)
    rcases createOrUpdate_failing api faults (session.next session.cluster) desired
        mutateService_key mutateService_version ordinary with
      fails | ⟨existing, after, described, fixed, ran, same⟩ |
      ⟨server, base, sent, stored, operation, after, changed, based, mutation, kept, ran, same⟩
    · rw [run]
      exact Or.inl (fails.bind _)
    · rw [key] at described
      refine Or.inr ⟨listenerClass, desired, wants,
        Or.inl ⟨existing, after, described, fixed, ?_, same⟩⟩
      rw [run, Program.run_bind_ok _ ran]
      rfl
    · refine Or.inr ⟨listenerClass, desired, wants,
        Or.inr ⟨server, base, sent, stored, after, based, mutation, kept, ?_, same⟩⟩
      rw [run, Program.run_bind_ok _ ran, if_pos changed]
      rfl

/-- The loop over node names only reads. -/
theorem reading_nodeAddresses (nodeNames : List String) : Reading (nodeAddresses nodeNames) := by
  induction nodeNames with
  | nil => trivial
  | cons nodeName nodeNames ih =>
    refine (reading_ask rfl).bind fun node => (reading_lift _).bind fun address => ih.bind ?_
    exact fun addresses => trivial

/-- The addresses of a Service's nodes are only read. -/
theorem reading_getNodesAddresses (service : Service) : Reading (getNodesAddresses service) := by
  refine Reading.bind ⟨rfl, fun failure => ⟨_, rfl⟩, fun slices => trivial⟩ ?_
  exact fun nodeNames => reading_nodeAddresses nodeNames

/-- The status computation only reads. -/
theorem reading_listenerStatus (listener : Listener) : Reading (listenerStatus listener) := by
  refine (reading_ask rfl).bind fun service => Reading.bind ?_ fun preferred => ?_
  · exact (reading_ask rfl).bind fun listenerClass => reading_lift _
  · cases service.spec.type with
    | nodePort =>
      refine (reading_lift _).bind fun ports => ?_
      refine (reading_getNodesAddresses service).bind fun addresses => ?_
      exact (reading_lift _).bind fun ingressAddresses => trivial
    | loadBalancer =>
      refine (reading_lift _).bind fun addresses => ?_
      exact (reading_lift _).bind fun ingressAddresses => trivial
    | clusterIP =>
      by_cases ip : preferred = .ip
      · simp only [ip, ↓reduceIte]
        refine (reading_lift _).bind fun addresses => ?_
        exact (reading_lift _).bind fun ingressAddresses => trivial
      · simp only [ip, ↓reduceIte]
        trivial
    | externalName => exact reading_lift _

/-- One attempt to write a status fails without an effect or stores the status. -/
theorem writeStatus_failing {session : Session} {listener current : Listener}
    (stored : session.cluster.listeners.get listener.metadata.key = some current)
    (status : ListenerStatus) :
    session.Fails ((writeStatus listener status).run (serveFailing api faults) session) ∨
      ∃ after, (writeStatus listener status).run (serveFailing api faults) session =
        (.ok (), after) ∧ after.cluster = session.cluster.storeStatus current status := by
  have read : serve (api session.made) (.getListener listener.metadata.key) session.cluster =
      (.ok current, session.cluster) := by
    simp [serve, stored]
  rcases ask_failing_ok api faults read with fails | answered
  · exact Or.inl (fails.bind _)
  have present : session.cluster.listeners.get current.metadata.key = some current := by
    rw [session.cluster.listeners.keyed stored]
    exact stored
  obtain ⟨written, found, -⟩ := session.cluster.storeStatus_get current status present
  have write : serve (api (session.made + 1)) (.updateListenerStatus { current with status })
      session.cluster = (.ok written, session.cluster.storeStatus current status) := by
    simp [serve, present, found]
  rw [writeStatus, Program.run_bind_ok _ answered]
  have answer : session.Fails ((ask (.updateListenerStatus { current with status })).run
        (serveFailing api faults) (session.next session.cluster)) ∨ _ :=
    ask_failing_ok api faults write
  rcases answer with fails | updated
  · exact Or.inl (fails.bind _)
  · exact Or.inr ⟨_, Program.run_bind_ok _ updated, rfl⟩

/-- A body that fails without an effect or leaves a given cluster is retried to the same end. -/
theorem retryOnConflict_failing {α : Type} {body : Prog α} {cluster written : Cluster}
    (attempted : ∀ session : Session, session.cluster = cluster →
      session.Fails (body.run (serveFailing api faults) session) ∨
        ∃ value after, body.run (serveFailing api faults) session = (.ok value, after) ∧
          after.cluster = written)
    (retries : Nat) (session : Session) (same : session.cluster = cluster) :
    session.Fails ((retryOnConflict body retries).run (serveFailing api faults) session) ∨
      ∃ value after, (retryOnConflict body retries).run (serveFailing api faults) session =
        (.ok value, after) ∧ after.cluster = written := by
  induction retries generalizing session with
  | zero => exact attempted session same
  | succ retries ih =>
    rw [retryOnConflict, Program.run_bind, Program.run_attempt]
    rcases attempted session same with ⟨error, after, ran, unchanged⟩ | ⟨value, after, ran, holds⟩
    · rw [ran]
      by_cases conflict : (Failure.error error).isConflict = true
      · simp only [conflict, ↓reduceIte]
        refine (ih after (unchanged.trans same)).imp_left ?_
        rintro ⟨last, final, failed, still⟩
        exact ⟨last, final, failed, still.trans unchanged⟩
      · simp only [conflict]
        exact Or.inl ⟨error, after, rfl, unchanged⟩
    · rw [ran]
      exact Or.inr ⟨value, after, rfl, holds⟩

/-- What a run of `updateListenerStatus` does in a session: it fails without an effect, ends in the
nil dereference of the status computation, or stores the computed status. -/
theorem updateListenerStatus_failing (session : Session) {listener current : Listener}
    {service : Service} {listenerClass : ListenerClass}
    (described : session.cluster.services.get listener.metadata.key = some service)
    (classed : session.cluster.listenerClasses.get listener.spec.className = some listenerClass)
    (stored : session.cluster.listeners.get listener.metadata.key = some current) :
    session.Fails ((updateListenerStatus listener).run (serveFailing api faults) session) ∨
    listenerClass.preferredType >>= session.cluster.statusFor listener service =
      .error .nilDereference ∨
    ∃ status after,
      listenerClass.preferredType >>= session.cluster.statusFor listener service = .ok status ∧
      (updateListenerStatus listener).run (serveFailing api faults) session = (.ok (), after) ∧
      after.cluster = session.cluster.storeStatus current status := by
  obtain ⟨unchanged, outcome⟩ := (reading_listenerStatus listener).run api faults (api 0) session
  rw [listenerStatus_run _ described classed] at outcome
  rcases computed : (listenerStatus listener).run (serveFailing api faults) session with
    ⟨result, middle⟩
  rw [computed] at unchanged outcome
  rcases outcome with rfl | ⟨error, rfl⟩
  · cases outcome : listenerClass.preferredType >>= session.cluster.statusFor listener service with
    | error failure =>
      rw [outcome] at computed
      cases failure with
      | nilDereference => exact Or.inr (Or.inl rfl)
      | error error => exact Or.inl (Session.Fails.bind _ ⟨error, middle, computed, unchanged⟩)
    | ok status =>
      rw [outcome] at computed
      have attempted : ∀ attempt : Session, attempt.cluster = session.cluster →
          attempt.Fails ((writeStatus listener status).run (serveFailing api faults) attempt) ∨
            ∃ value after, (writeStatus listener status).run (serveFailing api faults) attempt =
              (.ok value, after) ∧
                after.cluster = session.cluster.storeStatus current status := by
        intro attempt same
        rw [← same] at stored ⊢
        exact (writeStatus_failing api faults stored status).imp_right fun ⟨after, written⟩ =>
          ⟨(), after, written⟩
      rw [updateListenerStatus, Program.run_bind_ok _ computed]
      rcases retryOnConflict_failing api faults attempted defaultRetries middle unchanged with
        ⟨error, after, failed, same⟩ | ⟨⟨⟩, after, ran, written⟩
      · exact Or.inl ⟨error, after, failed, same.trans unchanged⟩
      · exact Or.inr (Or.inr ⟨status, after, rfl, ran, written⟩)
  · exact Or.inl (Session.Fails.bind _ ⟨error, middle, computed, unchanged⟩)

end Failing

/-- The stored Service of a Listener has the fields that the Listener and its class ask for, and is
controlled by the Listener. -/
def Cluster.Carries (runtime : ControllerRuntime) (cluster : Cluster) (listener : Listener) :
    Prop :=
  ∃ listenerClass desired service, cluster.Wants listener listenerClass desired ∧
    cluster.services.get listener.metadata.key = some service ∧ service.Carries desired ∧
      runtime.setControllerReference "Listener" listener.metadata service.metadata =
        .ok service.metadata.ownerReferences

/-- The status of a Listener, and nothing else of the Listeners, is replaced by the one that is
computed from the stored Service. -/
def Cluster.StatusReplaced (cluster after : Cluster) (listener : Listener) : Prop :=
  ∃ service listenerClass preferred status resourceVersion,
    cluster.services.get listener.metadata.key = some service ∧
    cluster.listenerClasses.get listener.spec.className = some listenerClass ∧
    listenerClass.preferredType = .ok preferred ∧
    cluster.statusFor listener service preferred = .ok status ∧
    (service.spec.type ≠ .nodePort → status.nodePorts = ∅) ∧
    after.listeners.get listener.metadata.key = some { listener with
      metadata := { listener.metadata with resourceVersion }, status } ∧
    ∀ key, key ≠ listener.metadata.key → after.listeners.get key = cluster.listeners.get key

/-- The ways in which a reconciliation is to end. -/
inductive Ending where
  /-- An error of `createService`. -/
  | serviceFailed
  /-- An error of `updateListenerStatus`. -/
  | statusFailed
  /-- A request to be run again. -/
  | requeued
  /-- The zero result. -/
  | finished
  deriving DecidableEq

/-- A reconciliation of a stored Listener ends in one of these ways, in a session whose first call
reads the Listener. -/
def Ended (runtime : ControllerRuntime) (api : Nat → ApiServer) (faults : Nat → Option CallError)
    (cluster : Cluster) (listener : Listener) (ending : Ending) : Prop :=
  let service := (createService runtime listener).run (serveFailing api faults) ⟨cluster, 1⟩
  let status := (updateListenerStatus listener).run (serveFailing api faults) service.2
  let run := (reconcile runtime listener.metadata.key).run (serveFailing api faults) ⟨cluster, 0⟩
  match ending with
  | .serviceFailed =>
    (∃ error, service.1 = .error (.error error) ∧ run.1 = .error (.error error)) ∧
      run.2.cluster.services = cluster.services ∧ run.2.cluster.listeners = cluster.listeners
  | .statusFailed =>
    (∃ error, service.1 = .ok {} ∧ status.1 = .error (.error error) ∧
      run.1 = .error (.error error)) ∧ cluster.Carries runtime listener ∧
      run.2.cluster.services = cluster.services ∧ run.2.cluster.listeners = cluster.listeners
  | .requeued =>
    run.1 = .ok { requeue := true } ∧ run.2.cluster.Carries runtime listener ∧
      run.2.cluster.listeners = cluster.listeners
  | .finished =>
    run.1 = .ok {} ∧ cluster.Carries runtime listener ∧
      run.2.cluster.services = cluster.services ∧ cluster.StatusReplaced run.2.cluster listener

/-- A Service that the update leaves as it is is controlled by the Listener. -/
theorem controlled_of_fixed {runtime : ControllerRuntime} {listener : Listener}
    {desired service : Service}
    (fixed : mutateService runtime listener desired service = .ok service) :
    runtime.setControllerReference "Listener" listener.metadata service.metadata =
      .ok service.metadata.ownerReferences := by
  obtain ⟨references, set, same⟩ := mutateService_ok fixed
  have owners : service.metadata.ownerReferences = references :=
    congrArg (fun service => service.metadata.ownerReferences) same
  rw [owners]
  exact set

/-- A Service that was stored for an update is controlled by the Listener. -/
theorem controlled_of_stored {runtime : ControllerRuntime} {api : ApiServer} {listener : Listener}
    {desired base sent stored : Service}
    (mutation : mutateService runtime listener desired base = .ok sent)
    (kept : Stored api sent stored) :
    runtime.setControllerReference "Listener" listener.metadata stored.metadata =
      .ok stored.metadata.ownerReferences := by
  obtain ⟨references, set, rfl⟩ := mutateService_ok mutation
  obtain ⟨uid, resourceVersion, metadata⟩ := kept.metadata
  have owners : stored.metadata.ownerReferences = references := by rw [metadata]
  rw [owners]
  exact runtime.settled set _ (by rw [metadata]) owners

/-- A written status replaces the one before. -/
theorem Cluster.statusReplaced_storeStatus {cluster : Cluster} {listener : Listener}
    {service : Service} {listenerClass : ListenerClass} {status : ListenerStatus}
    (stored : cluster.listeners.get listener.metadata.key = some listener)
    (described : cluster.services.get listener.metadata.key = some service)
    (classed : cluster.listenerClasses.get listener.spec.className = some listenerClass)
    (computed : listenerClass.preferredType >>= cluster.statusFor listener service = .ok status) :
    cluster.StatusReplaced (cluster.storeStatus listener status) listener := by
  obtain ⟨preferred, resolved, found⟩ := bind_eq_ok.mp computed
  refine ⟨service, listenerClass, preferred, status, ?_⟩
  by_cases same : listener.status = status
  · refine ⟨listener.metadata.resourceVersion, described, classed, resolved, found,
      fun other => Cluster.statusFor_other other found, ?_, ?_⟩
    · rw [Cluster.storeStatus, if_pos same, stored, ← same]
    · rw [Cluster.storeStatus, if_pos same]
      exact fun _ _ => rfl
  · refine ⟨cluster.nextRevision, described, classed, resolved, found,
      fun other => Cluster.statusFor_other other found, ?_, ?_⟩
    · rw [Cluster.storeStatus, if_neg same]
      exact Store.get_insert_self _ _
    · intro key different
      rw [Cluster.storeStatus, if_neg same]
      exact (Store.get_insert _ _ _).trans (if_neg different)

section Reconciliation

variable {runtime : ControllerRuntime} {api : Nat → ApiServer} {faults : Nat → Option CallError}
  {cluster : Cluster} {listener : Listener}

/-- With the Listener read, the reconciliation is that of the Service and then of the status. -/
theorem reconcile_run_failing (runtime : ControllerRuntime) (api : Nat → ApiServer)
    (stored : cluster.listeners.get listener.metadata.key = some listener)
    (read : faults 0 = none) :
    (reconcile runtime listener.metadata.key).run (serveFailing api faults) ⟨cluster, 0⟩ =
      (createService runtime listener >>= fun result =>
        if !result.isZero then return result
        else do
          updateListenerStatus listener
          return {} : Prog Result).run (serveFailing api faults) ⟨cluster, 1⟩ := by
  have answered : serveFailing api faults (.getListener listener.metadata.key) ⟨cluster, 0⟩ =
      (.ok listener, ⟨cluster, 1⟩) := by
    simp [serveFailing, read, serve, stored, Session.next]
  rw [reconcile, Program.run_call, answered]

/-- A status computation that is pickable does not end in a nil dereference. -/
theorem statusFor_ordinary (listener : Listener) {service : Service} {listenerClass : ListenerClass}
    (admitted : listenerClass.Admitted) (pickable : cluster.Pickable service listenerClass) :
    listenerClass.preferredType >>= cluster.statusFor listener service ≠
      .error .nilDereference := by
  obtain ⟨type, typed, -⟩ := admitted.serviceType
  obtain ⟨preferred, resolved⟩ := ListenerClass.exists_preferredType typed
  rw [resolved, ok_bind]
  intro failed
  obtain ⟨address, listed, unpicked⟩ :=
    (cluster.statusFor_nil_iff listener service preferred).mp failed
  exact (cluster.picks_iff_pickable service admitted resolved).mpr pickable address listed unpicked

/-- The Service is as it should be, and the addresses that the status is made from can be
picked. -/
def Cluster.PickableWhenSettled (runtime : ControllerRuntime) (cluster : Cluster)
    (listener : Listener) : Prop :=
  ∀ service listenerClass desired, cluster.Wants listener listenerClass desired →
    cluster.services.get listener.metadata.key = some service →
    mutateService runtime listener desired service = .ok service →
      cluster.Pickable service listenerClass

/-- With pickable addresses the reconciliation ends in one of the four ways. -/
theorem exists_ended (stored : cluster.listeners.get listener.metadata.key = some listener)
    (admitted : ∀ listenerClass, cluster.listenerClasses.get listener.spec.className =
      some listenerClass → listenerClass.Admitted) (read : faults 0 = none)
    (pickable : cluster.PickableWhenSettled runtime listener) :
    ∃ ending, Ended runtime api faults cluster listener ending := by
  have run := reconcile_run_failing runtime api stored read
  rcases createService_failing api faults runtime ⟨cluster, 1⟩ listener admitted with
    ⟨error, after, failed, same⟩ | ⟨listenerClass, desired, wants, settled | written⟩
  · have ended := run.trans (Program.run_bind_error _ failed)
    refine ⟨.serviceFailed, ⟨error, ?_, ?_⟩, ?_, ?_⟩
    · rw [failed]
    · rw [ended]
    · rw [ended, same]
    · rw [ended, same]
  · obtain ⟨existing, after, described, fixed, ran, same⟩ := settled
    have carried : cluster.Carries runtime listener :=
      ⟨listenerClass, desired, existing, wants, described,
        Service.carries_of_fixed wants.wanted fixed, controlled_of_fixed fixed⟩
    have ordinary := statusFor_ordinary listener (admitted listenerClass wants.classed)
      (pickable existing listenerClass desired wants described fixed)
    rw [Program.run_bind_ok _ ran] at run
    obtain ⟨current, made⟩ := after
    obtain rfl : current = cluster := same
    rcases updateListenerStatus_failing api faults ⟨current, made⟩ described wants.classed
      stored with ⟨error, last, failed, unchanged⟩ | nil | ⟨status, last, computed, updated, written⟩
    · have ended := run.trans (Program.run_bind_error _ failed)
      refine ⟨.statusFailed, ⟨error, ?_, ?_, ?_⟩, carried, ?_, ?_⟩
      · rw [ran]
      · rw [ran, failed]
      · rw [ended]
      · rw [ended, unchanged]
      · rw [ended, unchanged]
    · exact absurd nil ordinary
    · have ended := run.trans (Program.run_bind_ok _ updated)
      refine ⟨.finished, ?_, carried, ?_, ?_⟩
      · rw [ended]
        rfl
      · have frame := congrArg Cluster.services (current.storeStatus_frame listener status)
        rw [ended]
        exact (congrArg Cluster.services written).trans frame
      · have replaced := Cluster.statusReplaced_storeStatus stored described wants.classed computed
        rw [← written] at replaced
        rw [ended]
        exact replaced
  · obtain ⟨server, base, sent, kept, after, based, mutation, isStored, ran, same⟩ := written
    have ended := run.trans (Program.run_bind_ok _ ran)
    refine ⟨.requeued, ?_, ?_, ?_⟩
    · rw [ended]
      rfl
    · rw [ended]
      have written : after.cluster.services.get listener.metadata.key = some kept := by
        rw [same]
        exact wants.stored_get based mutation isStored
      have classes : after.cluster.listenerClasses = cluster.listenerClasses := by
        rw [same]
        rfl
      refine ⟨listenerClass, desired, kept, ⟨?_, wants.ported, wants.wanted⟩, written, ?_,
        controlled_of_stored mutation isStored⟩
      · exact (congrArg (Store.get · listener.spec.className) classes).trans wants.classed
      · exact Service.carries_of_stored wants.wanted (admitted listenerClass wants.classed).policy
          mutation isStored
    · rw [ended]
      change after.cluster.listeners = cluster.listeners
      rw [same]
      rfl

/-- No two of the ways to end are those of one run. -/
theorem Ended.unique {first second : Ending}
    (left : Ended runtime api faults cluster listener first)
    (right : Ended runtime api faults cluster listener second) : first = second := by
  cases first with
  | serviceFailed =>
    obtain ⟨⟨error, service, result⟩, -⟩ := left
    cases second with
    | serviceFailed => rfl
    | statusFailed =>
      obtain ⟨⟨other, settled, -⟩, -⟩ := right
      cases service.symm.trans settled
    | requeued => cases result.symm.trans right.1
    | finished => cases result.symm.trans right.1
  | statusFailed =>
    obtain ⟨⟨error, settled, -, result⟩, -⟩ := left
    cases second with
    | serviceFailed =>
      obtain ⟨⟨other, service, -⟩, -⟩ := right
      cases service.symm.trans settled
    | statusFailed => rfl
    | requeued => cases result.symm.trans right.1
    | finished => cases result.symm.trans right.1
  | requeued =>
    cases second with
    | serviceFailed =>
      obtain ⟨⟨error, -, result⟩, -⟩ := right
      cases result.symm.trans left.1
    | statusFailed =>
      obtain ⟨⟨error, -, -, result⟩, -⟩ := right
      cases result.symm.trans left.1
    | requeued => rfl
    | finished => cases left.1.symm.trans right.1
  | finished =>
    cases second with
    | serviceFailed =>
      obtain ⟨⟨error, -, result⟩, -⟩ := right
      cases result.symm.trans left.1
    | statusFailed =>
      obtain ⟨⟨error, -, -, result⟩, -⟩ := right
      cases result.symm.trans left.1
    | requeued => cases left.1.symm.trans right.1
    | finished => rfl

/-- Without failing calls a run is that of the server. -/
theorem run_serveFailing_none {α : Type} (server : ApiServer) (program : Prog α)
    (session : Session) :
    (program.run (serveFailing (fun _ => server) fun _ => none) session).1 =
      (program.run (serve server) session.cluster).1 := by
  induction program generalizing session with
  | done outcome => rfl
  | call request next ih => exact ih _ _

/-- With a settled Service, addresses that cannot be picked end the reconciliation in a nil
dereference. -/
theorem reconcile_nilDereference (server : ApiServer) {service : Service}
    {listenerClass : ListenerClass} {desired : Service}
    (stored : cluster.listeners.get listener.metadata.key = some listener)
    (wants : cluster.Wants listener listenerClass desired)
    (described : cluster.services.get listener.metadata.key = some service)
    (fixed : mutateService runtime listener desired service = .ok service)
    (admitted : listenerClass.Admitted) (unpickable : ¬ cluster.Pickable service listenerClass) :
    ((reconcile runtime listener.metadata.key).run (serve server) cluster).1 =
      .error .nilDereference := by
  obtain ⟨type, typed, -⟩ := admitted.serviceType
  obtain ⟨preferred, resolved⟩ := ListenerClass.exists_preferredType typed
  have unpicked : ∃ address ∈ cluster.pickedAddresses service preferred,
      address.pick preferred = none := by
    by_contra picks
    refine unpickable ((cluster.picks_iff_pickable service admitted resolved).mp ?_)
    exact fun address listed missing => picks ⟨address, listed, missing⟩
  have computed := listenerStatus_run server described wants.classed
  rw [resolved, ok_bind, (cluster.statusFor_nil_iff listener service preferred).mpr unpicked]
    at computed
  have updated : (updateListenerStatus listener).run (serve server) cluster =
      (.error .nilDereference, cluster) := by
    rw [updateListenerStatus, Program.run_bind_error _ computed]
  have settled := (createService_settled server wants described fixed).1
  simp only [reconcile, Program.run_call, serve, stored, found_some]
  rw [Program.run_bind_ok _ settled, if_neg (by simp [Result.isZero]),
    Program.run_bind_error _ updated]

/-- A nil dereference is none of the ways to end. -/
theorem Ended.ordinary {ending : Ending} (ended : Ended runtime api faults cluster listener ending) :
    ((reconcile runtime listener.metadata.key).run (serveFailing api faults) ⟨cluster, 0⟩).1 ≠
      .error .nilDereference := by
  intro nil
  cases ending with
  | serviceFailed =>
    obtain ⟨⟨error, -, result⟩, -⟩ := ended
    cases nil.symm.trans result
  | statusFailed =>
    obtain ⟨⟨error, -, -, result⟩, -⟩ := ended
    cases nil.symm.trans result
  | requeued => cases nil.symm.trans ended.1
  | finished => cases nil.symm.trans ended.1

end Reconciliation

/-- A reconciliation with any of its calls failing ends in exactly one of the four ways, for all
choices of failing calls after the one that reads the Listener, exactly if the addresses can be
picked once the Service is as it should be. -/
theorem reconcile_allOrNothing_iff (runtime : ControllerRuntime) (cluster : Cluster)
    (listener : Listener) (stored : cluster.listeners.get listener.metadata.key = some listener)
    (admitted : ∀ listenerClass, cluster.listenerClasses.get listener.spec.className =
      some listenerClass → listenerClass.Admitted) :
    (∀ api faults, faults 0 = none → ∃! ending, Ended runtime api faults cluster listener ending) ↔
      cluster.PickableWhenSettled runtime listener := by
  constructor
  · intro ends service listenerClass desired wants described fixed
    obtain ⟨ending, ended, -⟩ := ends (fun _ => .filling "") (fun _ => none) rfl
    by_contra unpickable
    refine ended.ordinary ((run_serveFailing_none _ _ _).trans ?_)
    exact reconcile_nilDereference _ stored wants described fixed
      (admitted listenerClass wants.classed) unpickable
  · intro pickable api faults read
    obtain ⟨ending, ended⟩ := exists_ended stored admitted read pickable
    exact ⟨ending, ended, fun other otherEnded => otherEnded.unique ended⟩

/-- The cluster of `webListener` with a load balancer that has one ingress point, after a first
reconciliation. -/
def balancedCluster (ingress : LoadBalancerIngress) : Cluster :=
  ((reconcile .standard webListener.metadata.key).run (serve (.filling ""))
    (loadBalancerCluster ingress)).2

/-- The class of the cluster is an admitted one. -/
theorem balancedCluster_admitted (ingress : LoadBalancerIngress)
    (classed : (balancedCluster ingress).listenerClasses.get webListener.spec.className =
      some (webClass .loadBalancer .hostnameConservative)) :
    ∀ listenerClass, (balancedCluster ingress).listenerClasses.get webListener.spec.className =
      some listenerClass → listenerClass.Admitted := by
  intro listenerClass found
  obtain rfl := Option.some.inj (classed.symm.trans found)
  exact ⟨⟨.loadBalancer, rfl, by decide⟩, rfl⟩

/-- With a hostname, a reconciliation whose write of the status fails ends in exactly one of the
four ways. -/
theorem balanced_hostname_ends :
    ∃! ending, Ended .standard (fun _ => .filling "")
      (fun made => if made = 6 then some ⟨.other, "refused"⟩ else none)
      (balancedCluster { hostname := "lb.example.com" }) webListener ending := by
  have stored : (balancedCluster { hostname := "lb.example.com" }).listeners.get
      webListener.metadata.key = some webListener := by
    decide +kernel
  have classed : (balancedCluster { hostname := "lb.example.com" }).listenerClasses.get
      webListener.spec.className = some (webClass .loadBalancer .hostnameConservative) := by
    decide +kernel
  have balanced : ((balancedCluster { hostname := "lb.example.com" }).services.get
      webListener.metadata.key).map (fun service =>
        (service.spec.type, service.loadBalancerIngress)) =
      some (.loadBalancer, [{ hostname := "lb.example.com" }]) := by
    decide +kernel
  refine (reconcile_allOrNothing_iff .standard _ webListener stored
    (balancedCluster_admitted _ classed)).mpr ?_ _ _ rfl
  intro service listenerClass desired _ described _
  rw [described] at balanced
  obtain ⟨type, points⟩ := Prod.mk.inj (Option.some.inj balanced)
  refine Or.inr ?_
  rw [type]
  intro ingress listed
  rw [points] at listed
  rw [List.mem_singleton.mp listed]

/-- With an IP address, the reconciliation ends in none of the four ways, although no call
fails. -/
theorem balanced_ip_nilDereference :
    (balancedCluster { ip := "192.0.2.1" }).listeners.get webListener.metadata.key =
      some webListener ∧
    ((reconcile .standard webListener.metadata.key).run
      (serveFailing (fun _ => .filling "") fun _ => none)
      ⟨balancedCluster { ip := "192.0.2.1" }, 0⟩).1 = .error .nilDereference ∧
    ¬ ∃ ending, Ended .standard (fun _ => .filling "") (fun _ => none)
      (balancedCluster { ip := "192.0.2.1" }) webListener ending := by
  have nil : ((reconcile .standard webListener.metadata.key).run
      (serveFailing (fun _ => .filling "") fun _ => none)
      ⟨balancedCluster { ip := "192.0.2.1" }, 0⟩).1 = .error .nilDereference := by
    decide +kernel
  exact ⟨by decide +kernel, nil, fun ⟨_, ended⟩ => ended.ordinary nil⟩

end ListenerOperator
