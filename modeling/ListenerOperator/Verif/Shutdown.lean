import ListenerOperator.Verif.Lifecycle

/-!
# Orderly ends

When `Driver.Run` returns, what it has left behind, and that it returns once the server was told to
stop, in every interleaving of its goroutines, of calls that stop the server from outside and of
what the gRPC server does, as far as that is documented.
-/

namespace ListenerOperator

open Interaction

/-- The state of `plainServer`. -/
structure PlainState where
  told : Bool := false
  pending : Nat := 0
  closed : Bool := false

/-- A gRPC server that takes requests until it is told to stop, and then waits for them. -/
def plainServer : GrpcServer where
  State := PlainState
  new := {}
  serve state := state
  serveReturns before _ after := before.told = true ∧ after = { before with closed := true }
  stop _ state := { state with told := true }
  stopReturns _ before after := (before.told = true ∧ before.pending = 0) ∧ after = before
  runs before after :=
    (before.told = false ∧ after = { before with pending := before.pending + 1 }) ∨
      ∃ fewer, before.pending = fewer + 1 ∧ after = { before with pending := fewer }
  closed state := state.closed = true
  pending := PlainState.pending
  told state := state.told = true
  stopped state := state.told = true ∧ state.pending = 0

/-- The server does what is documented. -/
theorem plainServer_documented : plainServer.Documented where
  closes returns := by
    obtain ⟨-, rfl⟩ := returns
    rfl
  closed moves closed := by
    cases moves with
    | serve | stop => exact closed
    | serveReturns returns =>
      obtain ⟨-, rfl⟩ := returns
      rfl
    | stopReturns returns =>
      obtain ⟨-, rfl⟩ := returns
      exact closed
    | runs goes => rcases goes with ⟨-, rfl⟩ | ⟨fewer, -, rfl⟩ <;> exact closed
  stops returns := by
    obtain ⟨ends, rfl⟩ := returns
    exact ends
  stopped moves stopped := by
    cases moves with
    | serve => exact stopped
    | stop => exact ⟨rfl, stopped.2⟩
    | serveReturns returns =>
      obtain ⟨-, rfl⟩ := returns
      exact stopped
    | stopReturns returns =>
      obtain ⟨-, rfl⟩ := returns
      exact stopped
    | runs goes =>
      obtain ⟨told, idle⟩ := stopped
      rcases goes with ⟨running, -⟩ | ⟨fewer, flight, -⟩
      · rw [told] at running
        cases running
      · rw [idle] at flight
        cases flight
  idle stopped := stopped.2
  tells _ _ := rfl
  told moves told := by
    cases moves with
    | serve | stop => first | exact told | rfl
    | serveReturns returns =>
      obtain ⟨-, rfl⟩ := returns
      exact told
    | stopReturns returns =>
      obtain ⟨-, rfl⟩ := returns
      exact told
    | runs goes => rcases goes with ⟨-, rfl⟩ | ⟨fewer, -, rfl⟩ <;> exact told

/-- When it was told to stop, the server comes to rest and its methods return. -/
theorem plainServer_finishes : plainServer.Finishes where
  rests := by
    intro state told
    have bounded : ∀ bound (state : PlainState), state.told = true → state.pending = bound →
        Acc (fun after before => plainServer.runs before after) state := by
      intro bound
      induction bound with
      | zero =>
        intro state told idle
        refine ⟨_, fun after goes => ?_⟩
        rcases goes with ⟨running, -⟩ | ⟨fewer, flight, -⟩
        · rw [told] at running
          cases running
        · rw [idle] at flight
          cases flight
      | succ bound ih =>
        intro state told pending
        refine ⟨_, fun after goes => ?_⟩
        rcases goes with ⟨running, -⟩ | ⟨fewer, flight, rfl⟩
        · rw [told] at running
          cases running
        · exact ih _ told (by simp only; omega)
    exact bounded _ state told rfl
  returns := by
    intro state told rests
    have idle : PlainState.pending state = 0 := by
      cases pending : PlainState.pending state with
      | zero => rfl
      | succ fewer => exact absurd (Or.inr ⟨fewer, pending, rfl⟩) (rests _)
    exact ⟨⟨none, _, told, rfl⟩, fun _ => ⟨_, ⟨told, idle⟩, rfl⟩⟩

/-- The answer of a step when nothing fails, if it does not have to wait. -/
def proceed : (request : ServerCall) → ServerState plainServer →
    Option (ServerReply request × ServerState plainServer)
  | .socket (.remove _), state => some (.ok (), state)
  | .socket (.listen _ _), state => some (.ok (), { state with socket := .opened })
  | .setListener, state => some ((), { state with hasListener := true })
  | .add, state => some ((), { state with added := state.added + 1 })
  | .workDone, state => some ((), { state with finished := state.finished + 1 })
  | .wait, state => if state.added = state.finished then some ((), state) else none
  | .closeOnce, state => some ((), if state.closed then state else { state with
      closed := true
      socket := if state.hasListener then state.socket.close else state.socket })
  | .go goroutine, state =>
    some ((), { state with spawned := Function.update state.spawned goroutine true })
  | .begin goroutine, state => if state.spawned goroutine = true then some ((), state) else none
  | .contextDone, state => if state.cancelled = true then some ((), state) else none
  | .serve, state => some ((), { state with grpc := plainServer.serve state.grpc })
  | .serveReturned, state =>
    if PlainState.told state.grpc = true then
      some (none, { state with grpc := ({ state.grpc with closed := true } : PlainState) })
    else none
  | .stop graceful, state => some ((), { state with grpc := plainServer.stop graceful state.grpc })
  | .stopReturned _, state =>
    if PlainState.told state.grpc = true ∧ PlainState.pending state.grpc = 0 then some ((), state)
    else none

/-- An answer when nothing fails is one of the possible ones. -/
theorem lifecycle_proceed (request : ServerCall) (state : ServerState plainServer)
    (reply : ServerReply request) (after : ServerState plainServer)
    (proceeds : proceed request state = some (reply, after)) :
    lifecycle plainServer request state reply after := by
  cases request with
  | socket request => cases request <;> cases proceeds <;> rfl
  | wait | contextDone =>
    simp only [proceed, Option.ite_none_right_eq_some, Option.some.injEq, Prod.mk.injEq] at proceeds
    exact ⟨proceeds.1, proceeds.2.2.symm⟩
  | begin goroutine =>
    simp only [proceed, Option.ite_none_right_eq_some, Option.some.injEq, Prod.mk.injEq] at proceeds
    exact ⟨proceeds.1, proceeds.2.2.symm⟩
  | serveReturned =>
    simp only [proceed, Option.ite_none_right_eq_some, Option.some.injEq, Prod.mk.injEq] at proceeds
    exact ⟨_, ⟨proceeds.1, rfl⟩, proceeds.2.2.symm⟩
  | stopReturned graceful =>
    simp only [proceed, Option.ite_none_right_eq_some, Option.some.injEq, Prod.mk.injEq] at proceeds
    exact ⟨_, ⟨proceeds.1, rfl⟩, proceeds.2.2.symm⟩
  | _ =>
    cases proceeds
    rfl

/-- The plugin that nobody stops from outside. -/
abbrev quietPool : PluginPool plainServer Empty :=
  pluginPool plainServer .ascii "node" "unix://tmp/csi.sock" Empty.elim

/-- A plugin that nobody stops from outside, whose context is done before it starts. -/
def signalledPool : PluginPool plainServer Empty :=
  { quietPool with state := { quietPool.state with cancelled := true } }

/-- A schedule that the plugin can follow after the signal leads to a pool. -/
theorem signalledPool_follows {schedule : List (Goroutine Empty)}
    {check : PluginPool plainServer Empty → Bool}
    (checked : ((Pool.follow proceed schedule signalledPool).map check) = some true) :
    ∃ pool, PluginReaches plainServer .ascii "node" "unix://tmp/csi.sock" Empty.elim pool ∧
      check pool = true := by
  obtain ⟨pool, followed, holds⟩ := Option.map_eq_some_iff.mp checked
  have signalled : PluginReaches plainServer .ascii "node" "unix://tmp/csi.sock" Empty.elim
      signalledPool := .single (.environment quietPool _ (.cancel _))
  have onward := Pool.reaches_follow Surroundings lifecycle_proceed followed
  exact ⟨pool, signalled.trans onward, holds⟩

/-- The server starts and serves, and is told to stop. -/
def tellSchedule : List (Goroutine Empty) :=
  List.replicate 6 .run ++ List.replicate 2 (.spawned .serve) ++ List.replicate 3 (.spawned .stop)

/-- The goroutine that serves ends, and `Driver.Run` has waited for it. -/
def stopSchedule : List (Goroutine Empty) :=
  tellSchedule ++ List.replicate 2 (.spawned .serve) ++ [.run]

section Results

variable {grpc : GrpcServer} {ι : Type}

/-- In every interleaving of `Driver.Run`, its goroutines, calls that stop the server and what the
gRPC server does: if `Run` has returned without an error, then the goroutine that serves has ended
and the listener is closed; if it has returned an error, there is no socket and it has started no
goroutine. When a call of `Stop` has returned, or the goroutine that makes one when the context is
done has ended, no request is pending. -/
theorem driverRun_returns (documented : grpc.Documented) (cases : CaseMapping)
    (nodeID endpoint : String) (stopping : ι → Stopping) (pool : PluginPool grpc ι)
    (reached : PluginReaches grpc cases nodeID endpoint stopping pool) :
    (pool.thread .run = .done (.ok ()) →
      (∃ ended, pool.thread (.spawned .serve) = .done ended) ∧ pool.state.Closed) ∧
    (∀ failure, pool.thread .run = .done (.error failure) →
      pool.state.socket = .absent ∧ ∀ goroutine, pool.state.spawned goroutine = false) ∧
    (∀ self outcome, self = .spawned .stop ∨ (∃ index, self = .caller index ∧
      stopping index = .stop) → pool.thread self = .done outcome →
        grpc.pending pool.state.grpc = 0) := by
  have outlined := pluginPool_outlined documented reached
  have sound : pool.state.Sound := outlined.invariant .run
  refine ⟨fun returned => ?_, fun failure returned => ?_, fun self outcome stops ended => ?_⟩
  · have finished : pool.state.finished = 1 := (outlined.ended returned).1
    refine ⟨?_, Or.inr (sound.finished finished)⟩
    cases remains : pool.thread (.spawned .serve) with
    | done ended => exact ⟨ended, rfl⟩
    | call request next =>
      -- before each of its steps the goroutine has not finished
      have running := (outlined.waiting remains).2.running
      omega
  · have known := outlined.ended returned
    refine ⟨known.2, fun goroutine => ?_⟩
    cases started : pool.state.spawned goroutine with
    | false => rfl
    | true =>
      have counted := sound.spawned goroutine started
      rw [known.1] at counted
      cases counted
  · have known := outlined.ended ended
    apply documented.idle
    rcases stops with rfl | ⟨index, rfl, own⟩
    · exact known.2.2
    · exact known own

/-- A driver that was told to stop while it served has returned without an error. -/
theorem quietPool_returns :
    ∃ pool, PluginReaches plainServer .ascii "node" "unix://tmp/csi.sock" Empty.elim pool ∧
      pool.thread .run = .done (.ok ()) ∧
      (∃ ended, pool.thread (.spawned .serve) = .done ended) ∧ pool.state.Closed := by
  have checked : (Pool.follow proceed (stopSchedule ++ [.run]) signalledPool).map (fun pool =>
      (pool.thread .run).value?.isSome) = some true := by decide +kernel
  obtain ⟨pool, reached, ends⟩ := signalledPool_follows checked
  obtain ⟨value, shows⟩ := Option.isSome_iff_exists.mp ends
  have returned : pool.thread .run = .done (.ok ()) := Program.value?_eq_some shows
  have results := driverRun_returns plainServer_documented .ascii "node" "unix://tmp/csi.sock"
    Empty.elim pool reached
  exact ⟨pool, reached, returned, results.1 returned⟩

/-- When `Driver.Run`, or the goroutine it starts for the context, comes to close the listener, in
any interleaving, the listener is closed already. -/
theorem closeListener_late (documented : grpc.Documented) (cases : CaseMapping)
    (nodeID endpoint : String) (stopping : ι → Stopping) (pool : PluginPool grpc ι)
    (reached : PluginReaches grpc cases nodeID endpoint stopping pool)
    (self : Goroutine ι) (own : self = .run ∨ self = .spawned .stop)
    (next : Unit → LifeProg Unit) (waits : pool.thread self = .call .closeOnce next) :
    pool.state.Closed := by
  have outlined := pluginPool_outlined documented reached
  have sound : pool.state.Sound := outlined.invariant .run
  have point := (outlined.waiting waits).2
  have finished : pool.state.finished = 1 := by
    rcases own with rfl | rfl
    · exact point
    · exact point.1
  exact Or.inr (sound.finished finished)

/-- The driver that was told to stop is about to close the listener. -/
theorem quietPool_late :
    ∃ pool next, PluginReaches plainServer .ascii "node" "unix://tmp/csi.sock" Empty.elim pool ∧
      pool.thread .run = .call .closeOnce next ∧ pool.state.Closed := by
  have checked : (Pool.follow proceed stopSchedule signalledPool).map (fun pool =>
      match pool.thread .run with
      | .call .closeOnce _ => true
      | _ => false) = some true := by decide +kernel
  obtain ⟨pool, reached, closes⟩ := signalledPool_follows checked
  split at closes
  · rename_i next waits
    exact ⟨pool, next, reached, waits, closeListener_late plainServer_documented .ascii "node"
      "unix://tmp/csi.sock" Empty.elim pool reached .run (Or.inl rfl) next waits⟩
  · cases closes

/-- Every goroutine that was started has ended. -/
def AllEnded (pool : PluginPool grpc ι) : Prop :=
  ∀ self, (∃ outcome, pool.thread self = .done outcome) ∨
    ∃ goroutine, self = .spawned goroutine ∧ pool.state.spawned goroutine = false

/-- A goroutine can make its next step. -/
def Ready (pool : PluginPool grpc ι) (self : Goroutine ι) : Prop :=
  ∃ request rest reply after, pool.thread self = .call request rest ∧
    lifecycle grpc request pool.state reply after

/-- A step that has to wait for another goroutine. -/
def Blocked : ServerCall → ServerState grpc → Prop
  | .wait, state => state.added ≠ state.finished
  | .begin goroutine, state => state.spawned goroutine = false
  | _, _ => False

/-- When the context is done, a step can be made unless it has to wait for another goroutine or for
the gRPC server. -/
theorem exists_answer {request : ServerCall} {state : ServerState grpc}
    (cancelled : state.cancelled = true) (free : ¬ Blocked request state)
    (serves : request = .serveReturned → ∃ result after, grpc.serveReturns state.grpc result after)
    (stops : ∀ graceful, request = .stopReturned graceful →
      ∃ after, grpc.stopReturns graceful state.grpc after) :
    ∃ reply after, lifecycle grpc request state reply after := by
  cases request with
  | socket request =>
    cases request with
    | remove path => exact ⟨.ok (), _, rfl⟩
    | listen network address => exact ⟨.ok (), _, rfl⟩
  | wait => exact ⟨(), _, not_not.mp free, rfl⟩
  | begin goroutine => exact ⟨(), _, Bool.of_not_eq_false free, rfl⟩
  | contextDone => exact ⟨(), _, cancelled, rfl⟩
  | serveReturned =>
    obtain ⟨result, after, returns⟩ := serves rfl
    exact ⟨result, _, after, returns, rfl⟩
  | stopReturned graceful =>
    obtain ⟨after, returns⟩ := stops graceful rfl
    exact ⟨(), _, after, returns, rfl⟩
  | _ => exact ⟨(), _, rfl⟩

/-- Nothing happens any more. -/
structure Stuck (stopping : ι → Stopping) (pool : PluginPool grpc ι) : Prop where
  sound : pool.state.Sound
  /-- Every goroutine that has not ended has to wait for another one. -/
  waits : ∀ {self request next}, pool.thread self = .call request next →
    self.Point request pool.state ∧ Blocked request pool.state
  ended : ∀ {self outcome}, pool.thread self = .done outcome →
    self.Post stopping outcome pool.state

section Stuck

variable {stopping : ι → Stopping} {pool : PluginPool grpc ι}

/-- Where the goroutine that serves is stuck. -/
theorem Stuck.serve (stuck : Stuck stopping pool) :
    (∃ outcome, pool.thread (.spawned .serve) = .done outcome) ∧ pool.state.finished = 1 ∨
      pool.state.spawned .serve = false := by
  cases remains : pool.thread (.spawned .serve) with
  | done outcome => exact Or.inl ⟨⟨outcome, rfl⟩, stuck.ended remains⟩
  | call request next =>
    obtain ⟨point, blocked⟩ := stuck.waits remains
    cases request with
    | begin goroutine =>
      cases goroutine with
      | serve => exact Or.inr blocked
      | stop => cases point
    | wait => cases point
    | _ => cases blocked

/-- `Driver.Run` has returned. -/
theorem Stuck.returned (stuck : Stuck stopping pool) :
    ∃ outcome, pool.thread .run = .done outcome := by
  cases remains : pool.thread .run with
  | done outcome => exact ⟨outcome, rfl⟩
  | call request next =>
    obtain ⟨point, blocked⟩ := stuck.waits remains
    cases request with
    | wait =>
      -- the goroutine that serves was started, so it has ended
      have started : pool.state.spawned .serve = true := point .serve
      have counted := stuck.sound.spawned .serve started
      rcases stuck.serve with ⟨-, finished⟩ | unstarted
      · exact absurd (counted.trans finished.symm) blocked
      · rw [started] at unstarted
        cases unstarted
    | begin => cases point
    | _ => cases blocked

/-- All that was counted has finished. -/
theorem Stuck.equal (stuck : Stuck stopping pool) : pool.state.added = pool.state.finished := by
  have one := stuck.sound.added_le
  have within := stuck.sound.finished_le
  obtain ⟨outcome, returned⟩ := stuck.returned
  have known := stuck.ended returned
  cases outcome with
  | ok value =>
    have finished : pool.state.finished = 1 := known.1
    omega
  | error failure =>
    have uncounted : pool.state.added = 0 := known.1
    omega

/-- Every goroutine that was started has ended. -/
theorem Stuck.allEnded (stuck : Stuck stopping pool) : AllEnded pool := by
  intro self
  cases self with
  | run => exact Or.inl stuck.returned
  | caller index =>
    cases remains : pool.thread (.caller index) with
    | done outcome => exact Or.inl ⟨outcome, rfl⟩
    | call request next =>
      obtain ⟨point, blocked⟩ := stuck.waits remains
      cases request with
      | wait => exact absurd stuck.equal blocked
      | begin => cases point
      | _ => cases blocked
  | spawned goroutine =>
    cases goroutine with
    | serve =>
      rcases stuck.serve with ⟨ended, -⟩ | unstarted
      · exact Or.inl ended
      · exact Or.inr ⟨.serve, rfl, unstarted⟩
    | stop =>
      cases remains : pool.thread (.spawned .stop) with
      | done outcome => exact Or.inl ⟨outcome, rfl⟩
      | call request next =>
        obtain ⟨point, blocked⟩ := stuck.waits remains
        cases request with
        | wait => exact absurd stuck.equal blocked
        | begin goroutine =>
          cases goroutine with
          | serve => cases point
          | stop => exact Or.inr ⟨.stop, rfl, blocked⟩
        | _ => cases blocked

/-- A plugin whose context is done and whose gRPC server was told to stop has come to its end, or
something can happen. -/
theorem exists_step (finishes : grpc.Finishes)
    (outlined : Pool.Outlined (lifecycle grpc) (serverRules grpc) Goroutine.Pre
      (Goroutine.Post stopping) pool)
    (cancelled : pool.state.cancelled = true) (told : grpc.told pool.state.grpc) :
    AllEnded pool ∨ ∃ next, Pool.Step (lifecycle grpc) GrpcRuns pool next := by
  by_cases moves : ∃ next, Pool.Step (lifecycle grpc) GrpcRuns pool next
  · exact Or.inr moves
  · have rests : ∀ after, ¬ grpc.runs pool.state.grpc after :=
      fun after goes => moves ⟨_, .environment pool _ (.runs pool.state after goes)⟩
    obtain ⟨serves, stops⟩ := finishes.returns told rests
    have waits : ∀ {self request next}, pool.thread self = .call request next →
        self.Point request pool.state ∧ Blocked request pool.state := by
      intro self request next waits
      refine ⟨(outlined.waiting waits).2, Classical.byContradiction fun free => moves ?_⟩
      obtain ⟨reply, after, answered⟩ :=
        exists_answer cancelled free (fun _ => serves) (fun graceful _ => stops graceful)
      exact ⟨_, .thread pool self request next reply after waits answered⟩
    have stuck : Stuck stopping pool := ⟨outlined.invariant .run, waits, outlined.ended⟩
    exact Or.inl stuck.allEnded

/-- Before the gRPC server is told to stop, `Driver.Run` and the goroutine that tells it never wait
for it: they can make their next step unless they have to wait for another goroutine. -/
theorem ready_of_free
    (outlined : Pool.Outlined (lifecycle grpc) (serverRules grpc) Goroutine.Pre
      (Goroutine.Post stopping) pool)
    (cancelled : pool.state.cancelled = true) (running : ¬ grpc.told pool.state.grpc)
    {self : Goroutine ι} (own : self = .run ∨ self = .spawned .stop) {request : ServerCall}
    {next : ServerReply request → LifeProg Unit} (remains : pool.thread self = .call request next)
    (free : ¬ Blocked request pool.state) : Ready pool self := by
  have point := (outlined.waiting remains).2
  have serves : request = .serveReturned →
      ∃ result after, grpc.serveReturns pool.state.grpc result after := by
    rintro rfl
    rcases own with rfl | rfl <;> cases point
  have stops : ∀ graceful, request = .stopReturned graceful →
      ∃ after, grpc.stopReturns graceful pool.state.grpc after := by
    rintro graceful rfl
    rcases own with rfl | rfl
    · cases point
    · exact absurd point running
  obtain ⟨reply, after, answered⟩ := exists_answer cancelled free serves stops
  exact ⟨request, next, reply, after, remains, answered⟩

/-- Before the gRPC server is told to stop, the goroutine that tells it when the context is done can
make its next step. -/
theorem ready_stop
    (outlined : Pool.Outlined (lifecycle grpc) (serverRules grpc) Goroutine.Pre
      (Goroutine.Post stopping) pool)
    (cancelled : pool.state.cancelled = true) (running : ¬ grpc.told pool.state.grpc)
    (started : pool.state.spawned .stop = true) : Ready pool (.spawned .stop) := by
  cases remains : pool.thread (.spawned .stop) with
  | done outcome => exact absurd (outlined.ended remains).2.1 running
  | call request next =>
    have point := (outlined.waiting remains).2
    refine ready_of_free outlined cancelled running (Or.inr rfl) remains fun blocked => ?_
    cases request with
    | begin goroutine =>
      cases goroutine with
      | serve => cases point
      | stop =>
        have unstarted : pool.state.spawned .stop = false := blocked
        rw [started] at unstarted
        cases unstarted
    | wait => exact running point
    | _ => cases blocked

/-- Before the gRPC server is told to stop, `Driver.Run` or the goroutine that tells it when the
context is done can make its next step, unless `Run` has failed. -/
theorem ready_tell
    (outlined : Pool.Outlined (lifecycle grpc) (serverRules grpc) Goroutine.Pre
      (Goroutine.Post stopping) pool)
    (cancelled : pool.state.cancelled = true) (running : ¬ grpc.told pool.state.grpc) :
    (∃ failure, pool.thread .run = .done (.error failure)) ∨ Ready pool .run ∨
      Ready pool (.spawned .stop) := by
  cases remains : pool.thread .run with
  | done outcome =>
    cases outcome with
    | error failure => exact Or.inl ⟨failure, rfl⟩
    | ok value =>
      have started := (outlined.ended remains).2 .stop
      exact Or.inr (Or.inr (ready_stop outlined cancelled running started))
  | call request next =>
    have point := (outlined.waiting remains).2
    by_cases waits : request = .wait
    · subst waits
      exact Or.inr (Or.inr (ready_stop outlined cancelled running (point .stop)))
    · have free : ¬ Blocked request pool.state := by
        intro blocked
        cases request with
        | wait => exact waits rfl
        | begin => cases point
        | _ => cases blocked
      exact Or.inr (Or.inl (ready_of_free outlined cancelled running (Or.inl rfl) remains free))

end Stuck

/-- One step. -/
theorem act_within (request : ServerCall) : (act request).Within 1 := .call fun _ => trivial

/-- `server.Wait` takes two steps. -/
theorem serverWait_within : serverWait.Within 2 := .call fun _ => act_within _

/-- `server.Stop` takes four steps. -/
theorem serverStop_within : serverStop.Within 4 := .call fun _ => .call fun _ => serverWait_within

/-- Listening takes at most two steps. -/
theorem createSocketListener_within (cases : CaseMapping) (endpoint : String) :
    (onSocket (createSocketListener cases endpoint)).Within 2 := by
  cases parsed : parseEndpoint cases endpoint with
  | error failure =>
    unfold createSocketListener
    rw [parsed]
    trivial
  | ok parts =>
    have listens : ∀ proto addr, (onSocket (listenOn proto addr)).Within 1 :=
      fun proto addr => .call fun reply => by cases reply <;> trivial
    rw [createSocketListener_parsed parsed]
    split
    · refine .call fun reply => ?_
      cases reply with
      | ok value => exact listens "unix" _
      | error failure =>
        by_cases missing : failure.reason = .notFound
        · simp only [missing, if_true]
          exact listens "unix" _
        · simp only [missing, if_false]
          trivial
    · exact (listens _ _).mono (by omega)

/-- No goroutine makes more than eight steps. -/
theorem goroutine_within (cases : CaseMapping) (nodeID endpoint : String) (stopping : ι → Stopping)
    (self : Goroutine ι) : (self.program cases nodeID endpoint stopping).Within 8 := by
  cases self with
  | run =>
    have counts : (do act .setListener; act .add; act (.go .serve)).Within 3 :=
      .call fun _ => .call fun _ => act_within _
    have starts : (serverStart cases endpoint).Within 5 :=
      (createSocketListener_within cases endpoint).mapError.bind fun _ => counts
    have waits : (do act (.go .stop); serverWait).Within 3 := .call fun _ => serverWait_within
    change (driverRun cases nodeID endpoint).Within 8
    unfold driverRun
    split
    · trivial
    · exact starts.bind fun _ => waits
  | spawned goroutine =>
    cases goroutine with
    | serve =>
      have serves : serveGoroutine.Within 4 :=
        .call fun _ => .call fun _ => .call fun _ => act_within _
      exact serves.mono (by omega)
    | stop =>
      have stops : stopGoroutine.Within 6 := .call fun _ => .call fun _ => serverStop_within
      exact stops.mono (by omega)
  | caller index =>
    change (stopping index).program.Within 8
    cases stopping index with
    | stop => exact serverStop_within.mono (by omega)
    | forceStop =>
      have stops : serverForceStop.Within 3 := .call fun _ => .call fun _ => act_within _
      exact stops.mono (by omega)

/-- There are finitely many goroutines. -/
instance [Finite ι] : Finite (Goroutine ι) := by
  let code : Goroutine ι → Option (Bool ⊕ ι)
    | .run => none
    | .spawned .serve => some (.inl true)
    | .spawned .stop => some (.inl false)
    | .caller index => some (.inr index)
  refine Finite.of_injective code fun first second same => ?_
  cases first with
  | run => cases second with
    | run => rfl
    | spawned goroutine => cases goroutine <;> cases same
    | caller index => cases same
  | caller index => cases second with
    | run => cases same
    | spawned goroutine => cases goroutine <;> cases same
    | caller other =>
      cases same
      rfl
  | spawned goroutine => cases second with
    | run => cases goroutine <;> cases same
    | caller index => cases goroutine <;> cases same
    | spawned other => cases goroutine <;> cases other <;> first | rfl | cases same

/-- From every state reached in any interleaving in which the context is done: until the gRPC server
is told to stop, `Driver.Run` or the goroutine that tells it can go on, unless `Run` has failed; and
then, whatever the goroutines and the gRPC server do next and in which order, they all come to their
end: `Run` returns, and so do the goroutines it has started and every call that stops the server. -/
theorem driverRun_inevitable (documented : grpc.Documented) (finishes : grpc.Finishes) [Finite ι]
    (cases : CaseMapping) (nodeID endpoint : String) (stopping : ι → Stopping)
    (pool : PluginPool grpc ι) (reached : PluginReaches grpc cases nodeID endpoint stopping pool)
    (cancelled : pool.state.cancelled = true) :
    (¬ grpc.told pool.state.grpc → (∃ failure, pool.thread .run = .done (.error failure)) ∨
      Ready pool .run ∨ Ready pool (.spawned .stop)) ∧
    (grpc.told pool.state.grpc →
      Inevitable (Pool.Step (lifecycle grpc) GrpcRuns) AllEnded pool) := by
  classical
  refine ⟨ready_tell (pluginPool_outlined documented reached) cancelled, fun told => ?_⟩
  have := Fintype.ofFinite (Goroutine ι)
  let bounded (bound : Nat) (pool : PluginPool grpc ι) : Prop :=
    pool.Within bound ∧ PluginReaches grpc cases nodeID endpoint stopping pool ∧
      pool.state.cancelled = true ∧ grpc.told pool.state.grpc
  have progress : ∀ bound pool, bounded bound pool →
      AllEnded pool ∨ ∃ next, Pool.Step (lifecycle grpc) GrpcRuns pool next := by
    intro bound pool holds
    obtain ⟨-, reached, cancelled, told⟩ := holds
    exact exists_step finishes (pluginPool_outlined documented reached) cancelled told
  have smaller : ∀ bound pool next, bounded bound pool →
      Pool.Step (lifecycle grpc) GrpcRuns pool next →
        (∃ less, less < bound ∧ bounded less next) ∨
          grpc.runs pool.state.grpc next.state.grpc ∧ bounded bound next := by
    intro bound pool next holds step
    obtain ⟨within, reached, cancelled, told⟩ := holds
    cases step with
    | thread self request rest reply after waits answered =>
      obtain ⟨fewer, below, onward⟩ := within.thread waits reply after
      have grows := (lifecycle_change answered).grows documented
      have continues := reached.tail (.thread pool self request rest reply after waits answered)
      refine Or.inl ⟨fewer, below, ?_, continues, grows.cancelled cancelled, grows.told told⟩
      convert onward
    | environment after runs =>
      have grows := ServerState.Grows.surroundings documented (.grpc runs)
      have continues := reached.tail (.environment pool after (.grpc runs))
      cases runs with
      | runs state goes => exact Or.inr ⟨goes, within, continues, cancelled, grows.told told⟩
  have rests : ∀ bound (pool : PluginPool grpc ι), bounded bound pool →
      Acc (fun after before : PluginPool grpc ι => grpc.runs before.state.grpc after.state.grpc)
        pool := by
    intro bound pool holds
    exact InvImage.accessible (fun pool : PluginPool grpc ι => pool.state.grpc)
      (finishes.rests holds.2.2.2)
  have start : (pluginPool grpc cases nodeID endpoint stopping).Within (∑ _ : Goroutine ι, 8) :=
    ⟨fun _ => 8, goroutine_within cases nodeID endpoint stopping, rfl⟩
  obtain ⟨bound, -, within⟩ := start.reaches reached
  exact Inevitable.of_bound progress smaller rests bound ⟨within, reached, cancelled, told⟩

/-- A driver that was told to stop while it served returns. -/
theorem quietPool_inevitable :
    ∃ pool, PluginReaches plainServer .ascii "node" "unix://tmp/csi.sock" Empty.elim pool ∧
      Inevitable (Pool.Step (lifecycle plainServer) GrpcRuns) AllEnded pool := by
  have checked : (Pool.follow proceed tellSchedule signalledPool).map (fun pool =>
      pool.state.cancelled && PlainState.told pool.state.grpc) = some true := by decide +kernel
  obtain ⟨pool, reached, holds⟩ := signalledPool_follows checked
  have flags := Bool.and_eq_true_iff.mp holds
  exact ⟨pool, reached, (driverRun_inevitable plainServer_documented plainServer_finishes .ascii
    "node" "unix://tmp/csi.sock" Empty.elim pool reached flags.1).2 flags.2⟩

end Results

end ListenerOperator
