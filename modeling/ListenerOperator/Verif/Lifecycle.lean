import ListenerOperator.Lifecycle
import ListenerOperator.Verif.Endpoint

/-!
# The state of the server

What holds of the plugin's server in every interleaving of `Driver.Run`, of the two goroutines it
starts, of any number of calls that stop the server from outside, and of what the gRPC server does:
an invariant of the shared state, and for each step of each goroutine what is known before it.
-/

namespace ListenerOperator

open Interaction

section State

variable {grpc : GrpcServer}

/-- What is true of the shared state between any two steps. -/
structure ServerState.Sound (state : ServerState grpc) : Prop where
  added_le : state.added ≤ 1
  finished_le : state.finished ≤ state.added
  /-- A goroutine is counted before it is started. -/
  spawned : ∀ goroutine, state.spawned goroutine = true → state.added = 1
  /-- The goroutine that serves leaves a closed listener. -/
  finished : state.finished = 1 → grpc.closed state.grpc

/-- When a step keeps what is true of the state. -/
def ServerCall.Needs : ServerCall → ServerState grpc → Prop
  | .add, state => state.added = 0
  | .go _, state => state.added = 1
  | .workDone, state => state.added = 1 ∧ state.finished = 0 ∧ grpc.closed state.grpc
  | _, _ => True

/-- What no step takes back. -/
structure ServerState.Grows (before after : ServerState grpc) : Prop where
  added : before.added ≤ after.added
  finished : before.finished ≤ after.finished
  spawned : ∀ goroutine, before.spawned goroutine = true → after.spawned goroutine = true
  cancelled : before.cancelled = true → after.cancelled = true
  closed : grpc.closed before.grpc → grpc.closed after.grpc
  told : grpc.told before.grpc → grpc.told after.grpc
  stopped : grpc.stopped before.grpc → grpc.stopped after.grpc

/-- What only `Driver.Run` changes. -/
structure ServerState.SameRun (before after : ServerState grpc) : Prop where
  added : after.added = before.added
  spawned : after.spawned = before.spawned
  absent : before.socket = .absent → after.socket = .absent

/-- Nothing is taken back by doing nothing. -/
theorem ServerState.Grows.refl (state : ServerState grpc) : state.Grows state := by
  constructor <;> simp

/-- Nothing is taken back by two steps. -/
theorem ServerState.Grows.trans {first second third : ServerState grpc} (before : first.Grows second)
    (after : second.Grows third) : first.Grows third where
  added := before.added.trans after.added
  finished := before.finished.trans after.finished
  spawned goroutine := after.spawned goroutine ∘ before.spawned goroutine
  cancelled := after.cancelled ∘ before.cancelled
  closed := after.closed ∘ before.closed
  told := after.told ∘ before.told
  stopped := after.stopped ∘ before.stopped

/-- `Driver.Run` finds its part unchanged after two steps of others. -/
theorem ServerState.SameRun.trans {first second third : ServerState grpc}
    (before : first.SameRun second) (after : second.SameRun third) : first.SameRun third where
  added := after.added.trans before.added
  spawned := after.spawned.trans before.spawned
  absent := after.absent ∘ before.absent

/-- A step of the gRPC server takes nothing back. -/
theorem ServerState.Grows.moves (documented : grpc.Documented) {before : ServerState grpc}
    {next : grpc.State} (moves : grpc.Moves before.grpc next) :
    before.Grows { before with grpc := next } :=
  { ServerState.Grows.refl before with
    closed := documented.closed moves
    told := documented.told moves
    stopped := documented.stopped moves }

/-- A step of the gRPC server leaves a sound state. -/
theorem ServerState.Sound.moves (documented : grpc.Documented) {before : ServerState grpc}
    (sound : before.Sound) {next : grpc.State} (moves : grpc.Moves before.grpc next) :
    ({ before with grpc := next } : ServerState grpc).Sound :=
  { sound with finished := fun ended => documented.closed moves (sound.finished ended) }

/-- The steps of `Driver.Run` that others do not make. -/
def ServerCall.byRun : ServerCall → Bool
  | .socket _ | .setListener | .add | .go _ => true
  | _ => false

/-- What a step changes. -/
inductive ServerState.Change (before : ServerState grpc) : ServerCall → ServerState grpc → Prop where
  | nothing (request : ServerCall) : Change before request before
  | moves {request : ServerCall} {next : grpc.State} (moves : grpc.Moves before.grpc next)
      (shared : request.byRun = false) (other : request ≠ .workDone) :
      Change before request { before with grpc := next }
  | opened (request : SocketCall) : Change before (.socket request) { before with socket := .opened }
  | listens : Change before .setListener { before with hasListener := true }
  | added : Change before .add { before with added := before.added + 1 }
  | finished : Change before .workDone { before with finished := before.finished + 1 }
  | closes (socket : Socket) (absent : before.socket = .absent → socket = .absent) :
      Change before .closeOnce { before with closed := true, socket := socket }
  | spawned (goroutine : Spawned) :
      Change before (.go goroutine)
        { before with spawned := Function.update before.spawned goroutine true }

/-- A step changes one thing. -/
theorem lifecycle_change {request : ServerCall} {before after : ServerState grpc}
    {reply : ServerReply request} (answered : lifecycle grpc request before reply after) :
    before.Change request after := by
  cases request with
  | socket request =>
    cases request with
    | remove path =>
      cases answered
      exact .nothing _
    | listen network address =>
      cases reply with
      | error failure =>
        cases answered
        exact .nothing _
      | ok value =>
        cases answered
        exact .opened _
  | wait | contextDone =>
    rw [answered.2]
    exact .nothing _
  | begin goroutine =>
    rw [answered.2]
    exact .nothing _
  | setListener =>
    cases answered
    exact .listens
  | add =>
    cases answered
    exact .added
  | workDone =>
    cases answered
    exact .finished
  | closeOnce =>
    simp only [lifecycle] at answered
    split at answered
    · subst answered
      exact .nothing _
    · subst answered
      apply ServerState.Change.closes
      intro absent
      rw [absent]
      split <;> rfl
  | go goroutine =>
    cases answered
    exact .spawned goroutine
  | serve =>
    cases answered
    exact .moves (.serve before.grpc) rfl (by simp)
  | stop graceful =>
    cases answered
    exact .moves (.stop graceful before.grpc) rfl (by simp)
  | serveReturned =>
    obtain ⟨next, returns, rfl⟩ := answered
    exact .moves (.serveReturns returns) rfl (by simp)
  | stopReturned graceful =>
    obtain ⟨next, returns, rfl⟩ := answered
    exact .moves (.stopReturns returns) rfl (by simp)

/-- Every change by a step that may be made leaves a sound state. -/
theorem ServerState.Sound.change (documented : grpc.Documented) {request : ServerCall}
    {before after : ServerState grpc} (sound : before.Sound) (needs : request.Needs before)
    (change : before.Change request after) : after.Sound := by
  cases change with
  | nothing => exact sound
  | moves moves shared other => exact sound.moves documented moves
  | opened | listens | closes => exact { sound with }
  | added =>
    have none : before.added = 0 := needs
    exact { sound with
      added_le := by simp [none]
      finished_le := sound.finished_le.trans (Nat.le_succ _)
      spawned := fun goroutine started => by simp [none] }
  | finished =>
    have counted : before.added = 1 := needs.1
    have running : before.finished = 0 := needs.2.1
    exact { sound with
      finished_le := by simp [counted, running]
      finished := fun _ => needs.2.2 }
  | spawned goroutine => exact { sound with spawned := fun _ _ => needs }

/-- What happens around the goroutines leaves a sound state. -/
theorem ServerState.Sound.surroundings (documented : grpc.Documented)
    {before after : ServerState grpc}
    (sound : before.Sound) (happens : Surroundings before after) : after.Sound := by
  cases happens with
  | cancel => exact { sound with }
  | grpc goes =>
    cases goes with
    | runs next goes => exact sound.moves documented (.runs goes)

/-- A change takes nothing back. -/
theorem ServerState.Change.grows (documented : grpc.Documented) {request : ServerCall}
    {before after : ServerState grpc} (change : before.Change request after) :
    before.Grows after := by
  have same := ServerState.Grows.refl before
  cases change with
  | nothing => exact same
  | moves moves shared other => exact .moves documented moves
  | opened | listens | closes => exact { same with }
  | added => exact { same with added := Nat.le_succ _ }
  | finished => exact { same with finished := Nat.le_succ _ }
  | spawned goroutine =>
    refine { same with spawned := fun other started => ?_ }
    by_cases named : other = goroutine
    · subst named
      exact Function.update_self _ _ _
    · exact (Function.update_of_ne named _ _).trans started

/-- What happens around the goroutines takes nothing back. -/
theorem ServerState.Grows.surroundings (documented : grpc.Documented)
    {before after : ServerState grpc}
    (happens : Surroundings before after) : before.Grows after := by
  cases happens with
  | cancel => exact { ServerState.Grows.refl before with cancelled := fun _ => rfl }
  | grpc goes =>
    cases goes with
    | runs next goes => exact .moves documented (.runs goes)

/-- Steps that others make leave the part of `Driver.Run`. -/
theorem ServerState.Change.sameRun {request : ServerCall} {before after : ServerState grpc}
    (shared : request.byRun = false) (change : before.Change request after) :
    before.SameRun after := by
  cases change with
  | nothing | moves | finished => exact ⟨rfl, rfl, id⟩
  | closes socket absent => exact ⟨rfl, rfl, absent⟩
  | opened | listens | added | spawned => cases shared

/-- Only the goroutine that serves says that it is done. -/
theorem lifecycle_finished {request : ServerCall} {before after : ServerState grpc}
    {reply : ServerReply request} (other : request ≠ .workDone)
    (answered : lifecycle grpc request before reply after) : after.finished = before.finished := by
  cases lifecycle_change answered with
  | finished => exact absurd rfl other
  | _ => rfl

end State

section Points

variable {grpc : GrpcServer} {ι : Type} {self : Goroutine ι}

/-- The rules of a goroutine. -/
def serverRules (grpc : GrpcServer) (self : Goroutine ι) : Rules (ServerState grpc) where
  invariant := ServerState.Sound
  rely before after := before.Grows after ∧ (self = .run → before.SameRun after) ∧
    (self = .spawned .serve → after.finished = before.finished)
  guarantee before after := before.Grows after ∧ (self ≠ .run → before.SameRun after) ∧
    (self ≠ .spawned .serve → after.finished = before.finished)
  rely_refl state := ⟨.refl state, fun _ => ⟨rfl, rfl, id⟩, fun _ => rfl⟩
  rely_trans before after := ⟨before.1.trans after.1,
    fun named => (before.2.1 named).trans (after.2.1 named),
    fun named => (after.2.2 named).trans (before.2.2 named)⟩

/-- Goroutines tolerate each other and what happens around them. -/
theorem serverRules_compatible (documented : grpc.Documented) :
    Pool.Compatible (fun self : Goroutine ι => serverRules grpc self) Surroundings where
  shared _ _ _ sound := sound
  tolerated first second different _ _ _ _ guaranteed := by
    refine ⟨guaranteed.1, fun named => guaranteed.2.1 ?_, fun named => guaranteed.2.2 ?_⟩
    · exact fun same => different (same.trans named.symm)
    · exact fun same => different (same.trans named.symm)
  environment_invariant _ _ _ sound happens := sound.surroundings documented happens
  environment_tolerated _ _ _ _ happens := by
    refine ⟨.surroundings documented happens, fun _ => ?_, fun _ => ?_⟩
    · rcases happens with _ | ⟨⟨_⟩⟩ <;> exact ⟨rfl, rfl, id⟩
    · rcases happens with _ | ⟨⟨_⟩⟩ <;> rfl

/-- Which steps a goroutine makes, and what is known at each of them. -/
def Goroutine.Point : Goroutine ι → ServerCall → ServerState grpc → Prop
  | .run, .socket _, _ | .run, .setListener, _ | .run, .add, _ | .run, .go _, _ => True
  | .run, .wait, state => ∀ goroutine, state.spawned goroutine = true
  | .run, .closeOnce, state => state.finished = 1
  | .spawned .serve, .begin .serve, state | .spawned .serve, .serve, state
  | .spawned .serve, .serveReturned, state | .spawned .serve, .workDone, state =>
    state.finished = 0
  | .spawned .stop, .begin .stop, _ | .spawned .stop, .contextDone, _
  | .spawned .stop, .stop _, _ => True
  | .spawned .stop, .stopReturned _, state | .spawned .stop, .wait, state =>
    grpc.told state.grpc
  | .spawned .stop, .closeOnce, state => state.finished = 1 ∧ grpc.told state.grpc
  | .caller _, .stop _, _ | .caller _, .stopReturned _, _ | .caller _, .wait, _
  | .caller _, .closeOnce, _ => True
  | _, _, _ => False

/-- The precondition of a step of a goroutine. -/
def Goroutine.Pre (self : Goroutine ι) (request : ServerCall) (state : ServerState grpc) : Prop :=
  request.Needs state ∧ self.Point request state

/-- What is known when a goroutine has ended. -/
def Goroutine.Post (stopping : ι → Stopping) :
    Goroutine ι → Except Failure Unit → ServerState grpc → Prop
  | .run, .ok _, state => state.finished = 1 ∧ ∀ goroutine, state.spawned goroutine = true
  | .run, .error _, state => state.added = 0 ∧ state.socket = .absent
  | .spawned .serve, _, state => state.finished = 1
  | .spawned .stop, _, state => state.finished = 1 ∧ grpc.told state.grpc ∧ grpc.stopped state.grpc
  | .caller index, _, state => stopping index = .stop → grpc.stopped state.grpc

/-- A goroutine guarantees what its rules say at each of its steps. -/
theorem Goroutine.Pre.guarantee (documented : grpc.Documented) {request : ServerCall}
    {before after : ServerState grpc} {reply : ServerReply request} (pre : self.Pre request before)
    (answered : lifecycle grpc request before reply after) :
    (serverRules grpc self).guarantee before after := by
  have point := pre.2
  have change := lifecycle_change answered
  refine ⟨change.grows documented, fun other => change.sameRun ?_, fun other => ?_⟩
  · cases self with
    | run => exact absurd rfl other
    | spawned goroutine => cases goroutine <;> cases request <;> first | rfl | cases point
    | caller index => cases request <;> first | rfl | cases point
  · refine lifecycle_finished ?_ answered
    rintro rfl
    cases self with
    | run => cases point
    | spawned goroutine =>
      cases goroutine with
      | serve => exact absurd rfl other
      | stop => cases point
    | caller index => cases point

/-- What others do not take from a goroutine. -/
def Stable (self : Goroutine ι) (known : ServerState grpc → Prop) : Prop :=
  ∀ before after, (serverRules grpc self).rely before after → after.Sound → known before →
    known after

/-- The outline of a program. -/
abbrev Goroutine.Outlined {α : Type} (self : Goroutine ι)
    (post : Except Failure α → ServerState grpc → Prop) (program : LifeProg α)
    (state : ServerState grpc) : Prop :=
  program.Outlined (lifecycle grpc) (serverRules grpc self) self.Pre post state

/-- The outline of a step: something stable is known, it gives the precondition, and with the
answer it gives the outline of what follows. -/
theorem Goroutine.outlined_call (documented : grpc.Documented) {α : Type}
    {post : Except Failure α → ServerState grpc → Prop} {request : ServerCall}
    {rest : ServerReply request → LifeProg α} {state : ServerState grpc}
    {known : ServerState grpc → Prop} (stable : Stable self known) (holds : known state)
    (pre : ∀ state, state.Sound → known state → self.Pre request state)
    (next : ∀ before reply after, known before → before.Grows after →
      lifecycle grpc request before reply after → after.Sound →
        self.Outlined post (rest reply) after) :
    self.Outlined post (.call request rest) state := by
  intro later moves sound
  have kept : known later := stable _ _ moves sound holds
  have met := pre later sound kept
  refine ⟨met, fun reply after answered => ?_⟩
  have change := lifecycle_change answered
  have sounds : after.Sound := sound.change documented met.1 change
  have grows : later.Grows after := change.grows documented
  exact ⟨sounds, met.guarantee documented answered,
    next later reply after kept grows answered sounds⟩

/-- The outline of an end. -/
theorem Goroutine.outlined_done {α : Type} {post : Except Failure α → ServerState grpc → Prop}
    {outcome : Except Failure α} {state : ServerState grpc} (stable : Stable self (post outcome))
    (holds : post outcome state) : self.Outlined post (.done outcome) state :=
  fun _ moves sound => stable _ _ moves sound holds

/-- Two stable facts are stable together. -/
theorem Stable.and {first second : ServerState grpc → Prop} (one : Stable self first)
    (other : Stable self second) : Stable self fun state => first state ∧ second state :=
  fun _ _ moves sound known => ⟨one _ _ moves sound known.1, other _ _ moves sound known.2⟩

/-- What is always true is stable. -/
theorem Stable.anything : Stable self fun _ : ServerState grpc => True :=
  fun _ _ _ _ _ => trivial

/-- A server that was told to stop stays so. -/
theorem Stable.told : Stable self fun state : ServerState grpc => grpc.told state.grpc :=
  fun _ _ moves _ => moves.1.told

/-- A stopped server stays so. -/
theorem Stable.stopped : Stable self fun state : ServerState grpc => grpc.stopped state.grpc :=
  fun _ _ moves _ => moves.1.stopped

/-- A started goroutine stays started. -/
theorem Stable.spawned (goroutine : Spawned) :
    Stable self fun state : ServerState grpc => state.spawned goroutine = true :=
  fun _ _ moves _ => moves.1.spawned goroutine

/-- Serving stays finished. -/
theorem ServerState.Grows.finished_eq {before after : ServerState grpc} (grows : before.Grows after)
    (sound : after.Sound) (finished : before.finished = 1) : after.finished = 1 := by
  have more := grows.finished
  have within := sound.finished_le
  have one := sound.added_le
  omega

/-- Serving stays finished whatever others do. -/
theorem Stable.finished : Stable self fun state : ServerState grpc => state.finished = 1 :=
  fun _ _ moves sound => moves.1.finished_eq sound

/-- When all that was counted is done and a goroutine was started, serving is finished. -/
theorem ServerState.Sound.finished_of_equal {state : ServerState grpc} (sound : state.Sound)
    {goroutine : Spawned} (started : state.spawned goroutine = true)
    (equal : state.added = state.finished) : state.finished = 1 := by
  have counted := sound.spawned goroutine started
  omega

/-- The gRPC server is stopped when `GracefulStop` has returned. -/
theorem stopped_of_returned (documented : grpc.Documented) {before after : ServerState grpc}
    (answered : lifecycle grpc (.stopReturned true) before () after) :
    grpc.stopped after.grpc := by
  obtain ⟨next, returns, rfl⟩ := answered
  exact documented.stops returns

/-- The outline of a stop from outside. -/
theorem stopping_outlined (documented : grpc.Documented) (stopping : ι → Stopping) (index : ι)
    (state : ServerState grpc) :
    Goroutine.Outlined (.caller index) ((Goroutine.caller index).Post stopping)
      (stopping index).program state := by
  have stable : Stable (.caller index) fun state : ServerState grpc =>
      stopping index = .stop → grpc.stopped state.grpc :=
    fun _ _ moves _ stops called => moves.1.stopped (stops called)
  cases own : stopping index with
  | stop =>
    apply Goroutine.outlined_call documented Stable.anything trivial
    · exact fun _ _ _ => ⟨trivial, trivial⟩
    intro before reply after _ _ _ _
    apply Goroutine.outlined_call documented Stable.anything trivial
    · exact fun _ _ _ => ⟨trivial, trivial⟩
    intro before reply after _ _ answered _
    apply Goroutine.outlined_call documented Stable.stopped
      (stopped_of_returned documented answered)
    · exact fun _ _ _ => ⟨trivial, trivial⟩
    intro before reply after stopped grows _ _
    apply Goroutine.outlined_call documented Stable.stopped (grows.stopped stopped)
    · exact fun _ _ _ => ⟨trivial, trivial⟩
    intro before reply after stopped grows _ _
    exact Goroutine.outlined_done stable fun _ => grows.stopped stopped
  | forceStop =>
    have forced : stopping index ≠ .stop := by
      rw [own]
      decide
    apply Goroutine.outlined_call documented Stable.anything trivial
    · exact fun _ _ _ => ⟨trivial, trivial⟩
    intro before reply after _ _ _ _
    apply Goroutine.outlined_call documented Stable.anything trivial
    · exact fun _ _ _ => ⟨trivial, trivial⟩
    intro before reply after _ _ _ _
    apply Goroutine.outlined_call documented Stable.anything trivial
    · exact fun _ _ _ => ⟨trivial, trivial⟩
    intro before reply after _ _ _ _
    exact Goroutine.outlined_done stable fun called => absurd called forced

/-- The outline of the goroutine of `Driver.Run`. -/
theorem stopGoroutine_outlined (documented : grpc.Documented) (stopping : ι → Stopping)
    (state : ServerState grpc) :
    (Goroutine.spawned .stop : Goroutine ι).Outlined (Goroutine.Post stopping (.spawned .stop))
      stopGoroutine state := by
  apply Goroutine.outlined_call documented Stable.anything trivial
  · exact fun _ _ _ => ⟨trivial, trivial⟩
  intro before reply after _ _ answered _
  obtain ⟨started, rfl⟩ := answered
  apply Goroutine.outlined_call documented (Stable.spawned .stop) started
  · exact fun _ _ _ => ⟨trivial, trivial⟩
  intro before reply after started grows _ _
  apply Goroutine.outlined_call documented (Stable.spawned .stop) (grows.spawned _ started)
  · exact fun _ _ _ => ⟨trivial, trivial⟩
  intro before reply after started grows answered _
  have told : grpc.told after.grpc := by
    rw [show after = _ from answered]
    exact documented.tells _ _
  apply Goroutine.outlined_call documented ((Stable.spawned .stop).and .told)
    ⟨grows.spawned _ started, told⟩
  · exact fun _ _ known => ⟨trivial, known.2⟩
  intro before reply after known grows answered _
  have stopped := stopped_of_returned documented answered
  apply Goroutine.outlined_call documented (((Stable.spawned .stop).and .told).and .stopped)
    ⟨⟨grows.spawned _ known.1, grows.told known.2⟩, stopped⟩
  · exact fun _ _ known => ⟨trivial, known.1.2⟩
  intro before reply after known _ answered sound
  obtain ⟨equal, rfl⟩ := answered
  have finished := sound.finished_of_equal known.1.1 equal
  apply Goroutine.outlined_call documented (Stable.finished.and (Stable.told.and .stopped))
    ⟨finished, known.1.2, known.2⟩
  · exact fun _ _ known => ⟨trivial, known.1, known.2.1⟩
  intro before reply after known grows _ sound
  exact Goroutine.outlined_done (Stable.finished.and (Stable.told.and .stopped))
    ⟨grows.finished_eq sound known.1, grows.told known.2.1, grows.stopped known.2.2⟩

/-- How far the goroutine that serves has come. -/
theorem Stable.running : Stable (.spawned .serve : Goroutine ι)
    fun state : ServerState grpc => state.finished = 0 :=
  fun _ _ moves _ running => (moves.2.2 rfl).trans running

/-- A listener that the gRPC server has closed stays closed. -/
theorem Stable.closed : Stable self fun state : ServerState grpc => grpc.closed state.grpc :=
  fun _ _ moves _ => moves.1.closed

/-- The outline of the goroutine of `server.Start`. -/
theorem serveGoroutine_outlined (documented : grpc.Documented) (stopping : ι → Stopping)
    {state : ServerState grpc} (running : state.finished = 0) :
    (Goroutine.spawned .serve : Goroutine ι).Outlined (Goroutine.Post stopping (.spawned .serve))
      serveGoroutine state := by
  apply Goroutine.outlined_call documented Stable.running running
  · exact fun _ _ running => ⟨trivial, running⟩
  intro before reply after running _ answered _
  obtain ⟨started, rfl⟩ := answered
  apply Goroutine.outlined_call documented (Stable.running.and (Stable.spawned .serve))
    ⟨running, started⟩
  · exact fun _ _ known => ⟨trivial, known.1⟩
  intro before reply after known grows answered _
  have running := (lifecycle_finished (by simp) answered).trans known.1
  apply Goroutine.outlined_call documented (Stable.running.and (Stable.spawned .serve))
    ⟨running, grows.spawned _ known.2⟩
  · exact fun _ _ known => ⟨trivial, known.1⟩
  intro before reply after known grows answered _
  have running := (lifecycle_finished (by simp) answered).trans known.1
  -- the listener is closed when `Serve` returns
  have closed : grpc.closed after.grpc := by
    obtain ⟨next, returns, rfl⟩ := answered
    exact documented.closes returns
  apply Goroutine.outlined_call documented
    ((Stable.running.and (Stable.spawned .serve)).and .closed)
    ⟨⟨running, grows.spawned _ known.2⟩, closed⟩
  · intro state sound known
    exact ⟨⟨sound.spawned _ known.1.2, known.1.1, known.2⟩, known.1.1⟩
  intro before reply after known _ answered _
  have finished : after.finished = 1 := by
    rw [show after = _ from answered]
    show before.finished + 1 = 1
    rw [known.1.1]
  exact Goroutine.outlined_done Stable.finished finished

/-- `Driver.Run` has counted this many goroutines. -/
theorem Stable.added (count : Nat) :
    Stable (.run : Goroutine ι) fun state : ServerState grpc => state.added = count :=
  fun _ _ moves _ counted => (moves.2.1 rfl).added.trans counted

/-- There is no socket unless `Driver.Run` opens it. -/
theorem Stable.absent :
    Stable (.run : Goroutine ι) fun state : ServerState grpc => state.socket = .absent :=
  fun _ _ moves _ => (moves.2.1 rfl).absent

/-- What is known when the server has tried to listen. -/
def Listened : Except Failure Unit → ServerState grpc → Prop
  | .ok _, state => state.added = 0
  | .error _, state => state.added = 0 ∧ state.socket = .absent

/-- What is known of listening is stable. -/
theorem Stable.listened (outcome : Except Failure Unit) :
    Stable (.run : Goroutine ι) (Listened outcome : ServerState grpc → Prop) := by
  cases outcome with
  | ok value => exact Stable.added 0
  | error failure => exact (Stable.added 0).and .absent

/-- A function of the server that makes calls to the system only. -/
abbrev onSocket (program : ServerProg Unit) : LifeProg Unit :=
  Program.embed ServerCall.socket (fun _ reply => reply) program

/-- The outline of `net.Listen`. -/
theorem listenOn_outlined (documented : grpc.Documented) (proto addr : String)
    {state : ServerState grpc} (uncounted : state.added = 0) (absent : state.socket = .absent) :
    (Goroutine.run : Goroutine ι).Outlined Listened (onSocket (listenOn proto addr)) state := by
  apply Goroutine.outlined_call documented ((Stable.added 0).and .absent) ⟨uncounted, absent⟩
  · exact fun _ _ known => ⟨trivial, trivial⟩
  intro before reply after known _ answered _
  cases reply with
  | ok value =>
    cases answered
    exact Goroutine.outlined_done (Stable.listened (.ok ())) known.1
  | error failure =>
    cases answered
    exact Goroutine.outlined_done (Stable.listened (.error _)) known

/-- The outline of listening on a unix socket. -/
theorem listenUnix_outlined (documented : grpc.Documented) (addr : String)
    {state : ServerState grpc} (uncounted : state.added = 0) (absent : state.socket = .absent) :
    (Goroutine.run : Goroutine ι).Outlined Listened (onSocket (listenUnix addr)) state := by
  apply Goroutine.outlined_call documented ((Stable.added 0).and .absent) ⟨uncounted, absent⟩
  · exact fun _ _ known => ⟨trivial, trivial⟩
  intro before reply after known _ answered _
  cases answered
  cases reply with
  | ok value => exact listenOn_outlined documented "unix" _ known.1 known.2
  | error failure =>
    by_cases missing : failure.reason = .notFound
    · simp only [missing, if_true]
      exact listenOn_outlined documented "unix" _ known.1 known.2
    · simp only [missing, if_false]
      exact Goroutine.outlined_done (Stable.listened (.error _)) known

/-- The outline of `server.createListener`. -/
theorem createSocketListener_outlined (documented : grpc.Documented) (cases : CaseMapping)
    (endpoint : String) {state : ServerState grpc} (uncounted : state.added = 0)
    (absent : state.socket = .absent) :
    (Goroutine.run : Goroutine ι).Outlined Listened
      (onSocket (createSocketListener cases endpoint)) state := by
  cases parsed : parseEndpoint cases endpoint with
  | error failure =>
    have failed : createSocketListener cases endpoint = .done (.error (failure.wrap fun value =>
        .text ("failed to parse endpoint: " ++ value.message))) := by
      unfold createSocketListener
      rw [parsed]
      rfl
    rw [failed]
    exact Goroutine.outlined_done (Stable.listened (.error _)) ⟨uncounted, absent⟩
  | ok parts =>
    rw [createSocketListener_parsed parsed]
    split
    · exact listenUnix_outlined documented _ uncounted absent
    · exact listenOn_outlined documented _ _ uncounted absent

/-- The outline of `server.Wait` in `Driver.Run`. -/
theorem serverWait_outlined (documented : grpc.Documented) (stopping : ι → Stopping)
    {state : ServerState grpc} (started : ∀ goroutine, state.spawned goroutine = true) :
    (Goroutine.run : Goroutine ι).Outlined (Goroutine.Post stopping .run) serverWait state := by
  have stable : Stable (.run : Goroutine ι) fun state : ServerState grpc =>
      ∀ goroutine, state.spawned goroutine = true :=
    fun _ _ moves _ all goroutine => moves.1.spawned goroutine (all goroutine)
  apply Goroutine.outlined_call documented stable started
  · exact fun _ _ started => ⟨trivial, started⟩
  intro before reply after started _ answered sound
  obtain ⟨equal, rfl⟩ := answered
  have finished := sound.finished_of_equal (started .serve) equal
  apply Goroutine.outlined_call documented (stable.and .finished) ⟨started, finished⟩
  · exact fun _ _ known => ⟨trivial, known.2⟩
  intro before reply after known grows _ sound
  exact Goroutine.outlined_done (Stable.finished.and stable)
    ⟨grows.finished_eq sound known.2, fun goroutine => grows.spawned goroutine (known.1 goroutine)⟩

/-- A `go` statement starts its goroutine. -/
theorem spawned_go {goroutine : Spawned} {before after : ServerState grpc}
    (answered : lifecycle grpc (.go goroutine) before () after) :
    after.spawned goroutine = true := by
  rw [show after = _ from answered]
  show Function.update before.spawned goroutine true goroutine = true
  exact Function.update_self _ _ _

/-- The outline of `Driver.Run`. -/
theorem driverRun_outlined (documented : grpc.Documented) (stopping : ι → Stopping)
    (cases : CaseMapping) (nodeID endpoint : String) {state : ServerState grpc}
    (uncounted : state.added = 0) (absent : state.socket = .absent) :
    (Goroutine.run : Goroutine ι).Outlined (Goroutine.Post stopping .run)
      (driverRun cases nodeID endpoint) state := by
  unfold driverRun
  split
  · exact Goroutine.outlined_done ((Stable.added 0).and .absent) ⟨uncounted, absent⟩
  apply Program.Outlined.bind
  apply Program.Outlined.bind
  apply Program.Outlined.mapError
  apply Program.Outlined.mono ?_
    (createSocketListener_outlined documented cases endpoint uncounted absent)
  intro outcome state _ listened
  cases outcome with
  | error failure => exact listened
  | ok value =>
    apply Goroutine.outlined_call documented (Stable.added 0) listened
    · exact fun _ _ _ => ⟨trivial, trivial⟩
    intro before reply after known _ answered _
    have uncounted : after.added = 0 := by
      rw [show after = _ from answered]
      exact known
    apply Goroutine.outlined_call documented (Stable.added 0) uncounted
    · exact fun _ _ known => ⟨known, trivial⟩
    intro before reply after known _ answered _
    have counted : after.added = 1 := by
      rw [show after = _ from answered]
      show before.added + 1 = 1
      rw [known]
    apply Goroutine.outlined_call documented (Stable.added 1) counted
    · exact fun _ _ counted => ⟨counted, trivial⟩
    intro before reply after counted _ answered _
    have serving : after.spawned .serve = true := spawned_go answered
    have counted : after.added = 1 := by
      rw [show after = _ from answered]
      exact counted
    intro later moves _
    have known := And.intro (moves.1.spawned _ serving) ((moves.2.1 rfl).added.trans counted)
    apply Goroutine.outlined_call documented ((Stable.spawned .serve).and (Stable.added 1)) known
    · exact fun _ _ known => ⟨known.2, trivial⟩
    intro before reply after known grows answered _
    have started : after.spawned .stop = true := spawned_go answered
    apply serverWait_outlined documented stopping
    intro goroutine
    cases goroutine with
    | serve => exact grows.spawned _ known.1
    | stop => exact started

/-- The goroutine that serves has not finished before any of its steps. -/
theorem Goroutine.Point.running {request : ServerCall} {state : ServerState grpc}
    (point : (Goroutine.spawned .serve : Goroutine ι).Point request state) : state.finished = 0 := by
  cases request with
  | begin goroutine =>
    cases goroutine with
    | serve => exact point
    | stop => cases point
  | serve | serveReturned | workDone => exact point
  | _ => cases point

/-- In every interleaving the plugin is in a sound state, and each goroutine is at one of its
points. -/
theorem pluginPool_outlined (documented : grpc.Documented) {cases : CaseMapping}
    {nodeID endpoint : String} {stopping : ι → Stopping} {pool : PluginPool grpc ι}
    (reached : PluginReaches grpc cases nodeID endpoint stopping pool) :
    Pool.Outlined (lifecycle grpc) (serverRules grpc) Goroutine.Pre (Goroutine.Post stopping)
      pool := by
  refine Pool.Outlined.reaches (serverRules_compatible documented)
    ⟨fun _ => ?_, fun self => ?_⟩ reached
  · constructor <;> simp [pluginPool]
  · cases self with
    | run => exact driverRun_outlined documented stopping cases nodeID endpoint rfl rfl
    | spawned goroutine =>
      cases goroutine with
      | serve => exact serveGoroutine_outlined documented stopping rfl
      | stop => exact stopGoroutine_outlined documented stopping _
    | caller index => exact stopping_outlined documented stopping index _

end Points

end ListenerOperator
