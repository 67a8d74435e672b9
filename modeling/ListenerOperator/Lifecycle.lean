import ListenerOperator.Base.Outline
import ListenerOperator.Endpoint

/-!
# The life of the plugin's server

`pkg/server/server.go` and `Driver.Run` of `internal/csi/driver.go`: the goroutines that start,
serve, stop and wait, as programs over the shared state of the server. The `sync.WaitGroup`, the
`sync.Once` and the context are parts of that state, and a call that has to wait is answered only
when it need not wait any more.

The gRPC server belongs to `google.golang.org/grpc`; it is a parameter here, with what its methods
are documented to do.
-/

namespace ListenerOperator

open Interaction

/-- `grpc.Server`: what its methods may do, and what can be seen of it. A method that can block is
called in one step and returns in another one; the steps in which it returns are those that the
state permits. -/
structure GrpcServer where
  State : Type
  /-- `grpc.NewServer`. -/
  new : State
  /-- `Serve` is called. -/
  serve : State → State
  /-- `Serve` returns, with an error or without one. -/
  serveReturns : State → Option GoError → State → Prop
  /-- `GracefulStop` is called, or `Stop`. -/
  stop : (graceful : Bool) → State → State
  /-- `GracefulStop` returns, or `Stop`. -/
  stopReturns : (graceful : Bool) → State → State → Prop
  /-- The server goes on: connections and requests come and end. -/
  runs : State → State → Prop
  /-- The listener that `Serve` was given is closed. -/
  closed : State → Prop
  /-- The number of pending requests. -/
  pending : State → Nat
  /-- One of the two methods that stop the server was called. -/
  told : State → Prop
  /-- `GracefulStop` has returned. -/
  stopped : State → Prop

/-- A step of a gRPC server. -/
inductive GrpcServer.Moves (grpc : GrpcServer) : grpc.State → grpc.State → Prop where
  | serve (before : grpc.State) : Moves grpc before (grpc.serve before)
  | serveReturns {before after : grpc.State} {result : Option GoError}
      (returns : grpc.serveReturns before result after) : Moves grpc before after
  | stop (graceful : Bool) (before : grpc.State) : Moves grpc before (grpc.stop graceful before)
  | stopReturns {graceful : Bool} {before after : grpc.State}
      (returns : grpc.stopReturns graceful before after) : Moves grpc before after
  | runs {before after : grpc.State} (goes : grpc.runs before after) : Moves grpc before after

/-- What is documented of the methods of `grpc.Server`. -/
structure GrpcServer.Documented (grpc : GrpcServer) : Prop where
  /-- The listener will be closed when `Serve` returns. -/
  closes : ∀ {before result after}, grpc.serveReturns before result after → grpc.closed after
  /-- A closed listener stays closed. -/
  closed : ∀ {before after}, grpc.Moves before after → grpc.closed before → grpc.closed after
  /-- `GracefulStop` stops the server from accepting new connections and requests and blocks until
  all the pending ones are finished. -/
  stops : ∀ {before after}, grpc.stopReturns true before after → grpc.stopped after
  stopped : ∀ {before after}, grpc.Moves before after → grpc.stopped before → grpc.stopped after
  idle : ∀ {state}, grpc.stopped state → grpc.pending state = 0
  /-- A server is told to stop by the two methods, for good. -/
  tells : ∀ graceful state, grpc.told (grpc.stop graceful state)
  told : ∀ {before after}, grpc.Moves before after → grpc.told before → grpc.told after

/-- A gRPC server that was told to stop, and whose pending requests end, comes to rest, and then the
methods that were called can return. -/
structure GrpcServer.Finishes (grpc : GrpcServer) : Prop where
  rests : ∀ {state}, grpc.told state → Acc (fun after before => grpc.runs before after) state
  returns : ∀ {state}, grpc.told state → (∀ after, ¬ grpc.runs state after) →
    (∃ result after, grpc.serveReturns state result after) ∧
      ∀ graceful, ∃ after, grpc.stopReturns graceful state after

/-- The goroutines that the driver starts. -/
inductive Spawned where
  /-- Serves; started by `server.Start`. -/
  | serve
  /-- Stops the server when the context is done; started by `Driver.Run`. -/
  | stop
  deriving DecidableEq

/-- The socket that the server listens on, as far as the plugin has closed it itself. -/
inductive Socket where
  | absent
  | opened
  | closed
  deriving DecidableEq

/-- `net.Listener.Close`; the error of a second call is only logged. -/
def Socket.close : Socket → Socket
  | .absent => .absent
  | .opened => .closed
  | .closed => .closed

/-- What a goroutine does to the shared state. -/
inductive ServerCall where
  /-- `os.Remove` and `net.Listen`. -/
  | socket (request : SocketCall)
  /-- `s.listener = listener`. -/
  | setListener
  /-- `s.wg.Add(1)`. -/
  | add
  /-- `s.wg.Done()`. -/
  | workDone
  /-- `s.wg.Wait()`. -/
  | wait
  /-- `s.once.Do`, with the close of the listener inside. -/
  | closeOnce
  /-- The `go` statement. -/
  | go (goroutine : Spawned)
  /-- The first step of a goroutine, after its `go` statement. -/
  | begin (goroutine : Spawned)
  /-- `<-ctx.Done()`. -/
  | contextDone
  /-- `s.server.Serve` is called. -/
  | serve
  /-- `s.server.Serve` returns. -/
  | serveReturned
  /-- `s.server.GracefulStop` or `s.server.Stop` is called. -/
  | stop (graceful : Bool)
  /-- `s.server.GracefulStop` or `s.server.Stop` returns. -/
  | stopReturned (graceful : Bool)

/-- The value of a step. -/
@[reducible] def ServerReply : ServerCall → Type
  | .socket _ => Except CallError Unit
  | .serveReturned => Option GoError
  | _ => Unit

/-- A goroutine of the plugin. -/
abbrev LifeProg (α : Type) : Type := Program ServerCall ServerReply Failure α

/-- Make one step. -/
def act (request : ServerCall) : LifeProg (ServerReply request) := Program.perform request

/-- `server.Start`. -/
def serverStart (cases : CaseMapping) (endpoint : String) : LifeProg Unit := do
  (Program.embed ServerCall.socket (fun _ reply => reply)
    (createSocketListener cases endpoint)).mapError
      (Failure.wrap fun value => .text ("failed to create listener: " ++ value.message))
  act .setListener
  act .add
  act (.go .serve)

/-- The goroutine of `server.Start`; an error of `Serve` is only logged. -/
def serveGoroutine : LifeProg Unit := do
  act (.begin .serve)
  act .serve
  let _ ← act .serveReturned
  act .workDone

/-- `server.Stop`. -/
def serverStop : LifeProg Unit := do
  act (.stop true)
  act (.stopReturned true)
  act .wait
  act .closeOnce

/-- `server.ForceStop`. -/
def serverForceStop : LifeProg Unit := do
  act (.stop false)
  act (.stopReturned false)
  act .closeOnce

/-- `server.Wait`. -/
def serverWait : LifeProg Unit := do
  act .wait
  act .closeOnce

/-- `Driver.Run`; the services are registered before the server starts. -/
def driverRun (cases : CaseMapping) (nodeID endpoint : String) : LifeProg Unit := do
  if nodeID = "" then Program.lift (errorText "NodeID is not provided")
  else
    serverStart cases endpoint
    act (.go .stop)
    serverWait

/-- The goroutine of `Driver.Run`. -/
def stopGoroutine : LifeProg Unit := do
  act (.begin .stop)
  act .contextDone
  serverStop

/-- How a server is stopped from outside: `Driver.Stop`, and `ForceStop` of the server. -/
inductive Stopping where
  | stop
  | forceStop
  deriving DecidableEq

/-- The program of a stop from outside. -/
def Stopping.program : Stopping → LifeProg Unit
  | .stop => serverStop
  | .forceStop => serverForceStop

/-- The state of a server and of what it uses. A WaitGroup is the number of its additions and the
number of those that are done. -/
structure ServerState (grpc : GrpcServer) where
  grpc : grpc.State
  socket : Socket := .absent
  /-- `s.listener` is set. -/
  hasListener : Bool := false
  added : Nat := 0
  finished : Nat := 0
  /-- `s.once` was used. -/
  closed : Bool := false
  spawned : Spawned → Bool := fun _ => false
  /-- The context is done. -/
  cancelled : Bool := false

/-- The listener is closed, by the plugin or by the gRPC server. -/
def ServerState.Closed {grpc : GrpcServer} (state : ServerState grpc) : Prop :=
  state.socket = .closed ∨ grpc.closed state.grpc

/-- When a step can be made, its value, and the state after it. -/
def lifecycle (grpc : GrpcServer) (request : ServerCall) (before : ServerState grpc)
    (reply : ServerReply request) (after : ServerState grpc) : Prop :=
  match request, reply with
  | .socket (.remove _), _ => after = before
  | .socket (.listen _ _), .ok _ => after = { before with socket := .opened }
  | .socket (.listen _ _), .error _ => after = before
  | .setListener, _ => after = { before with hasListener := true }
  | .add, _ => after = { before with added := before.added + 1 }
  | .workDone, _ => after = { before with finished := before.finished + 1 }
  | .wait, _ => before.added = before.finished ∧ after = before
  | .closeOnce, _ =>
    after = if before.closed then before
      else { before with
        closed := true
        socket := if before.hasListener then before.socket.close else before.socket }
  | .go goroutine, _ =>
    after = { before with spawned := Function.update before.spawned goroutine true }
  | .begin goroutine, _ => before.spawned goroutine = true ∧ after = before
  | .contextDone, _ => before.cancelled = true ∧ after = before
  | .serve, _ => after = { before with grpc := grpc.serve before.grpc }
  | .serveReturned, result =>
    ∃ next, grpc.serveReturns before.grpc result next ∧ after = { before with grpc := next }
  | .stop graceful, _ => after = { before with grpc := grpc.stop graceful before.grpc }
  | .stopReturned graceful, _ =>
    ∃ next, grpc.stopReturns graceful before.grpc next ∧ after = { before with grpc := next }

/-- The gRPC server goes on. -/
inductive GrpcRuns {grpc : GrpcServer} : ServerState grpc → ServerState grpc → Prop where
  | runs (before : ServerState grpc) (next : grpc.State) (goes : grpc.runs before.grpc next) :
      GrpcRuns before { before with grpc := next }

/-- What happens around the goroutines. -/
inductive Surroundings {grpc : GrpcServer} : ServerState grpc → ServerState grpc → Prop where
  /-- The process gets a signal. -/
  | cancel (before : ServerState grpc) : Surroundings before { before with cancelled := true }
  | grpc {before after : ServerState grpc} (goes : GrpcRuns before after) :
      Surroundings before after

/-- The goroutines of a plugin that is stopped from outside any number of times. -/
inductive Goroutine (ι : Type) where
  | run
  | spawned (goroutine : Spawned)
  | caller (index : ι)
  deriving DecidableEq

/-- The program of each goroutine. -/
def Goroutine.program {ι : Type} (cases : CaseMapping) (nodeID endpoint : String)
    (stopping : ι → Stopping) : Goroutine ι → LifeProg Unit
  | .run => driverRun cases nodeID endpoint
  | .spawned .serve => serveGoroutine
  | .spawned .stop => stopGoroutine
  | .caller index => (stopping index).program

/-- The goroutines of a plugin and the state they share. -/
abbrev PluginPool (grpc : GrpcServer) (ι : Type) : Type :=
  Pool (Goroutine ι) ServerCall ServerReply Failure Unit (ServerState grpc)

/-- A plugin before its first step. -/
def pluginPool (grpc : GrpcServer) {ι : Type} (cases : CaseMapping) (nodeID endpoint : String)
    (stopping : ι → Stopping) : PluginPool grpc ι :=
  ⟨{ grpc := grpc.new }, Goroutine.program cases nodeID endpoint stopping⟩

/-- What a plugin can come to. -/
abbrev PluginReaches (grpc : GrpcServer) {ι : Type} (cases : CaseMapping) (nodeID endpoint : String)
    (stopping : ι → Stopping) (pool : PluginPool grpc ι) : Prop :=
  Pool.Reaches (lifecycle grpc) Surroundings (pluginPool grpc cases nodeID endpoint stopping) pool

end ListenerOperator
