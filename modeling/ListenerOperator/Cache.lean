import ListenerOperator.ApiServer
import ListenerOperator.Base.History
import ListenerOperator.Base.Uuid

/-!
# Reads through a cache

How calls are answered when reads go through a cache that may be late. A read gives what some
version of the cluster gives, or any error, also that an object is not found. A write reaches the
API server and is answered by it, or its answer is lost, or it is lost itself. Every identifier
that the server gives is a new one in the canonical form. Calls on files leave the cluster.
-/

namespace ListenerOperator

open Interaction Versioned

/-- A cluster with its earlier versions and the writes that were served. -/
abbrev History : Type := Versioned.History Cluster Call

/-- A Listener, as some version of the cluster has it. -/
def Known (history : History) (listener : Listener) : Prop :=
  ∃ version, history.Has version ∧
    version.listeners.get listener.metadata.key = some listener

/-- A canonical identifier that no Listener has or had. -/
def Fresh (history : History) (uid : String) : Prop :=
  Uuid.Canonical uid ∧ ∀ listener, Known history listener → listener.metadata.uid ≠ uid

/-- The history after a write that reaches the API server; a refused one changes nothing. -/
def served (api : ApiServer) (request : Call) (history : History) : History :=
  match (serve api request history.current).1 with
  | .ok _ => history.record request (serve api request history.current).2
  | .error _ => history

/-- The answers to calls whose reads go through the cache. -/
def cached : Program.Answers Call Reply History := fun request history reply after =>
  match request.kind with
  | .read => after = history ∧ ((∃ failure, reply = .error failure) ∨
      ∃ version api, history.Has version ∧ reply = (serve api request version).1)
  | .write => ((∃ failure, reply = .error failure) ∧ after = history) ∨
      ∃ api : ApiServer, Fresh history api.uid ∧ after = served api request history ∧
        ((∃ failure, reply = .error failure) ∨ reply = (serve api request history.current).1)
  | .file => after = history

end ListenerOperator
