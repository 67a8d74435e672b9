import ListenerOperator.ApiServer
import ListenerOperator.Controller.Reconcile

/-!
# The watched cluster and the work queue

`ListenerReconciler.SetupWithManager` and the work queue of the controller runtime, seen from one
Listener. Changes of the Listener queue it at once. Changes of slices and classes are events that
are handed to their handlers later, in any order, each handler on the Listeners of that time. A
queued Listener is reconciled call by call, with changes in between; it is queued again if it was
queued meanwhile, and after an error or if the result asks for it.

Slices are stored in the order in which they are listed. A cache promises no order, so that it may
change at any time without an event, if the parameter `reorders` says so.
-/

namespace ListenerOperator

open Interaction Keyed

/-- The object of an event that is no Listener. -/
inductive Event where
  | endpointSlice (slice : EndpointSlice)
  | listenerClass (listenerClass : ListenerClass)

/-- The handler of an event. -/
def Event.handle : Event → Prog (List ObjectKey)
  | .endpointSlice changed => handleEndpointSliceChanges changed
  | .listenerClass changed => handleListenerClassChanges changed

/-- A cluster, whether the Listener is queued, and the events without a handler yet. -/
structure Watch where
  cluster : Cluster
  queued : Bool := false
  events : List Event := []

/-- A change of the cluster; it queues the Listener if it changes it. -/
def Watch.commit (key : ObjectKey) (watch : Watch) (cluster : Cluster) : Watch :=
  { watch with
    cluster
    queued := watch.queued || decide (cluster.listeners.get key ≠ watch.cluster.listeners.get key) }

/-- What happens besides the reconciliation of the Listener. Nodes do not change, and nobody else
writes the Service of the Listener. -/
inductive Watch.Changes (reorders : Prop) (key : ObjectKey) (watch : Watch) : Watch → Prop where
  /-- Listeners are created, changed or deleted. -/
  | listeners (listeners : Store fun listener : Listener => listener.metadata.key)
      (revision : Nat) : Changes reorders key watch (watch.commit key { watch.cluster with
        listeners, revision })
  /-- A class is created or changed. -/
  | storeClass (listenerClass : ListenerClass) (revision : Nat) :
      Changes reorders key watch { watch with
      cluster := { watch.cluster with
        listenerClasses := watch.cluster.listenerClasses.insert listenerClass
        revision }
      events := .listenerClass listenerClass :: watch.events }
  /-- A class is deleted. -/
  | removeClass (listenerClass : ListenerClass) (revision : Nat) :
      Changes reorders key watch { watch with
      cluster := { watch.cluster with
        listenerClasses := watch.cluster.listenerClasses.erase listenerClass.metadata.name
        revision }
      events := .listenerClass listenerClass :: watch.events }
  /-- A slice is created, changed or deleted; the old and the new object have an event. -/
  | slice (first last : List EndpointSlice) (old new : Option EndpointSlice) (revision : Nat)
      (listed : watch.cluster.endpointSlices = first ++ (old.toList ++ last)) :
      Changes reorders key watch { watch with
        cluster := { watch.cluster with
          endpointSlices := first ++ (new.toList ++ last)
          revision }
        events := (old.toList ++ new.toList).map Event.endpointSlice ++ watch.events }
  /-- The slices are listed in another order; there is no event. -/
  | reordered (slices : List EndpointSlice) (allowed : reorders)
      (same : slices.Perm watch.cluster.endpointSlices) :
      Changes reorders key watch { watch with
        cluster := { watch.cluster with endpointSlices := slices } }
  /-- Other objects change. -/
  | others (services : Store fun service : Service => service.metadata.key)
      (pods : Store fun pod : Pod => pod.metadata.key)
      (pvs : Store fun pv : PersistentVolume => pv.metadata.name)
      (pvcs : Store fun pvc : PersistentVolumeClaim => pvc.metadata.key)
      (podListeners : Store fun podListeners : PodListeners => podListeners.metadata.key)
      (revision : Nat) (unwritten : services.get key = watch.cluster.services.get key) :
      Changes reorders key watch { watch with
        cluster := { watch.cluster with services, pods, pvs, pvcs, podListeners, revision } }
  /-- An event is handled. -/
  | handled (first last : List Event) (event : Event) (api : ApiServer) (requests : List ObjectKey)
      (pending : watch.events = first ++ event :: last)
      (ran : event.handle.run (serve api) watch.cluster = (.ok requests, watch.cluster)) :
      Changes reorders key watch { watch with
        queued := watch.queued || decide (key ∈ requests)
        events := first ++ last }

/-- The replies to the calls of a reconciliation. A call is served by the API server, or fails,
with or without its effect; an object that is there is not reported as missing. -/
def watched (key : ObjectKey) : Program.Answers Call Reply Watch :=
  fun request watch reply after => ∃ api cluster, after = watch.commit key cluster ∧
    ((reply, cluster) = serve api request watch.cluster ∨
      ∃ failure, failure.reason ≠ .notFound ∧ reply = .error failure ∧
        (cluster = watch.cluster ∨ cluster = (serve api request watch.cluster).2))

/-- Whether the queue takes a request again after its reconciliation. -/
def requeues : Except Failure Result → Bool
  | .ok result => !result.isZero
  | .error _ => true

/-- The controller at work on one Listener: what it watches, and what remains of the
reconciliation that is under way. -/
structure Controller where
  watch : Watch
  working : Option (Prog Result) := none

/-- One step of the controller or of what it watches. -/
inductive Controller.Step (reorders : Prop) (runtime : ControllerRuntime) (key : ObjectKey)
    (before : Controller) : Controller → Prop where
  /-- Something else changes. -/
  | change (watch : Watch) (changes : before.watch.Changes reorders key watch) :
      Step reorders runtime key before { before with watch }
  /-- The queued Listener is taken from the queue. -/
  | start (queued : before.watch.queued = true) (idle : before.working = none) :
      Step reorders runtime key before
        { watch := { before.watch with queued := false }
          working := some (reconcile runtime key) }
  /-- A call of the reconciliation is answered. -/
  | call (request : Call) (next : Reply request → Prog Result) (reply : Reply request)
      (watch : Watch) (waiting : before.working = some (.call request next))
      (answered : watched key request before.watch reply watch) :
      Step reorders runtime key before { watch, working := some (next reply) }
  /-- The reconciliation ends. -/
  | finish (outcome : Except Failure Result) (ended : before.working = some (.done outcome)) :
      Step reorders runtime key before
        { watch := { before.watch with queued := before.watch.queued || requeues outcome }
          working := none }

/-- Any number of steps. -/
abbrev Controller.Reaches (reorders : Prop) (runtime : ControllerRuntime) (key : ObjectKey) :
    Controller → Controller → Prop :=
  Relation.ReflTransGen (Controller.Step reorders runtime key)

end ListenerOperator
