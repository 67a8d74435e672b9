import ListenerOperator.Verif.Publication

/-!
# Changes that no watch sees

The status of a Listener is computed from its Service and from the nodes of its endpoints, but
neither Services nor nodes are watched. No change of one of them is noticed, whatever a
reconciliation would write after it.
-/

namespace ListenerOperator

open Interaction Outcome Keyed

/-- A change of one Service or of one node. -/
inductive Change where
  /-- The Service is created or changed. -/
  | service (service : Service)
  /-- The Service is deleted. -/
  | serviceDeleted (service : Service)
  /-- The node is created or changed. -/
  | node (node : Node)

/-- The kind of the changed object. -/
def Change.kind : Change → ObjectKind
  | .service _ => .service
  | .serviceDeleted _ => .service
  | .node _ => .node

/-- The changed object. -/
def Change.object : (change : Change) → change.kind.Object
  | .service changed => changed
  | .serviceDeleted deleted => deleted
  | .node changed => changed

/-- The cluster after the change. -/
def Change.apply (cluster : Cluster) : Change → Cluster
  | .service changed => { cluster with
      services := cluster.services.insert changed, revision := cluster.nextRevision }
  | .serviceDeleted deleted => { cluster with
      services := cluster.services.erase deleted.metadata.key, revision := cluster.nextRevision }
  | .node changed => { cluster with
      nodes := cluster.nodes.insert changed, revision := cluster.nextRevision }

/-- A registered watch maps a changed object to a request. -/
def Noticed (api : ApiServer) (cluster : Cluster) {kind : ObjectKind} (object : kind.Object)
    (request : ObjectKey) : Prop :=
  ∃ watch ∈ setupWithManager, ∃ same : kind = watch.kind, ∃ requests,
    (watch.map (same ▸ object)).run (serve api) cluster = (.ok requests, cluster) ∧
      request ∈ requests

/-- A reconciliation writes the Service, after which it asks to be run again, or another status. -/
def Cluster.Rewritten (runtime : ControllerRuntime) (api : ApiServer) (cluster : Cluster)
    (key : ObjectKey) : Prop :=
  ((reconcile runtime key).run (serve api) cluster).1 = .ok { requeue := true } ∨
    (((reconcile runtime key).run (serve api) cluster).2.listeners.get key).map (·.status) ≠
      (cluster.listeners.get key).map (·.status)

/-- After a reconciliation that ended without an error and does not ask to be run again, a change
with which another one would write something is noticed. -/
def ChangeNoticed (runtime : ControllerRuntime) (api : ApiServer) (cluster : Cluster)
    (key : ObjectKey) (change : Change) : Prop :=
  ∀ after, (reconcile runtime key).run (serve api) cluster = (.ok {}, after) →
    (change.apply after).Rewritten runtime api key →
      Noticed api (change.apply after) change.object key

/-- No watch maps a Service or a node to a request. -/
theorem not_noticed (api : ApiServer) (cluster : Cluster) (change : Change) (request : ObjectKey) :
    ¬ Noticed api cluster change.object request := by
  rintro ⟨watch, registered, same, -⟩
  have kinds : change.kind ∈ setupWithManager.map Registration.kind := by
    rw [same]
    exact List.mem_map_of_mem registered
  have unwatched : ObjectKind.service ∉ setupWithManager.map Registration.kind ∧
      ObjectKind.node ∉ setupWithManager.map Registration.kind := by decide
  cases change with
  | service => exact unwatched.1 kinds
  | serviceDeleted => exact unwatched.1 kinds
  | node => exact unwatched.2 kinds

/-- No change of a Service or of a node with which a reconciliation would write something is
noticed, for any Listener that was reconciled without an error. -/
theorem change_unnoticed (runtime : ControllerRuntime) (api : ApiServer) {cluster after : Cluster}
    {key : ObjectKey} (change : Change)
    (ended : (reconcile runtime key).run (serve api) cluster = (.ok {}, after))
    (altering : (change.apply after).Rewritten runtime api key) :
    ¬ ChangeNoticed runtime api cluster key change := by
  intro noticed
  exact not_noticed api (change.apply after) change key (noticed after ended altering)

/-- The reconciliation of `webListener`. -/
def reconcileWeb (cluster : Cluster) : Except Failure Result × Cluster :=
  (reconcile .standard webListener.metadata.key).run (serve (.filling "")) cluster

/-- The Service of `webListener` is deleted after its reconciliation, so that the next one would
create it, and this is not noticed. -/
theorem deletion_unnoticed :
    (reconcileWeb (reconcileWeb (nodePortCluster .ip ⟨.internalIP, "192.0.2.7"⟩)).2).1 = .ok {} ∧
    ¬ ChangeNoticed .standard (.filling "")
      (reconcileWeb (nodePortCluster .ip ⟨.internalIP, "192.0.2.7"⟩)).2 webListener.metadata.key
      (.serviceDeleted (webService .nodePort)) := by
  have ended : (reconcileWeb (reconcileWeb
      (nodePortCluster .ip ⟨.internalIP, "192.0.2.7"⟩)).2).1 = .ok {} := by decide +kernel
  refine ⟨ended, change_unnoticed _ _ _ (Prod.ext ended rfl) (Or.inl ?_)⟩
  decide +kernel

/-- A reconciliation of `webListener` returns no error and no request to be run again. After it
comes a change with which another one would write something, but no watch notices it. -/
def Missed (cluster : Cluster) (change : Change) : Prop :=
  (reconcileWeb cluster).1 = .ok {} ∧
    (change.apply (reconcileWeb cluster).2).Rewritten .standard (.filling "")
      webListener.metadata.key ∧
    ¬ Noticed (.filling "") (change.apply (reconcileWeb cluster).2) change.object
      webListener.metadata.key

/-- The Service with a load balancer is there after two reconciliations. -/
theorem balancer_described :
    ((reconcileWeb (reconcileWeb
      (loadBalancerCluster { hostname := "lb.example.com" })).2).2.services.get
        webListener.metadata.key).isSome := by
  decide +kernel

/-- Another hostname of the load balancer is missed, and another address of the node of the
endpoint. -/
theorem change_missed :
    (∃ service,
      (reconcileWeb (reconcileWeb
        (loadBalancerCluster { hostname := "lb.example.com" })).2).2.services.get
          webListener.metadata.key = some service ∧
      Missed (reconcileWeb (loadBalancerCluster { hostname := "lb.example.com" })).2
        (.service { service with loadBalancerIngress := [{ hostname := "lb.example.org" }] })) ∧
    Missed (reconcileWeb (nodePortCluster .ip ⟨.internalIP, "192.0.2.7"⟩)).2
      (.node { name := "worker", addresses := [⟨.internalIP, "192.0.2.8"⟩] }) := by
  constructor
  · refine ⟨_, (Option.some_get balancer_described).symm, by decide +kernel, ?_,
      not_noticed _ _ _ _⟩
    exact Or.inr (by decide +kernel)
  · exact ⟨by decide +kernel, Or.inr (by decide +kernel), not_noticed _ _ _ _⟩

end ListenerOperator
