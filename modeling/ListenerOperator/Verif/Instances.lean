import ListenerOperator.ApiServer
import ListenerOperator.Csi.Node

/-!
# Instances of the parameters

A controller runtime and an API server that meet what is assumed of them. The runtime sets owner
references as it is documented to; the server accepts every Service, fills its unset fields with
fixed values and gives every open node port a number above those in use.
-/

namespace ListenerOperator

/-- Whether a reference is to an owner of the given kind and name. -/
def OwnerReference.refersTo (reference : OwnerReference) (kind : String) (owner : ObjectMeta) :
    Bool :=
  reference.kind = kind && reference.name = owner.name

/-- The references with the one to an owner set, in place if there is one already. -/
def upsertOwnerRef (kind : String) (owner : ObjectMeta) (references : List OwnerReference) :
    List OwnerReference :=
  let set : OwnerReference := { kind, name := owner.name, uid := owner.uid, controller := true }
  if references.any (·.refersTo kind owner) then
    references.map fun reference => if reference.refersTo kind owner then set else reference
  else references ++ [set]

/-- Setting a reference again changes nothing. -/
theorem upsertOwnerRef_idem (kind : String) (owner : ObjectMeta) (references : List OwnerReference) :
    upsertOwnerRef kind owner (upsertOwnerRef kind owner references) =
      upsertOwnerRef kind owner references := by
  have self : (OwnerReference.mk kind owner.name owner.uid true).refersTo kind owner = true := by
    simp [OwnerReference.refersTo]
  by_cases present : references.any (·.refersTo kind owner) = true
  · have kept : (upsertOwnerRef kind owner references).any (·.refersTo kind owner) = true := by
      obtain ⟨reference, listed, refers⟩ := List.any_eq_true.mp present
      rw [upsertOwnerRef, if_pos present]
      exact List.any_eq_true.mpr ⟨_, List.mem_map.mpr ⟨reference, listed, if_pos refers⟩, self⟩
    rw [upsertOwnerRef, if_pos kept, upsertOwnerRef, if_pos present, List.map_map]
    apply List.map_congr_left
    intro reference _
    by_cases refers : reference.refersTo kind owner = true
    · simp [refers, self]
    · simp [refers]
  · have kept : (upsertOwnerRef kind owner references).any (·.refersTo kind owner) = true := by
      rw [upsertOwnerRef, if_neg present]
      simp [self]
    have others : ∀ reference ∈ references, reference.refersTo kind owner = false := by
      simpa using present
    rw [upsertOwnerRef, if_pos kept, upsertOwnerRef, if_neg present]
    simp only [List.map_append, List.map_cons, List.map_nil, self, ↓reduceIte,
      List.append_cancel_right_eq]
    refine (List.map_congr_left fun reference listed => ?_).trans (List.map_id _)
    simp [others reference listed]

/-- Setting a reference makes no other object the controller. -/
theorem upsertOwnerRef_controlled {kind : String} {owner : ObjectMeta}
    {references : List OwnerReference} {reference : OwnerReference}
    (listed : reference ∈ upsertOwnerRef kind owner references)
    (other : reference.ControlledByOther kind owner) : reference ∈ references := by
  rw [upsertOwnerRef] at listed
  split at listed
  · obtain ⟨original, among, same⟩ := List.mem_map.mp listed
    by_cases refers : original.refersTo kind owner = true
    · rw [if_pos refers] at same
      subst same
      exact absurd ⟨rfl, rfl⟩ other.2
    · rw [if_neg refers] at same
      rw [← same]
      exact among
  · rcases List.mem_append.mp listed with among | last
    · exact among
    · obtain rfl := List.mem_singleton.mp last
      exact absurd ⟨rfl, rfl⟩ other.2

/-- `SetControllerReference` as it is documented: the owner must be in the namespace of the
object or of the cluster, and no other object may be the controller. -/
def ControllerRuntime.standard : ControllerRuntime where
  setControllerReference kind owner controlled :=
    if ¬ (owner.ns = "" ∨ owner.ns = controlled.ns) then
      errorText "cross-namespace owner references are disallowed"
    else if ∃ reference ∈ controlled.ownerReferences, reference.ControlledByOther kind owner then
      errorText "Object is already owned by another controller"
    else .ok (upsertOwnerRef kind owner controlled.ownerReferences)
  settled := by
    intro kind owner controlled references set again ns same
    split at set
    · cases set
    · rename_i allowed
      split at set
      · cases set
      · rename_i free
        obtain rfl := Except.ok.inj set
        rw [ns, same, if_neg allowed, if_neg, upsertOwnerRef_idem]
        rintro ⟨reference, listed, other⟩
        exact free ⟨reference, upsertOwnerRef_controlled listed other, other⟩
  succeeds := by
    intro kind owner controlled allowed free
    refine ⟨_, (if_neg (not_not_intro allowed)).trans (if_neg ?_)⟩
    rintro ⟨reference, listed, other⟩
    exact free reference listed other
  refuses := by
    intro kind owner controlled other
    by_cases allowed : owner.ns = "" ∨ owner.ns = controlled.ns
    · exact ⟨_, (if_neg (not_not_intro allowed)).trans (if_pos other)⟩
    · exact ⟨_, if_pos allowed⟩

/-- The references that are set are the old ones and the new one. -/
theorem mem_upsertOwnerRef {kind : String} {owner : ObjectMeta} {references : List OwnerReference} :
    { kind, name := owner.name, uid := owner.uid, controller := true } ∈
        upsertOwnerRef kind owner references ∧
      ∀ reference ∈ upsertOwnerRef kind owner references, reference ∈ references ∨
        reference = { kind, name := owner.name, uid := owner.uid, controller := true } := by
  rw [upsertOwnerRef]
  split
  · rename_i present
    obtain ⟨reference, listed, refers⟩ := List.any_eq_true.mp present
    refine ⟨List.mem_map.mpr ⟨reference, listed, if_pos refers⟩, fun set among => ?_⟩
    obtain ⟨original, kept, rfl⟩ := List.mem_map.mp among
    split
    · exact Or.inr rfl
    · exact Or.inl kept
  · refine ⟨List.mem_append_right _ List.mem_cons_self, fun set among => ?_⟩
    exact (List.mem_append.mp among).imp_right List.mem_singleton.mp

/-- Where the standard function succeeds, it sets the reference. -/
theorem ControllerRuntime.standard_eq_ok {kind : String} {owner controlled : ObjectMeta}
    {references : List OwnerReference}
    (set : ControllerRuntime.standard.setControllerReference kind owner controlled =
      .ok references) :
    references = upsertOwnerRef kind owner controlled.ownerReferences := by
  simp only [ControllerRuntime.standard] at set
  split at set
  · cases set
  · split at set
    · cases set
    · exact (Except.ok.inj set).symm

/-- The standard function is as documented. -/
theorem ControllerRuntime.standard_documented : ControllerRuntime.standard.Documented where
  returns kind owner controlled := by
    simp only [ControllerRuntime.standard, errorText]
    split
    · simp
    · split <;> simp
  identity := by
    rintro kind ⟨name, ns, uid, -⟩ ⟨-, -, -, -⟩ controlled rfl rfl rfl
    rfl
  controls := by
    intro kind owner controlled references set
    rw [ControllerRuntime.standard_eq_ok set]
    exact mem_upsertOwnerRef.1
  adds := by
    intro kind owner controlled references set
    rw [ControllerRuntime.standard_eq_ok set]
    exact mem_upsertOwnerRef.2

/-- The ports with every open node port set to a number above those in use. -/
def allocateNodePorts : Int → List ServicePort → List ServicePort
  | _, [] => []
  | highest, port :: ports =>
    if port.nodePort = 0 then
      { port with nodePort := highest + 1 } :: allocateNodePorts (highest + 1) ports
    else port :: allocateNodePorts highest ports

/-- The highest node port in use, at least the one before the range of node ports. -/
def highestNodePort (ports : List ServicePort) : Int :=
  ports.foldl (fun highest port => max highest port.nodePort) 29999

/-- The specification with its unset fields filled. -/
def ServiceSpec.filled (spec : ServiceSpec) : ServiceSpec :=
  { spec with
    ports := if spec.type.hasNodePorts then allocateNodePorts (highestNodePort spec.ports) spec.ports
      else spec.ports
    externalTrafficPolicy := if spec.type.hasNodePorts then
      spec.externalTrafficPolicy.or (some .cluster) else spec.externalTrafficPolicy
    clusterIP := if spec.clusterIP = "" then "10.96.0.1" else spec.clusterIP
    clusterIPs := if spec.clusterIPs = [] then ["10.96.0.1"] else spec.clusterIPs
    ipFamilies := if spec.ipFamilies = [] then ["IPv4"] else spec.ipFamilies
    ipFamilyPolicy := spec.ipFamilyPolicy.or (some "SingleStack")
    sessionAffinity := if spec.sessionAffinity = "" then "None" else spec.sessionAffinity
    internalTrafficPolicy := spec.internalTrafficPolicy.or (some "Cluster")
    allocateLoadBalancerNodePorts :=
      if spec.type = .loadBalancer then spec.allocateLoadBalancerNodePorts.or (some true)
      else spec.allocateLoadBalancerNodePorts
    healthCheckNodePort :=
      if spec.type = .loadBalancer ∧ spec.externalTrafficPolicy = some .local ∧
        spec.healthCheckNodePort = 0 then 32767 else spec.healthCheckNodePort }

/-- Allocation changes open node ports only. -/
theorem allocateNodePorts_normalises {type : ServiceType} (typed : type.hasNodePorts = true)
    (highest : Int) (ports : List ServicePort) :
    List.Forall₂ (ServicePort.Normalises type) ports (allocateNodePorts highest ports) := by
  induction ports generalizing highest with
  | nil => exact .nil
  | cons port ports ih =>
    rw [allocateNodePorts]
    split
    · rename_i unset
      refine .cons ⟨rfl, ?_⟩ (ih _)
      intro set
      rcases set with set | untyped
      · exact absurd unset set
      · rw [typed] at untyped
        cases untyped
    · exact .cons ⟨rfl, fun _ => rfl⟩ (ih _)

/-- A filled specification differs in unset fields only. -/
theorem ServiceSpec.filled_normalises (spec : ServiceSpec) : spec.Normalises spec.filled where
  ports := by
    rw [ServiceSpec.filled]
    by_cases typed : spec.type.hasNodePorts = true
    · simp only [typed, ↓reduceIte]
      exact allocateNodePorts_normalises typed _ _
    · simp only [typed]
      exact List.forall₂_same.mpr fun port _ => ⟨rfl, fun _ => rfl⟩
  selector := rfl
  type := rfl
  publishNotReadyAddresses := rfl
  externalTrafficPolicy set := by
    rcases set with set | untyped
    · obtain ⟨policy, same⟩ := Option.isSome_iff_exists.mp set
      simp [ServiceSpec.filled, same]
    · simp [ServiceSpec.filled, untyped]
  clusterIP set := if_neg set
  clusterIPs set := if_neg set
  ipFamilies set := if_neg set
  ipFamilyPolicy set := by
    obtain ⟨policy, same⟩ := Option.isSome_iff_exists.mp set
    simp [ServiceSpec.filled, same]
  sessionAffinity set := if_neg set
  internalTrafficPolicy set := by
    obtain ⟨policy, same⟩ := Option.isSome_iff_exists.mp set
    simp [ServiceSpec.filled, same]
  allocateLoadBalancerNodePorts set := by
    rcases set with set | type
    · obtain ⟨value, same⟩ := Option.isSome_iff_exists.mp set
      simp [ServiceSpec.filled, same]
    · simp [ServiceSpec.filled, type]
  loadBalancerClass := rfl
  healthCheckNodePort set := by
    refine if_neg ?_
    rintro ⟨type, policy, unset⟩
    rcases set with set | other | other
    · exact set unset
    · exact other type
    · exact other policy

/-- The server that accepts every Service and fills its unset fields; new objects get the given
identifier. -/
def ApiServer.filling (uid : String) : ApiServer where
  admitService service := .ok service.spec.filled
  uid := uid
  normalises admitted := by
    rw [← Except.ok.inj admitted]
    exact ServiceSpec.filled_normalises _

/-- A Listener with one port. -/
def webListener : Listener where
  metadata := { name := "web", ns := "default", uid := "0c6b7a1e-5d2f-4c3b-9a8e-7f6d5c4b3a29" }
  spec := { className := "external", ports := [{ name := "http", port := 80 }] }

/-- The class of `webListener`, for a type of Services and a preferred type of addresses. -/
def webClass (serviceType : ServiceType) (preferred : AddressType) : ListenerClass where
  metadata := { name := "external" }
  spec := { serviceType := some serviceType, preferredAddressType := preferred }

/-- The Service of `webListener`, for a type of Services. -/
def webService (type : ServiceType) : Service where
  metadata := { name := "web", ns := "default", uid := "5e0d9c8b-7a69-4857-8463-52413f2e1d0c" }
  spec := {
    ports := [{
      name := "http"
      protocol := "TCP"
      port := 80
      targetPort := .int 80
      nodePort := if type.hasNodePorts then 30080 else 0 }]
    selector := .single "listeners.kubedoop.dev/mnt.0c6b7a1e5d2f4c3b9a8e7f6d5c4b3a29" "web"
    type
    clusterIP := "10.96.0.1"
    clusterIPs := ["10.96.0.1"] }

/-- A slice of the Service of `webListener`, with one endpoint on a node. -/
def webSlice : EndpointSlice where
  metadata := {
    name := "web-1"
    ns := "default"
    labels := .single "kubernetes.io/service-name" "web" }
  endpoints := [{ nodeName := some "worker" }]

/-- A cluster with `webListener`, its class and its Service. -/
def webCluster (type : ServiceType) (preferred : AddressType) : Cluster where
  listeners := .ofList [webListener]
  listenerClasses := .ofList [webClass type preferred]
  services := .ofList [webService type]

/-- A node server that visits the ports of a map in their order. -/
def NodeServer.standard : NodeServer where
  runtime := .standard
  entries ports := ports.toList
  entries_perm _ := .refl _

/-- The node of `webPod`. -/
def webNode : Node where
  name := "worker"
  addresses := [{ type := .hostName, address := "worker.example" }]

/-- A pod with one volume. -/
def webPod : Pod where
  metadata := { name := "web-0", ns := "default", uid := "7b0c2f4e-1a3d-4e5f-8a9b-0c1d2e3f4a5b" }
  spec := {
    nodeName := "worker"
    containers := [{ ports := [{ name := "http", protocol := "TCP", containerPort := 80 }] }]
    volumes := [{ name := "listener", persistentVolumeClaim := some "web-data" }] }

/-- The volume that `webPod` mounts. -/
def webVolume : PersistentVolume where
  metadata := { name := "pv-1", uid := "2e4d6c8b-0a9f-4b7c-9d1e-3f5a7b9c1d2e" }
  claimRef := some { ns := "default", name := "web-data" }

/-- `webListener` with the status of a NodePort Service. -/
def webListenerReady : Listener := { webListener with
  status := {
    serviceName := "web"
    ingressAddresses := [{
      address := "worker.example"
      addressType := .hostname
      ports := .single "http" 30080 }]
    nodePorts := .single "http" 30080 } }

/-- A cluster in which `webVolume` can be published. -/
def webVolumeCluster : Cluster where
  listeners := .ofList [webListenerReady]
  nodes := .ofList [webNode]
  pods := .ofList [webPod]
  pvs := .ofList [webVolume]

/-- The request to publish `webVolume` for `webPod`. -/
def webRequest : NodePublishVolumeRequest where
  volumeId := "pv-1"
  targetPath := "/mnt/web"
  volumeCapability := some {}
  volumeContext := ((MergePatch.StringMap.single csiStoragePodName "web-0").insert
    csiStoragePodNamespace "default").insert annotationListenerName "web"

end ListenerOperator
