import ListenerOperator.Verif.Atomicity
import ListenerOperator.Verif.LostUpdates
import ListenerOperator.Verif.Sources

/-!
# Where addresses come from

An address travels from a Service or a node into the status of a Listener, from there into the
PodListeners of a pod, and into its volume. Each step reads through the cache and may be late, and
other runs write between its reads and its writes. Still no address is made up: in every
interleaving the addresses of a status are those of a Service that was stored under the name of the
Listener, with the ports of that Service, and the addresses given to a pod are those of a status, or
that of the node of the pod with the node ports of such a Service.
-/

namespace ListenerOperator

open Interaction Versioned MergePatch Keyed Outcome

/-- The values that calls were answered by, as somebody has seen them. -/
abbrev Seen : Type := (request : Call) → Value request → Prop

/-- An address at which a Service is reached: that of a node that the slices of a NodePort Service
name, an ingress point of a LoadBalancer, or a cluster IP or the name of a ClusterIP Service. -/
def Service.Reached (seen : Seen) (service : Service) (address : String) : Prop :=
  match service.spec.type with
  | .nodePort => ∃ slices nodeName node info,
      seen (.listEndpointSlices service.metadata.ns service.metadata.name) slices ∧
        nodeName ∈ sliceNodeNames slices ∧ seen (.getNode { name := nodeName }) node ∧
          getPriorNodeAddress node = .ok info ∧ info.address = address
  | .loadBalancer => ∃ ingress ∈ service.loadBalancerIngress, ∃ info ∈ ingress.addresses,
      info.address = address
  | .clusterIP => address ∈ service.spec.clusterIPs ∨ address = getServiceFQDN service
  | .externalName => False

/-- An entry of a status that comes from a Service of the given name. -/
def IngressAddressSpec.From (seen : Seen) (key : ObjectKey) (entry : IngressAddressSpec) : Prop :=
  ∃ service, seen (.getService key) service ∧ entry.ports = service.publishedPorts ∧
    service.Reached seen entry.address

/-- Node ports that come from a Service of the given name. -/
def NodePortsFrom (seen : Seen) (key : ObjectKey) (ports : StringMap Int) : Prop :=
  ∃ service, seen (.getService key) service ∧ service.spec.type = .nodePort ∧
    ports = service.publishedPorts

/-- A status that comes from Services of the given name. -/
structure ListenerStatus.From (seen : Seen) (key : ObjectKey) (status : ListenerStatus) : Prop where
  entries : ∀ entry ∈ status.ingressAddresses, entry.From seen key
  nodePorts : status.nodePorts = ∅ ∨ NodePortsFrom seen key status.nodePorts

/-- The one entry of a pod on a node: the address of the node and the node ports. -/
structure OnNode (seen : Seen) (listenerKey : ObjectKey) (nodeName : String)
    (ingresses : List IngressAddressSpec) : Prop where
  entry : ∃ node info ports, seen (.getNode { name := nodeName }) node ∧
    getPriorNodeAddress node = .ok info ∧ NodePortsFrom seen listenerKey ports ∧
      ingresses = [⟨info.address, info.addressType, ports⟩]

/-- The addresses in a PodListeners object of the given name: entries that come from Services of
one name, or the entry of the node of the pod that the object is for. -/
def GivenFrom (seen : Seen) (key : ObjectKey) (ingresses : List IngressAddressSpec) : Prop :=
  ∃ listenerKey, (∀ entry ∈ ingresses, entry.From seen listenerKey) ∨
    ∃ podKey pod, seen (.getPod podKey) pod ∧ key = (pod.slot "").podListeners ∧
      OnNode seen listenerKey pod.spec.nodeName ingresses

section Mono

variable {seen wider : Seen}
  (widens : ∀ request value, request.kind = .read → seen request value → wider request value)

include widens

/-- Whoever has seen more has seen where a Service is reached. -/
theorem Service.Reached.mono {service : Service} {address : String}
    (reached : service.Reached seen address) : service.Reached wider address := by
  unfold Service.Reached at reached ⊢
  cases type : service.spec.type with
  | nodePort =>
    simp only [type] at reached
    obtain ⟨slices, nodeName, node, info, listed, named, stored, rest⟩ := reached
    exact ⟨slices, nodeName, node, info, widens _ _ rfl listed, named, widens _ _ rfl stored, rest⟩
  | loadBalancer =>
    simp only [type] at reached
    exact reached
  | clusterIP =>
    simp only [type] at reached
    exact reached
  | externalName =>
    simp only [type] at reached

/-- Whoever has seen more has seen where an entry comes from. -/
theorem IngressAddressSpec.From.mono {key : ObjectKey} {entry : IngressAddressSpec}
    (comes : entry.From seen key) : entry.From wider key := by
  obtain ⟨service, stored, ports, reached⟩ := comes
  exact ⟨service, widens _ _ rfl stored, ports, reached.mono widens⟩

/-- Whoever has seen more has seen where node ports come from. -/
theorem NodePortsFrom.mono {key : ObjectKey} {ports : StringMap Int}
    (comes : NodePortsFrom seen key ports) : NodePortsFrom wider key ports := by
  obtain ⟨service, stored, rest⟩ := comes
  exact ⟨service, widens _ _ rfl stored, rest⟩

/-- Whoever has seen more has seen where a status comes from. -/
theorem ListenerStatus.From.mono {key : ObjectKey} {status : ListenerStatus}
    (comes : status.From seen key) : status.From wider key where
  entries entry listed := (comes.entries entry listed).mono widens
  nodePorts := comes.nodePorts.imp_right fun ports => ports.mono widens

/-- Whoever has seen more has seen where the addresses of a pod come from. -/
theorem GivenFrom.mono {key : ObjectKey} {ingresses : List IngressAddressSpec}
    (given : GivenFrom seen key ingresses) : GivenFrom wider key ingresses := by
  obtain ⟨listenerKey, entries | ⟨podKey, pod, stored, own, onNode⟩⟩ := given
  · exact ⟨listenerKey, Or.inl fun entry listed => (entries entry listed).mono widens⟩
  · obtain ⟨node, info, ports, found, prior, comes, single⟩ := onNode.entry
    have moved : OnNode wider listenerKey pod.spec.nodeName ingresses :=
      ⟨node, info, ports, widens _ _ rfl found, prior, comes.mono widens, single⟩
    exact ⟨listenerKey, Or.inr ⟨podKey, pod, widens _ _ rfl stored, own, moved⟩⟩

end Mono

/-- An empty status comes from anywhere. -/
theorem ListenerStatus.from_empty (seen : Seen) (key : ObjectKey) :
    ({} : ListenerStatus).From seen key where
  entries _ listed := absurd listed List.not_mem_nil
  nodePorts := Or.inl rfl

/-- The addresses that a publication found for a pod: those of the status of a Listener that it
read, or that of the node with the node ports of the status. -/
def Gives (transcript : Transcript) (pod : Pod) (ingresses : List IngressAddressSpec) : Prop :=
  ∃ key listener, Answered transcript (.getListener key) listener ∧
    (ingresses = listener.status.ingressAddresses ∨ listener.status.nodePorts ≠ ∅ ∧
      ∃ node info, Answered transcript (.getNode { name := pod.spec.nodeName }) node ∧
        getPriorNodeAddress node = .ok info ∧
          ingresses = [⟨info.address, info.addressType, listener.status.nodePorts⟩])

/-- An entry for a volume of the pod that a PodListeners object is for. -/
def EntryFor (transcript : Transcript) (key : ObjectKey) (entry : PodListener) : Prop :=
  ∃ original modified pod, Answered transcript (.patchPod original modified) pod ∧
    key = (pod.slot "").podListeners ∧ Gives transcript pod entry.listenerIngresses

/-- The writes of runs that have to do with addresses, after the given calls. -/
def AddressCall (transcript : Transcript) : Call → Prop
  | .createListener sent => sent.status = {}
  | .updateListenerStatus sent => ∃ key current status,
    Answered transcript (.getListener key) current ∧ sent = { current with status } ∧
      status.From (Answered transcript) key
  | .createPodListeners sent => ∃ name entry, sent.listeners = .single name entry ∧
    EntryFor transcript sent.metadata.key entry
  | .patchPodListeners existing changed => ∃ key name entry,
    Answered transcript (.getPodListeners key) existing ∧
      changed = { existing with listeners := existing.listeners.insert name entry } ∧
        EntryFor transcript key entry
  | _ => True

section Suffix

variable {transcript later : Transcript} (continues : transcript <:+ later)

include continues

/-- The addresses stay found. -/
theorem Gives.mono {pod : Pod} {ingresses : List IngressAddressSpec}
    (gives : Gives transcript pod ingresses) : Gives later pod ingresses := by
  obtain ⟨key, listener, read, same | ⟨ported, node, info, found, rest⟩⟩ := gives
  · exact ⟨key, listener, continues.subset read, Or.inl same⟩
  · exact ⟨key, listener, continues.subset read,
      Or.inr ⟨ported, node, info, continues.subset found, rest⟩⟩

/-- An entry stays one for the object. -/
theorem EntryFor.mono {key : ObjectKey} {entry : PodListener}
    (made : EntryFor transcript key entry) : EntryFor later key entry := by
  obtain ⟨original, modified, pod, patched, own, gives⟩ := made
  exact ⟨original, modified, pod, continues.subset patched, own, gives.mono continues⟩

/-- A status stays one that comes from what was read. -/
theorem ListenerStatus.From.answered {key : ObjectKey} {status : ListenerStatus}
    (comes : status.From (Answered transcript) key) : status.From (Answered later) key :=
  comes.mono fun _ _ _ answered => continues.subset answered

end Suffix

section Follows

variable {transcript : Transcript}

/-- The addresses of the named nodes are read. -/
theorem nodeAddresses_addressCall (nodeNames : List String) (transcript : Transcript) :
    (nodeAddresses nodeNames).Follows AddressCall (fun later addresses => transcript <:+ later ∧
      ∀ info ∈ addresses, ∃ nodeName ∈ nodeNames, ∃ node,
        Answered later (.getNode { name := nodeName }) node ∧
          getPriorNodeAddress node = .ok info) transcript := by
  induction nodeNames generalizing transcript with
  | nil =>
    refine ⟨List.suffix_refl _, fun info listed => ?_⟩
    cases listed
  | cons nodeName nodeNames ih =>
    have read : (ask (.getNode { name := nodeName })).Follows AddressCall
        (fun later node => later = ⟨.getNode { name := nodeName }, .ok node⟩ :: transcript)
        transcript := follows_ask trivial
    refine read.bind ?_
    rintro _ node - rfl
    refine (follows_lift (getPriorNodeAddress node)).bind ?_
    rintro _ address - ⟨rfl, prior⟩
    refine (ih _).bind fun later addresses continues found => ?_
    refine ⟨(List.suffix_cons _ _).trans continues, fun info listed => ?_⟩
    rcases List.mem_cons.mp listed with rfl | rest
    · exact ⟨nodeName, List.mem_cons_self, node, continues.subset List.mem_cons_self, prior⟩
    · obtain ⟨other, named, stored⟩ := found.2 info rest
      exact ⟨other, List.mem_cons_of_mem _ named, stored⟩

/-- The addresses of a NodePort Service are those of the nodes that its slices name. -/
theorem getNodesAddresses_addressCall {service : Service} (type : service.spec.type = .nodePort)
    (transcript : Transcript) :
    (getNodesAddresses service).Follows AddressCall (fun later addresses => transcript <:+ later ∧
      ∀ info ∈ addresses, service.Reached (Answered later) info.address) transcript := by
  have names : (getNodeNames service).Follows AddressCall (fun later nodeNames => ∃ slices,
      Answered later (.listEndpointSlices service.metadata.ns service.metadata.name) slices ∧
        nodeNames = sliceNodeNames slices) transcript := by
    refine ⟨trivial, fun reply => ?_⟩
    cases reply with
    | ok slices => exact ⟨slices, List.mem_cons_self, rfl⟩
    | error failure => trivial
  refine names.bind ?_
  rintro later _ continues ⟨slices, listed, rfl⟩
  refine (nodeAddresses_addressCall (sliceNodeNames slices) later).mono ?_
  rintro last addresses ⟨onward, found⟩
  refine ⟨continues.trans onward, fun info among => ?_⟩
  obtain ⟨nodeName, named, node, stored, prior⟩ := found info among
  rw [Service.Reached, type]
  exact ⟨slices, nodeName, node, info, onward.subset listed, named, stored, prior, rfl⟩

/-- Each entry of a status is made from an address, with the ports. -/
theorem statusEntries_mem {preferred : AddressType} {ports : StringMap Int}
    {addresses : List AddressInfo} {entries : List IngressAddressSpec}
    (entered : statusEntries preferred ports addresses = .ok entries) {entry : IngressAddressSpec}
    (listed : entry ∈ entries) :
    entry.ports = ports ∧ ∃ info ∈ addresses, info.address = entry.address := by
  obtain ⟨info, among, made⟩ := mapM_ok_item entered listed
  obtain ⟨picked, pick, rfl⟩ := AddressInfo.statusEntry_eq_ok.mp made
  exact ⟨rfl, info, among, (AddressInfo.pick_eq_some pick).1.symm⟩

/-- Entries that are made from addresses at which a Service is reached come from the Service. -/
theorem entries_from {seen : Seen} {key : ObjectKey} {service : Service} {preferred : AddressType}
    {addresses : List AddressInfo} {entries : List IngressAddressSpec}
    (stored : seen (.getService key) service)
    (reached : ∀ info ∈ addresses, service.Reached seen info.address)
    (entered : statusEntries preferred service.publishedPorts addresses = .ok entries) :
    ∀ entry ∈ entries, entry.From seen key := by
  intro entry listed
  obtain ⟨ports, info, among, same⟩ := statusEntries_mem entered listed
  have here := reached info among
  rw [same] at here
  exact ⟨service, stored, ports, here⟩

/-- The status of a Listener comes from the Service of its name. -/
theorem listenerStatus_addressCall (listener : Listener) (transcript : Transcript) :
    (listenerStatus listener).Follows AddressCall (fun later status => transcript <:+ later ∧
      status.From (Answered later) listener.metadata.key) transcript := by
  have described : (describe listener).Follows AddressCall
      (fun later service => later = ⟨.getService listener.metadata.key, .ok service⟩ :: transcript)
      transcript := follows_ask trivial
  refine described.bind ?_
  rintro _ service - rfl
  have preferred : (preferredAddressType listener).Follows AddressCall (fun _ _ => True)
      (⟨.getService listener.metadata.key, .ok service⟩ :: transcript) :=
    (follows_ask trivial).bind fun _ _ _ _ => (follows_lift _).mono fun _ _ _ => trivial
  refine preferred.bind fun middle preferredType continues _ => ?_
  have start : transcript <:+ middle := (List.suffix_cons _ _).trans continues
  have stored : Answered middle (.getService listener.metadata.key) service :=
    continues.subset List.mem_cons_self
  split
  · rename_i type
    have ports : service.publishedPorts = portMap ServicePort.nodePort service.spec.ports := by
      rw [Service.publishedPorts, if_pos type]
    refine (follows_lift (getNodePorts service)).bind ?_
    rintro _ nodePorts - ⟨rfl, numbered⟩
    rw [getNodePorts, if_neg (not_not_intro type)] at numbered
    obtain rfl := Except.ok.inj numbered
    refine (getNodesAddresses_addressCall type middle).bind ?_
    rintro later addresses - ⟨onward, reached⟩
    refine (follows_lift (statusEntries _ _ addresses)).bind ?_
    rintro _ entries - ⟨rfl, entered⟩
    rw [← ports] at entered ⊢
    exact ⟨start.trans onward, entries_from (onward.subset stored) reached entered,
      Or.inr ⟨service, onward.subset stored, type, rfl⟩⟩
  · rename_i type
    have ports : service.publishedPorts = getPorts service := by
      rw [Service.publishedPorts, if_neg (by simp [type])]
    refine (follows_lift (getLbIngressAddresses service)).bind ?_
    rintro _ addresses - ⟨rfl, resolved⟩
    have reached : ∀ info ∈ addresses, service.Reached (Answered middle) info.address := by
      intro info among
      rw [getLbIngressAddresses, if_neg (not_not_intro type)] at resolved
      split at resolved
      · cases resolved
      · obtain rfl := Except.ok.inj resolved
        obtain ⟨ingress, listed, made⟩ := List.mem_flatMap.mp among
        rw [Service.Reached, type]
        exact ⟨ingress, listed, info, made, rfl⟩
    refine (follows_lift (statusEntries _ _ addresses)).bind ?_
    rintro _ entries - ⟨rfl, entered⟩
    rw [← ports] at entered
    exact ⟨start, entries_from stored reached entered, Or.inl rfl⟩
  · rename_i type
    have ports : service.publishedPorts = getPorts service := by
      rw [Service.publishedPorts, if_neg (by simp [type])]
    split
    · refine (follows_lift (getClusterIpAddresses service)).bind ?_
      rintro _ addresses - ⟨rfl, resolved⟩
      have reached : ∀ info ∈ addresses, service.Reached (Answered middle) info.address := by
        intro info among
        rw [getClusterIpAddresses, if_neg (not_not_intro type)] at resolved
        obtain rfl := Except.ok.inj resolved
        obtain ⟨clusterIP, listed, rfl⟩ := List.mem_map.mp among
        rw [Service.Reached, type]
        exact Or.inl listed
      refine (follows_lift (statusEntries _ _ addresses)).bind ?_
      rintro _ entries - ⟨rfl, entered⟩
      rw [← ports] at entered
      exact ⟨start, entries_from stored reached entered, Or.inl rfl⟩
    · refine ⟨start, fun entry listed => ?_, Or.inl rfl⟩
      obtain rfl := List.mem_singleton.mp listed
      refine ⟨service, stored, ports.symm, ?_⟩
      rw [Service.Reached, type]
      exact Or.inr rfl
  · trivial

/-- A program that follows its transcript does so when it is repeated. -/
theorem retryOnConflict_follows {α : Type} {allowed : Transcript → Call → Prop} {body : Prog α}
    {transcript : Transcript} (follows : ∀ later, transcript <:+ later →
      body.Follows allowed (fun _ _ => True) later) (retries : Nat) :
    (retryOnConflict body retries).Follows allowed (fun _ _ => True) transcript := by
  induction retries generalizing transcript with
  | zero => exact follows transcript (List.suffix_refl _)
  | succ retries ih =>
    refine (follows transcript (List.suffix_refl _)).attempt.bind fun later outcome continues _ => ?_
    cases outcome with
    | ok value => trivial
    | error failure =>
      dsimp only
      split
      · exact ih fun last onward => follows last (continues.trans onward)
      · trivial

/-- The status of a Listener is written over a copy of the Listener. -/
theorem updateListenerStatus_addressCall (listener : Listener) (transcript : Transcript) :
    (updateListenerStatus listener).Follows AddressCall (fun _ _ => True) transcript := by
  refine (listenerStatus_addressCall listener transcript).bind ?_
  rintro later status - ⟨-, comes⟩
  refine retryOnConflict_follows (fun last onward => ?_) _
  have read : (ask (.getListener listener.metadata.key)).Follows AddressCall
      (fun after current => after = ⟨.getListener listener.metadata.key, .ok current⟩ :: last)
      last := follows_ask trivial
  refine read.bind ?_
  rintro _ current - rfl
  have continues := onward.trans
    (List.suffix_cons ⟨.getListener listener.metadata.key, .ok current⟩ last)
  have allowed : AddressCall (⟨.getListener listener.metadata.key, .ok current⟩ :: last)
      (.updateListenerStatus { current with status }) :=
    ⟨listener.metadata.key, current, status, List.mem_cons_self, rfl, comes.answered continues⟩
  exact (follows_ask allowed).bind fun _ _ _ _ => trivial

/-- The Service of a Listener is written by reads and writes of Services. -/
theorem createService_ensures (runtime : ControllerRuntime) (listener : Listener) :
    (createService runtime listener).Ensures
      (fun call => call.kind = .read ∨ call.part = some .services) fun _ => True := by
  have lifted : ∀ {β : Type} (outcome : Except Failure β), (Program.lift outcome : Prog β).Ensures
      (fun call => call.kind = .read ∨ call.part = some .services) fun _ => True :=
    fun outcome => ensures_lift fun _ _ => trivial
  have updated : ∀ desired mutate, (createOrUpdate desired mutate).Ensures
      (fun call => call.kind = .read ∨ call.part = some .services) fun _ => True := by
    intro desired mutate
    refine ⟨Or.inl rfl, fun reply => ?_⟩
    cases reply with
    | ok existing =>
      refine (lifted (mutate existing)).bind fun mutated _ => ?_
      split
      · trivial
      · exact (ensures_ask (Or.inr rfl)).bind fun _ _ => trivial
    | error failure =>
      dsimp only
      split
      · refine (lifted (mutate desired)).bind fun mutated _ => ?_
        exact (ensures_ask (Or.inr rfl)).bind fun _ _ => trivial
      · trivial
  refine (ensures_ask (Or.inl rfl) : (getListenerClass listener).Ensures _ _).bind
    fun listenerClass _ => ?_
  split
  · trivial
  · refine (lifted (desiredService listener listenerClass)).bind fun desired _ => ?_
    refine (updated desired _).bind fun operation _ => ?_
    split <;> trivial

/-- The Listener of a volume is read, or it is created without a status. -/
theorem getListener_ensures (n : NodeServer) (pod : Pod) (pv : PersistentVolume)
    (volumeContext : VolumeContext) :
    (getListener n pod pv volumeContext).Ensures
      (fun call => call.kind = .read ∨ ∃ sent, call = .createListener sent ∧ sent.status = {})
      fun _ => True := by
  have lifted : ∀ {β : Type} (outcome : Except Failure β), (Program.lift outcome : Prog β).Ensures
      (fun call => call.kind = .read ∨ ∃ sent, call = .createListener sent ∧ sent.status = {})
      fun _ => True := fun outcome => ensures_lift fun _ _ => trivial
  have asked : ∀ (request : Call), request.kind = .read → (ask request).Ensures
      (fun call => call.kind = .read ∨ ∃ sent, call = .createListener sent ∧ sent.status = {})
      fun _ => True := fun request reads => ensures_ask (Or.inl reads)
  rw [getListener]
  split
  · exact (lifted _).bind fun _ _ => asked _ rfl
  · refine (lifted _).bind fun className _ => ?_
    refine (lifted _).bind fun podNamespace _ => ?_
    refine (asked _ rfl).mapError.bind fun listenerClass _ => ?_
    refine (lifted _).bind fun claimRef _ => ?_
    refine (asked _ rfl).mapError.bind fun pvc _ => ?_
    refine (lifted _).mapError.bind fun ports _ => ?_
    refine (lifted _).mapError.bind fun ownerReferences _ => ?_
    refine ⟨Or.inr ⟨_, rfl, rfl⟩, fun reply => ?_⟩
    cases reply with
    | ok created => trivial
    | error failure =>
      dsimp only
      split
      · exact (asked _ rfl).mapError
      · trivial

/-- What is published of an address of a status is the address as it is in the status. -/
theorem spec_ingressAddress (entries : List IngressAddressSpec) :
    (entries.map IngressAddressSpec.ingressAddress).map IngressAddress.spec = entries := by
  rw [List.map_map]
  exact List.map_id entries

/-- The addresses of a pod are read from a status, or from the node of the pod. -/
theorem getAddresses_addressCall (listener : Listener) (pod : Pod) (transcript : Transcript) :
    (getAddresses listener pod).Follows AddressCall (fun later found => transcript <:+ later ∧
      Gives later pod (found.2.map IngressAddress.spec)) transcript := by
  have read : (ask (.getListener listener.metadata.key)).Follows AddressCall
      (fun later current => later = ⟨.getListener listener.metadata.key, .ok current⟩ :: transcript)
      transcript := follows_ask trivial
  refine read.bind ?_
  rintro _ current - rfl
  let told : Transcript := ⟨.getListener listener.metadata.key, .ok current⟩ :: transcript
  split
  · rename_i ported
    have nodeCall : (ask (.getNode { name := pod.spec.nodeName })).Follows AddressCall
        (fun later node => later = ⟨.getNode { name := pod.spec.nodeName }, .ok node⟩ :: told)
        told := follows_ask trivial
    have address : (getNodeAddressByPod pod).Follows AddressCall (fun later info => ∃ node,
        later = ⟨.getNode { name := pod.spec.nodeName }, .ok node⟩ :: told ∧
          getPriorNodeAddress node = .ok info) told := by
      refine nodeCall.bind ?_
      rintro _ node - rfl
      refine (follows_lift (getPriorNodeAddress node)).mono ?_
      rintro _ info ⟨rfl, prior⟩
      exact ⟨node, rfl, prior⟩
    refine address.bind ?_
    rintro _ info - ⟨node, rfl, prior⟩
    have nonempty : current.status.nodePorts ≠ ∅ := by simpa using ported
    refine ⟨List.suffix_append [_, _] transcript, listener.metadata.key, current,
      List.mem_cons_of_mem _ List.mem_cons_self, Or.inr ⟨nonempty, node, info, ?_, prior, rfl⟩⟩
    exact List.mem_cons_self
  · split
    · exact ⟨List.suffix_cons _ _, listener.metadata.key, current, List.mem_cons_self,
        Or.inl (spec_ingressAddress _)⟩
    · trivial

/-- The addresses of a pod are written to the PodListeners object of the pod. -/
theorem publishPodListener_addressCall (n : NodeServer) {pod : Pod} (pv : PersistentVolume)
    (listener : Listener) {data : List IngressAddress} {transcript : Transcript}
    {original modified : Pod} (patched : Answered transcript (.patchPod original modified) pod)
    (gives : Gives transcript pod (data.map IngressAddress.spec)) :
    (publishPodListener n pod pv listener data).Follows AddressCall (fun _ _ => True)
      transcript := by
  refine (follows_lift _).bind ?_
  rintro _ claimRef - ⟨rfl, -⟩
  refine (follows_lift _).bind ?_
  rintro _ volumeName - ⟨rfl, -⟩
  obtain ⟨key, single⟩ := buildPodListenersObject_slot n pod listener volumeName
    (determinePodListenerScope listener) data
  let built := buildPodListenersObject n pod listener volumeName
    (determinePodListenerScope listener) data
  have own : EntryFor transcript built.metadata.key
      ⟨determinePodListenerScope listener, data.map IngressAddress.spec⟩ :=
    ⟨original, modified, pod, patched, key, gives⟩
  have written : (createOrUpdatePodListeners built volumeName).Follows AddressCall
      (fun _ _ => True) transcript := by
    refine ⟨trivial, fun reply => ?_⟩
    have onward : transcript <:+ ⟨.getPodListeners built.metadata.key, reply⟩ :: transcript :=
      List.suffix_cons _ _
    cases reply with
    | error failure =>
      dsimp only
      split
      · exact (follows_ask ⟨volumeName, _, single, own.mono onward⟩).mapError.bind
          fun _ _ _ _ => trivial
      · trivial
    | ok existing =>
      have changed := PodListeners.setEntry_single single existing
      exact (follows_ask ⟨built.metadata.key, volumeName, _, List.mem_cons_self, changed,
        own.mono onward⟩).mapError.bind fun _ _ _ _ => trivial
  exact written.bind fun _ _ _ _ => trivial

/-- A publication writes addresses so. -/
theorem publishToCluster_addressCall (n : NodeServer) (request : NodePublishVolumeRequest) :
    (publishToCluster n request).Follows AddressCall (fun _ _ => True) [] := by
  refine (follows_lift _).bind ?_
  rintro _ _ - ⟨rfl, -⟩
  refine (follows_ask trivial).bind ?_
  rintro _ pv - rfl
  refine (follows_lift _).bind ?_
  rintro _ podName - ⟨rfl, -⟩
  refine (follows_lift _).bind ?_
  rintro _ podNamespace - ⟨rfl, -⟩
  refine (follows_ask trivial).mapError.bind ?_
  rintro _ pod - rfl
  have resolved : ∀ transcript, (getListener n pod pv
      (newVolumeContextFromMap request.volumeContext)).Follows AddressCall (fun _ _ => True)
        transcript := by
    refine (getListener_ensures n pod pv _).follows fun _ call made => ?_
    rcases made with reads | ⟨sent, rfl, unset⟩
    · cases call <;> trivial
    · exact unset
  refine (resolved _).mapError.bind fun later listener _ _ => ?_
  have tied : (patchPVLabelsWithListener pv listener).Follows AddressCall (fun _ _ => True)
      later := (follows_ask trivial).mono fun _ _ _ => trivial
  refine tied.mapError.bind fun middle patched _ _ => ?_
  refine (follows_ask trivial).mapError.bind ?_
  rintro _ mounted - rfl
  refine (getAddresses_addressCall listener mounted _).mapError.bind ?_
  rintro last ⟨fresh, data⟩ - ⟨onward, gives⟩
  have mountedPod := onward.subset List.mem_cons_self
  exact (publishPodListener_addressCall n patched fresh mountedPod gives).mapError.bind
    fun _ _ _ _ => trivial

/-- Runs write addresses so. -/
theorem job_addressCall (job : Job) : job.program.Follows AddressCall (fun _ _ => True) [] := by
  cases job with
  | publish n request =>
    have published : (nodePublishVolume n request).Follows AddressCall (fun _ _ => True) [] := by
      refine (publishToCluster_addressCall n request).bind fun later found _ _ => ?_
      have files := publishToNode_adds n request.targetPath found.2
      refine (files.follows (fun _ call adds => ?_) later).bind fun _ _ _ _ => trivial
      cases call <;> trivial
    exact published.bind fun _ _ _ _ => trivial
  | reconcile runtime key =>
    have reconciled : (reconcile runtime key).Follows AddressCall (fun _ _ => True) [] := by
      refine ⟨trivial, fun reply => ?_⟩
      cases reply with
      | error failure =>
        dsimp only
        split <;> trivial
      | ok listener =>
        refine ((createService_ensures runtime listener).follows (fun _ call made => ?_) _).bind
          fun later result _ _ => ?_
        · rcases made with reads | services
          · cases call <;> trivial
          · cases call <;> first | trivial | cases services
        · split
          · trivial
          · exact (updateListenerStatus_addressCall listener later).bind fun _ _ _ _ => trivial
    exact reconciled.bind fun _ _ _ _ => trivial

end Follows

/-- Some version of the cluster answers the call by the value. -/
def Shown (history : History) (request : Call) (value : Value request) : Prop :=
  ∃ version api, history.Has version ∧ (serve api request version).1 = .ok value

/-- What some version answers, it answers later on. -/
theorem Shown.mono {before after : History} {request : Call} {value : Value request}
    (shown : Shown before request value) (extended : before.Extends after) :
    Shown after request value := by
  obtain ⟨version, api, had, replied⟩ := shown
  exact ⟨version, api, extended.versions version had, replied⟩

/-- What a transcript tells of objects is what versions of the history answer. -/
def Backed (transcript : Transcript) (history : History) : Prop :=
  ∀ request value, Answered transcript request value → request.kind ≠ .file →
    Shown history request value

/-- What is told stays so. -/
theorem Backed.mono {transcript : Transcript} {before after : History}
    (backed : Backed transcript before) (extended : before.Extends after) :
    Backed transcript after :=
  fun request value answered objects => (backed request value answered objects).mono extended

/-- The history answers one more call as the transcript tells. -/
theorem Backed.call {transcript : Transcript} {request : Call} {before after : History}
    {reply : Reply request} (backed : Backed transcript before)
    (answered : cached request before reply after) :
    Backed (⟨request, reply⟩ :: transcript) after := by
  have kept := backed.mono (cached_extends answered)
  intro other value told objects
  rcases List.mem_cons.mp told with same | earlier
  · cases same
    have extended := cached_extends answered
    rcases cached_cases answered with idle | ⟨-, api, given, -, replied, -, same⟩
    · rcases idle.value value rfl with file | ⟨-, version, api, had, replied⟩
      · exact absurd file objects
      · exact ⟨version, api, extended.versions version had, replied⟩
    · rw [same value rfl]
      exact ⟨before.current, api, extended.versions _ before.has_current, replied⟩
  · exact kept other value earlier objects

/-- A history in which every address has a source: those of the statuses in all its versions, and
those in the PodListeners. -/
structure Sourced (history : History) : Prop where
  statuses : ∀ version key listener, history.Has version →
    version.listeners.get key = some listener → listener.status.From (Shown history) key
  given : ∀ version key object (name : String) (entry : PodListener), history.Has version →
    version.podListeners.get key = some object → object.listeners[name]? = some entry →
      GivenFrom (Shown history) key entry.listenerIngresses

/-- A new version with addresses that have a source leaves a history in which all have. -/
theorem Sourced.extend {before after : History} (sourced : Sourced before)
    (extended : before.Extends after)
    (only : ∀ version, after.Has version → version = after.current ∨ before.Has version)
    (statuses : ∀ key listener, after.current.listeners.get key = some listener →
      listener.status.From (Shown after) key)
    (given : ∀ key object (name : String) (entry : PodListener),
      after.current.podListeners.get key = some object → object.listeners[name]? = some entry →
        GivenFrom (Shown after) key entry.listenerIngresses) : Sourced after := by
  refine ⟨?_, ?_⟩
  · intro version key listener had stored
    rcases only version had with rfl | earlier
    · exact statuses key listener stored
    · exact (sourced.statuses version key listener earlier stored).mono
        fun _ _ _ shown => shown.mono extended
  · intro version key object name entry had stored listed
    rcases only version had with rfl | earlier
    · exact given key object name entry stored listed
    · exact (sourced.given version key object name entry earlier stored listed).mono
        fun _ _ _ shown => shown.mono extended

/-- The status of a stored Listener after a call: it is there before, or it was sent. -/
theorem serve_status_origin {api : ApiServer} {request : Call} {cluster : Cluster} {key : ObjectKey}
    {listener : Listener}
    (stored : (serve api request cluster).2.listeners.get key = some listener) :
    (∃ old, cluster.listeners.get key = some old ∧ old.status = listener.status) ∨
      ∃ sent, (request = .createListener sent ∨ request = .updateListenerStatus sent) ∧
        sent.metadata.key = key ∧ sent.status = listener.status := by
  by_cases part : request.part = some .listeners
  · cases request with
    | createListener sent =>
      cases held : cluster.listeners.get sent.metadata.key with
      | some other =>
        simp only [serve, held] at stored
        exact Or.inl ⟨listener, stored, rfl⟩
      | none =>
        simp only [serve, held] at stored
        rw [Store.get_insert] at stored
        split at stored
        · rename_i same
          obtain rfl := Option.some.inj stored
          exact Or.inr ⟨sent, Or.inl rfl, same.symm, rfl⟩
        · exact Or.inl ⟨listener, stored, rfl⟩
    | updateListenerStatus sent =>
      cases held : cluster.listeners.get sent.metadata.key with
      | none =>
        simp only [serve, held] at stored
        exact Or.inl ⟨listener, stored, rfl⟩
      | some current =>
        simp only [serve, held] at stored
        split at stored
        · exact Or.inl ⟨listener, stored, rfl⟩
        · rw [Cluster.storeStatus] at stored
          split at stored
          · exact Or.inl ⟨listener, stored, rfl⟩
          · rw [Store.get_insert] at stored
            split at stored
            · rename_i same
              obtain rfl := Option.some.inj stored
              have keyed : current.metadata.key = sent.metadata.key :=
                cluster.listeners.keyed held
              exact Or.inr ⟨sent, Or.inr rfl, (same.trans keyed).symm, rfl⟩
            · exact Or.inl ⟨listener, stored, rfl⟩
    | _ => cases part
  · rw [(serve_sameBut api request cluster).listeners part] at stored
    exact Or.inl ⟨listener, stored, rfl⟩

/-- A merged entry has the addresses of the entry before, or those of the patch. -/
theorem podListenerPatch_merge {patch : PodListenerPatch} {current : Option PodListener}
    {entry : PodListener} (merged : podListenerPatch.merge patch current = some entry) :
    (∃ held, current = some held ∧ held.listenerIngresses = entry.listenerIngresses) ∨
      patch.listenerIngresses = some entry.listenerIngresses := by
  obtain ⟨scope, ingresses⟩ := patch
  cases current with
  | none =>
    obtain ⟨list, set, rfl⟩ := Option.map_eq_some_iff.mp merged
    exact Or.inr set
  | some held =>
    obtain rfl := Option.some.inj merged
    cases ingresses with
    | none => exact Or.inl ⟨held, rfl, rfl⟩
    | some list => exact Or.inr rfl

/-- A patch between two entries sets no other addresses than those of the second. -/
theorem podListenerPatch_diff {first second : PodListener} {patch : PodListenerPatch}
    {list : List IngressAddressSpec} (differs : podListenerPatch.diff first second = some patch)
    (sets : patch.listenerIngresses = some list) : list = second.listenerIngresses := by
  simp only [podListenerPatch] at differs
  split at differs
  · cases differs
  · obtain rfl := Option.some.inj differs
    simp only [Option.ite_none_left_eq_some, Option.some.injEq] at sets
    exact sets.2.symm

/-- The addresses of an entry after a patch are those of the entry that was patched, or those of the
modified copy. -/
theorem merge_ingresses {original modified current : StringMap PodListener} {name : String}
    {entry : PodListener}
    (merged : (merge podListenerPatch (diff podListenerPatch original modified) current)[name]? =
      some entry) :
    ∃ source, (current[name]? = some source ∨ modified[name]? = some source) ∧
      source.listenerIngresses = entry.listenerIngresses := by
  rw [merge_get, diff_get] at merged
  cases before : original[name]? with
  | none =>
    cases after : modified[name]? with
    | none =>
      simp only [before, after] at merged
      exact ⟨entry, Or.inl merged, rfl⟩
    | some second =>
      simp only [before, after, podListenerPatch.merge_full, Option.some.injEq] at merged
      exact ⟨second, Or.inr rfl, by rw [merged]⟩
  | some first =>
    cases after : modified[name]? with
    | none => simp [before, after] at merged
    | some second =>
      cases differs : podListenerPatch.diff first second with
      | none =>
        simp only [before, after, differs, Option.map_none] at merged
        exact ⟨entry, Or.inl merged, rfl⟩
      | some patch =>
        simp only [before, after, differs, Option.map_some] at merged
        rcases podListenerPatch_merge merged with ⟨held, stored, same⟩ | sets
        · exact ⟨held, Or.inl stored, same⟩
        · exact ⟨second, Or.inr rfl, (podListenerPatch_diff differs sets).symm⟩

/-- An entry of a stored PodListeners object after a call: its addresses are there before, or they
were sent. -/
theorem serve_given_origin {api : ApiServer} {request : Call} {cluster : Cluster}
    {value : Value request} (replied : (serve api request cluster).1 = .ok value) {key : ObjectKey}
    {object : PodListeners} {name : String} {entry : PodListener}
    (stored : (serve api request cluster).2.podListeners.get key = some object)
    (listed : object.listeners[name]? = some entry) :
    (∃ old source, cluster.podListeners.get key = some old ∧ old.listeners[name]? = some source ∧
      source.listenerIngresses = entry.listenerIngresses) ∨
    ∃ sent source, (request = .createPodListeners sent ∨
        ∃ existing, request = .patchPodListeners existing sent) ∧ sent.metadata.key = key ∧
      sent.listeners[name]? = some source ∧
        source.listenerIngresses = entry.listenerIngresses := by
  by_cases part : request.part = some .podListeners
  · cases request with
    | createPodListeners sent =>
      obtain ⟨-, own, listeners, inserted⟩ := serve_createPodListeners replied
      rw [inserted, Store.get_insert] at stored
      split at stored
      · rename_i same
        obtain rfl := Option.some.inj stored
        rw [listeners] at listed
        exact Or.inr ⟨sent, entry, Or.inl rfl, (same.trans own).symm, listed, rfl⟩
      · exact Or.inl ⟨object, entry, stored, listed, rfl⟩
    | patchPodListeners existing sent =>
      obtain ⟨old, held, own, listeners, inserted⟩ := serve_patchPodListeners replied
      rw [inserted, Store.get_insert] at stored
      split at stored
      · rename_i same
        obtain rfl := Option.some.inj stored
        have keyed : old.metadata.key = sent.metadata.key := cluster.podListeners.keyed held
        have sentKey : sent.metadata.key = key := (same.trans (own.trans keyed)).symm
        rw [listeners] at listed
        obtain ⟨source, before | after, ingresses⟩ := merge_ingresses listed
        · exact Or.inl ⟨old, source, sentKey ▸ held, before, ingresses⟩
        · exact Or.inr ⟨sent, source, Or.inr ⟨existing, rfl⟩, sentKey, after, ingresses⟩
      · exact Or.inl ⟨object, entry, stored, listed, rfl⟩
    | _ => cases part
  · rw [(serve_sameBut api request cluster).podListeners part] at stored
    exact Or.inl ⟨object, entry, stored, listed, rfl⟩

section Step

variable {transcript : Transcript} {history : History}

/-- The addresses that a publication found have a source. -/
theorem EntryFor.given {key : ObjectKey} {entry : PodListener}
    (made : EntryFor transcript key entry) (backed : Backed transcript history)
    (sourced : Sourced history) : GivenFrom (Shown history) key entry.listenerIngresses := by
  obtain ⟨original, modified, pod, patched, own, listenerKey, listener, read, gives⟩ := made
  obtain ⟨version, api, had, replied⟩ := backed _ _ read (by simp [Call.kind])
  have comes : listener.status.From (Shown history) listenerKey :=
    sourced.statuses version listenerKey listener had (found_eq_ok.mp replied)
  rcases gives with same | ⟨ported, node, info, found, prior, single⟩
  · rw [same]
    exact ⟨listenerKey, Or.inl comes.entries⟩
  · -- The pod that was patched is a stored pod with other labels.
    obtain ⟨earlier, server, held, answered⟩ := backed _ _ patched (by simp [Call.kind])
    obtain ⟨old, stored, -, samePod, uid, spec, -⟩ := serve_patchPod answered
    have shown : Shown history (.getPod modified.metadata.key) old :=
      ⟨earlier, server, held, found_eq_ok.mpr stored⟩
    have ns : pod.metadata.ns = old.metadata.ns := congrArg ObjectKey.ns samePod
    have slot : (pod.slot "").podListeners = (old.slot "").podListeners := by
      rw [Pod.slot, Pod.slot, ns, uid]
    have onNode : OnNode (Shown history) listenerKey old.spec.nodeName entry.listenerIngresses := by
      rw [← spec]
      exact ⟨node, info, _, backed _ _ found (by simp [Call.kind]), prior,
        comes.nodePorts.resolve_left ported, single⟩
    exact ⟨listenerKey, Or.inr ⟨modified.metadata.key, old, shown, own.trans slot, onNode⟩⟩

/-- A status that is written has a source, under the key of the Listener. -/
theorem AddressCall.status {sent : Listener} (made : AddressCall transcript
      (.updateListenerStatus sent)) (backed : Backed transcript history) :
    sent.status.From (Shown history) sent.metadata.key := by
  obtain ⟨key, current, status, read, rfl, comes⟩ := made
  obtain ⟨version, api, -, replied⟩ := backed _ _ read (by simp [Call.kind])
  have keyed : current.metadata.key = key := version.listeners.keyed (found_eq_ok.mp replied)
  show status.From (Shown history) current.metadata.key
  rw [keyed]
  refine comes.mono fun request value reads answered => backed request value answered ?_
  rw [reads]
  simp

/-- The entries of PodListeners that are written have a source. -/
theorem AddressCall.given {request : Call} {sent : PodListeners} {name : String}
    {entry : PodListener} (made : AddressCall transcript request)
    (writes : request = .createPodListeners sent ∨
      ∃ existing, request = .patchPodListeners existing sent)
    (listed : sent.listeners[name]? = some entry) (backed : Backed transcript history)
    (sourced : Sourced history) :
    GivenFrom (Shown history) sent.metadata.key entry.listenerIngresses := by
  rcases writes with rfl | ⟨existing, rfl⟩
  · obtain ⟨volumeName, own, single, entryFor⟩ := made
    rw [single, StringMap.get_single] at listed
    split at listed
    · obtain rfl := Option.some.inj listed
      exact entryFor.given backed sourced
    · cases listed
  · obtain ⟨key, volumeName, own, read, rfl, entryFor⟩ := made
    obtain ⟨version, api, had, replied⟩ := backed _ _ read (by simp [Call.kind])
    have stored : version.podListeners.get key = some existing := found_eq_ok.mp replied
    have keyed : existing.metadata.key = key := version.podListeners.keyed stored
    show GivenFrom (Shown history) existing.metadata.key entry.listenerIngresses
    rw [keyed]
    rw [StringMap.get_insert] at listed
    split at listed
    · obtain rfl := Option.some.inj listed
      exact entryFor.given backed sourced
    · exact sourced.given version key existing name entry had stored listed

/-- A call of a run leaves a history in which every address has a source. -/
theorem Sourced.call {request : Call} {after : History} {reply : Reply request}
    (sourced : Sourced history) (made : AddressCall transcript request)
    (backed : Backed transcript history) (answered : cached request history reply after) :
    Sourced after := by
  have extended := cached_extends answered
  have widens : ∀ (other : Call) (value : Value other), other.kind = .read →
      Shown history other value → Shown after other value := fun _ _ _ shown => shown.mono extended
  rcases cached_cases answered with idle | ⟨-, api, value, -, replied, recorded, -⟩
  · rw [idle.unchanged]
    exact sourced
  · have current : after.current = (serve api request history.current).2 := by rw [recorded]; rfl
    have only : ∀ version, after.Has version → version = after.current ∨ history.Has version := by
      intro version had
      rw [recorded, History.has_record] at had
      rw [current]
      exact had
    refine sourced.extend extended only ?_ ?_
    · intro key listener stored
      rw [current] at stored
      rcases serve_status_origin stored with ⟨old, held, same⟩ | ⟨sent, writes, own, same⟩
      · rw [← same]
        exact (sourced.statuses _ key old history.has_current held).mono widens
      · rw [← same, ← own]
        rcases writes with rfl | rfl
        · have unset : sent.status = {} := made
          rw [unset]
          exact ListenerStatus.from_empty _ _
        · exact (AddressCall.status made backed).mono widens
    · intro key object name entry stored listed
      rw [current] at stored
      rcases serve_given_origin replied stored listed with ⟨old, source, held, among, same⟩ |
        ⟨sent, source, writes, own, among, same⟩
      · rw [← same]
        exact (sourced.given _ key old name source history.has_current held among).mono widens
      · rw [← same, ← own]
        exact (made.given writes among backed sourced).mono widens

end Step

/-- What others do: anything, if they write no status of a Listener and no entry of PodListeners. -/
def LeavesAddresses (before after : History) : Prop :=
  ∃ next, after = before.commit next ∧
    (∀ key listener, next.listeners.get key = some listener → listener.status = {} ∨
      ∃ old, before.current.listeners.get key = some old ∧ old.status = listener.status) ∧
    ∀ key object (name : String) (entry : PodListener), next.podListeners.get key = some object →
      object.listeners[name]? = some entry → ∃ old, before.current.podListeners.get key = some old ∧
        old.listeners[name]? = some entry

/-- What others do leaves a history in which every address has a source. -/
theorem LeavesAddresses.sourced {before after : History} (leaves : LeavesAddresses before after)
    (sourced : Sourced before) : Sourced after := by
  obtain ⟨next, rfl, statuses, given⟩ := leaves
  have extended := before.extends_commit next
  have widens : ∀ (other : Call) (value : Value other), other.kind = .read →
      Shown before other value → Shown (before.commit next) other value :=
    fun _ _ _ shown => shown.mono extended
  refine sourced.extend extended (fun version had => (before.has_commit next version).mp had) ?_ ?_
  · intro key listener stored
    rcases statuses key listener stored with unset | ⟨old, held, same⟩
    · rw [unset]
      exact ListenerStatus.from_empty _ _
    · rw [← same]
      exact (sourced.statuses _ key old before.has_current held).mono widens
  · intro key object name entry stored listed
    obtain ⟨old, held, among⟩ := given key object name entry stored listed
    exact (sourced.given _ key old name entry before.has_current held among).mono widens

/-- What runs rely on and guarantee: nothing is forgotten, and every address has a source. -/
def sourceRules : Rules History where
  invariant := Sourced
  rely before after := before.Extends after
  guarantee before after := before.Extends after
  rely_refl := .refl
  rely_trans := .trans

/-- Runs tolerate each other and what others do. -/
theorem sourceRules_compatible {ι : Type} :
    Pool.Compatible (fun _ : ι => sourceRules) LeavesAddresses where
  shared _ _ _ sourced := sourced
  tolerated _ _ _ _ _ _ _ extended := extended
  environment_invariant _ _ _ sourced leaves := leaves.sourced sourced
  environment_tolerated := by
    intro _ before after _ leaves
    obtain ⟨next, rfl, -⟩ := leaves
    exact before.extends_commit next

/-- A run is safe among others. -/
theorem job_sourceSafe (job : Job) (history : History) :
    job.program.Safe cached sourceRules (fun _ _ => True) history := by
  have start : Backed [] history := fun _ _ answered => absurd answered List.not_mem_nil
  refine Program.Safe.mono (fun _ _ _ _ => trivial) ((job_addressCall job).safe ?_ ?_ start)
  · intro transcript before after backed extended _
    exact backed.mono extended
  · intro transcript call before reply after made sourced backed answered
    exact ⟨sourced.call made backed answered, cached_extends answered, backed.call answered⟩

/-- In every interleaving of reconciliations and publications with reads from any version, and
whatever others do who write no addresses: the addresses in the status of a Listener are those of
Services that were stored under its name, with the ports of the Service, and the addresses that
PodListeners give to a pod are such, or that of the node of the pod with the node ports of such a
Service. -/
theorem addresses_sourced {ι : Type} (job : ι → Job) (start : Cluster)
    (sourced : Sourced { current := start }) (pool : Pool ι Call Reply Failure Unit History)
    (reached : Pool.Reaches cached LeavesAddresses (start.pool job) pool) :
    (∀ key listener, pool.state.current.listeners.get key = some listener →
      listener.status.From (Shown pool.state) key) ∧
    ∀ key object (name : String) (entry : PodListener),
      pool.state.current.podListeners.get key = some object →
        object.listeners[name]? = some entry →
          GivenFrom (Shown pool.state) key entry.listenerIngresses := by
  have verified : Pool.Verified cached (fun _ : ι => sourceRules) (fun _ _ _ => True)
      (start.pool job) := ⟨fun _ => sourced, fun index => job_sourceSafe (job index) _⟩
  have kept : Sourced pool.state :=
    Pool.invariant_of_reaches sourceRules_compatible (fun _ _ holds => holds)
      (fun _ _ holds leaves => leaves.sourced holds) verified sourced reached
  refine ⟨fun key listener stored => ?_, fun key object name entry stored listed => ?_⟩
  · exact kept.statuses _ key listener pool.state.has_current stored
  · exact kept.given _ key object name entry pool.state.has_current stored listed

/-- `webVolumeCluster` with the Service that the status of its Listener is made from. -/
def servedCluster : Cluster := { webVolumeCluster with
  services := .ofList [webService .nodePort]
  endpointSlices := [webSlice] }

/-- No Listener of `servedCluster` has the identifier of the next one. -/
theorem servedCluster_fresh : Fresh ⟨servedCluster, [], []⟩ unmountedUid := by
  refine ⟨by decide +kernel, ?_⟩
  rintro listener ⟨version, rfl | past, stored⟩
  · have only : listener = webListenerReady := unmountedCluster_listener stored
    rw [only]
    decide
  · cases past

/-- Every address of `servedCluster` has a source. -/
theorem servedCluster_sourced : Sourced { current := servedCluster } where
  statuses := by
    intro version key listener had stored
    rcases had with rfl | past
    · have only : listener = webListenerReady := unmountedCluster_listener stored
      have keyed : listener.metadata.key = key := servedCluster.listeners.keyed stored
      rw [only] at keyed ⊢
      rw [← keyed]
      have service : Shown { current := servedCluster } (.getService webListenerReady.metadata.key)
          (webService .nodePort) := ⟨servedCluster, .filling "", Or.inl rfl, rfl⟩
      have ports : (.single "http" 30080 : StringMap Int) = (webService .nodePort).publishedPorts := by
        decide +kernel
      refine ⟨fun entry listed => ?_, Or.inr ⟨webService .nodePort, service, rfl, ports⟩⟩
      obtain rfl := List.mem_singleton.mp listed
      refine ⟨webService .nodePort, service, ports, [webSlice], "worker", webNode,
        ⟨"worker.example", .hostname⟩, ?_, by decide, ?_, rfl, rfl⟩
      · exact ⟨servedCluster, .filling "", Or.inl rfl, by decide +kernel⟩
      · exact ⟨servedCluster, .filling "", Or.inl rfl, rfl⟩
    · cases past
  given := by
    intro version key object name entry had stored
    rcases had with rfl | past
    · cases stored
    · cases past

/-- The publication of `webVolume` gives the pod an address that has a source. -/
theorem servedCluster_given :
    ∃ (pool : Pool Unit Call Reply Failure Unit History) (object : PodListeners)
      (entry : PodListener),
      Pool.Reaches cached LeavesAddresses
        (servedCluster.pool fun _ => .publish .standard webRequest) pool ∧
      pool.state.current.podListeners.get (webPod.slot "listener").podListeners = some object ∧
      object.listeners["listener"]? = some entry ∧ entry.listenerIngresses ≠ [] ∧
      GivenFrom (Shown pool.state) (webPod.slot "listener").podListeners
        entry.listenerIngresses := by
  obtain ⟨pool, reached, state, -⟩ := Pool.reaches_run LeavesAddresses cached_prompt
    (servedCluster.pool fun _ => .publish .standard webRequest) () servedCluster_fresh
  have written : ((pool.state.current.podListeners.get (webPod.slot "listener").podListeners).bind
      fun object => object.listeners["listener"]?.map fun entry =>
        entry.listenerIngresses.length) = some 1 := by
    rw [state]
    decide +kernel
  obtain ⟨object, stored, measured⟩ := Option.bind_eq_some_iff.mp written
  obtain ⟨entry, listed, single⟩ := Option.map_eq_some_iff.mp measured
  have nonempty : entry.listenerIngresses ≠ [] := by
    intro empty
    rw [empty] at single
    cases single
  have given := (addresses_sourced (fun _ => .publish .standard webRequest) servedCluster
    servedCluster_sourced pool reached).2 _ object "listener" entry stored listed
  exact ⟨pool, object, entry, reached, stored, listed, nonempty, given⟩

end ListenerOperator
