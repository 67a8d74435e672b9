import ListenerOperator.Verif.Addresses

/-!
# Where addresses come from

The address of a node is the first one that counts, whatever its type. The status of a Listener
has an entry for each endpoint, in the order in which the slices and their endpoints are listed,
and a preference for IP addresses makes an IP address of every hostname.
-/

namespace ListenerOperator

open Interaction Outcome MergePatch Keyed

/-- The priority of a type of node addresses, the highest first; other types do not count. -/
def NodeAddressType.priority : NodeAddressType → Option Nat
  | .externalIP => some 0
  | .internalIP => some 1
  | .hostName => some 2
  | .internalDNS => none
  | .externalDNS => none

/-- An address of the highest priority in a list. -/
def NodeAddress.Best (addresses : List NodeAddress) (best : NodeAddress) : Prop :=
  best ∈ addresses ∧ ∃ high, best.type.priority = some high ∧
    ∀ other ∈ addresses, ∀ low, other.type.priority = some low → high ≤ low

/-- The outcome is an address of the highest priority, or an error if no address counts. -/
def Prioritised (addresses : List NodeAddress) : Except Failure AddressInfo → Prop
  | .ok address => ∃ best, NodeAddress.Best addresses best ∧ best.info = some address
  | .error _ => ∀ other ∈ addresses, other.type.priority = none

/-- An address counts if its type has a priority. -/
theorem NodeAddress.info_eq_none (nodeAddress : NodeAddress) :
    nodeAddress.info = none ↔ nodeAddress.type.priority = none := by
  rw [NodeAddress.info]
  cases nodeAddress.type <;> simp [NodeAddressType.priority]

/-- An address that counts has the type of its source. -/
theorem NodeAddress.info_source {nodeAddress : NodeAddress} {address : AddressInfo}
    (info : nodeAddress.info = some address) : nodeAddress.address = address.address ∧
      (address.addressType = .ip ∧
          (nodeAddress.type = .externalIP ∨ nodeAddress.type = .internalIP) ∨
        address.addressType = .hostname ∧ nodeAddress.type = .hostName) := by
  rw [NodeAddress.info] at info
  cases type : nodeAddress.type with
  | hostName =>
    simp only [type, Option.some.injEq] at info
    simp [← info]
  | internalIP =>
    simp only [type, Option.some.injEq] at info
    simp [← info]
  | externalIP =>
    simp only [type, Option.some.injEq] at info
    simp [← info]
  | internalDNS => simp [type] at info
  | externalDNS => simp [type] at info

/-- The address of a node is the first one that counts. -/
theorem getPriorNodeAddress_eq_ok (node : Node) (address : AddressInfo) :
    getPriorNodeAddress node = .ok address ↔
      node.addresses.findSome? NodeAddress.info = some address := by
  rw [getPriorNodeAddress]
  cases node.addresses.findSome? NodeAddress.info <;> simp [errorText]

/-- Without an address that counts there is no address of the node. -/
theorem getPriorNodeAddress_eq_error {node : Node}
    (uncounted : node.addresses.findSome? NodeAddress.info = none) :
    getPriorNodeAddress node = errorText "no address found" := by
  rw [getPriorNodeAddress, uncounted]

/-- Moving an address to the front of a list is a permutation. -/
theorem front_perm {addresses : List NodeAddress} {front : NodeAddress}
    (listed : front ∈ addresses) :
    (front :: addresses.erase front).Perm addresses := (List.perm_cons_erase listed).symm

/-- All orders of the addresses of a node give the same address exactly if all addresses that
count are the same one. -/
theorem getPriorNodeAddress_perm_iff (node : Node) :
    (∀ addresses : List NodeAddress, addresses.Perm node.addresses →
      getPriorNodeAddress { node with addresses } = getPriorNodeAddress node) ↔
    ∀ first ∈ node.addresses, ∀ second ∈ node.addresses, first.info ≠ none → second.info ≠ none →
      first.info = second.info := by
  constructor
  · intro same first listed second included counts others
    -- Each of the two addresses is the address of the node when it is listed first.
    have front : ∀ nodeAddress ∈ node.addresses, nodeAddress.info ≠ none →
        node.addresses.findSome? NodeAddress.info = nodeAddress.info := by
      intro nodeAddress member known
      obtain ⟨address, info⟩ := Option.ne_none_iff_exists'.mp known
      have moved := same _ (front_perm member)
      have ahead : getPriorNodeAddress
          { node with addresses := nodeAddress :: node.addresses.erase nodeAddress } =
            .ok address := by
        rw [getPriorNodeAddress_eq_ok]
        simp [info]
      rw [ahead] at moved
      rw [info]
      exact (getPriorNodeAddress_eq_ok node address).mp moved.symm
    rw [← front first listed counts, ← front second included others]
  · intro alike addresses perm
    cases found : node.addresses.findSome? NodeAddress.info with
    | none =>
      have uncounted : addresses.findSome? NodeAddress.info = none := by
        rw [List.findSome?_eq_none_iff] at found ⊢
        intro nodeAddress listed
        exact found nodeAddress (perm.mem_iff.mp listed)
      rw [getPriorNodeAddress_eq_error found, getPriorNodeAddress_eq_error uncounted]
    | some address =>
      obtain ⟨first, listed, info⟩ := List.exists_of_findSome?_eq_some found
      have counted : (addresses.findSome? NodeAddress.info).isSome := by
        rw [List.findSome?_isSome_iff]
        exact ⟨first, perm.mem_iff.mpr listed, by simp [info]⟩
      obtain ⟨other, chosen⟩ := Option.isSome_iff_exists.mp counted
      obtain ⟨second, included, same⟩ := List.exists_of_findSome?_eq_some chosen
      have equal := alike first listed second (perm.mem_iff.mp included) (by simp [info])
        (by simp [same])
      rw [info, same] at equal
      obtain rfl := Option.some.inj equal
      rw [(getPriorNodeAddress_eq_ok node address).mpr found]
      exact (getPriorNodeAddress_eq_ok _ address).mpr chosen

/-- The types of the addresses of a node, in the order in which they are listed. -/
def Node.types (node : Node) : List NodeAddressType := node.addresses.map NodeAddress.type

/-- The priority of the type at a position of a list. -/
def NodeAddressType.priorityAt (types : List NodeAddressType) (position : Nat) : Option Nat :=
  types[position]?.bind NodeAddressType.priority

/-- Types in an order that agrees with the priority: a type stands behind one of a lower priority
only if a type of at least its own priority stands before both. -/
def NodeAddressType.Ranked (types : List NodeAddressType) : Prop :=
  ∀ {position later low high : Nat}, position < later → priorityAt types position = some low →
    priorityAt types later = some high → high < low →
      ∃ earlier < position, ∃ top ≤ high, priorityAt types earlier = some top

/-- No two positions of a list have types that count. -/
def NodeAddressType.Lone (types : List NodeAddressType) : Prop :=
  ∀ first second : Nat, priorityAt types first ≠ none → priorityAt types second ≠ none →
    first = second

/-- The name of a type. -/
def NodeAddressType.text : NodeAddressType → String
  | .hostName => "Hostname"
  | .internalIP => "InternalIP"
  | .externalIP => "ExternalIP"
  | .internalDNS => "InternalDNS"
  | .externalDNS => "ExternalDNS"

/-- A type is known by its name. -/
theorem NodeAddressType.text_injective : Function.Injective NodeAddressType.text := by
  intro first second same
  cases first <;> cases second <;> first | rfl | exact absurd same (by decide)

/-- The priority at the position of a listed address is that of its type. -/
theorem NodeAddressType.priorityAt_types {node : Node} {position : Nat} {nodeAddress : NodeAddress}
    (listed : node.addresses[position]? = some nodeAddress) :
    priorityAt node.types position = nodeAddress.type.priority := by
  simp [priorityAt, Node.types, listed]

/-- A position whose type counts has an address that counts. -/
theorem NodeAddressType.exists_of_priorityAt {node : Node} {position : Nat}
    (counts : priorityAt node.types position ≠ none) : ∃ nodeAddress,
      node.addresses[position]? = some nodeAddress ∧ nodeAddress.info ≠ none := by
  cases listed : node.addresses[position]? with
  | none => simp [priorityAt, Node.types, listed] at counts
  | some nodeAddress =>
    rw [priorityAt_types listed] at counts
    exact ⟨nodeAddress, rfl, fun uncounted => counts (nodeAddress.info_eq_none.mp uncounted)⟩

/-- The address of a node is that at the first position whose type counts. -/
theorem getPriorNodeAddress_position {node : Node} {address : AddressInfo}
    (prior : getPriorNodeAddress node = .ok address) : ∃ position nodeAddress,
      node.addresses[position]? = some nodeAddress ∧ nodeAddress.info = some address ∧
      ∀ earlier < position, NodeAddressType.priorityAt node.types earlier = none := by
  have first := (getPriorNodeAddress_eq_ok node address).mp prior
  obtain ⟨before, nodeAddress, after, split, info, uncounted⟩ :=
    List.findSome?_eq_some_iff.mp first
  refine ⟨before.length, nodeAddress, by simp [split], info, ?_⟩
  intro earlier early
  have listed : node.addresses[earlier]? = some before[earlier] := by
    rw [split, List.getElem?_append_left early, List.getElem?_eq_getElem early]
  rw [NodeAddressType.priorityAt_types listed]
  exact (NodeAddress.info_eq_none _).mp (uncounted _ (List.getElem_mem early))

/-- Ranked types give an address of the highest priority, whatever the addresses are. -/
theorem NodeAddressType.Ranked.prioritised {node : Node} (ranked : Ranked node.types) :
    Prioritised node.addresses (getPriorNodeAddress node) := by
  cases prior : getPriorNodeAddress node with
  | error failure =>
    intro other listed
    rw [← NodeAddress.info_eq_none]
    cases found : node.addresses.findSome? NodeAddress.info with
    | none => exact List.findSome?_eq_none_iff.mp found other listed
    | some address =>
      rw [(getPriorNodeAddress_eq_ok node address).mpr found] at prior
      cases prior
  | ok address =>
    obtain ⟨position, nodeAddress, listed, info, uncounted⟩ := getPriorNodeAddress_position prior
    have counts : nodeAddress.type.priority ≠ none := by
      intro none
      rw [nodeAddress.info_eq_none.mpr none] at info
      cases info
    obtain ⟨high, priority⟩ := Option.ne_none_iff_exists'.mp counts
    refine ⟨nodeAddress, ⟨List.mem_of_getElem? listed, high, priority, ?_⟩, info⟩
    intro other included low counted
    apply Nat.le_of_not_lt
    intro higher
    -- An address of a higher priority cannot stand before the first that counts, nor behind it.
    obtain ⟨later, place⟩ := List.mem_iff_getElem?.mp included
    have chosen := (priorityAt_types listed).trans priority
    have outranks := (priorityAt_types place).trans counted
    rcases Nat.lt_trichotomy position later with behind | rfl | before
    · obtain ⟨earlier, early, top, -, ahead⟩ := ranked behind chosen outranks higher
      rw [uncounted earlier early] at ahead
      cases ahead
    · rw [chosen] at outranks
      have same := Option.some.inj outranks
      omega
    · rw [uncounted later before] at outranks
      cases outranks

/-- Types that give an address of the highest priority whatever the addresses are, are ranked. -/
theorem NodeAddressType.ranked_of_prioritised {types : List NodeAddressType}
    (prioritised : ∀ node : Node, node.types = types →
      Prioritised node.addresses (getPriorNodeAddress node)) : Ranked types := by
  intro position later low high behind chosen outranks higher
  -- Addresses that are named after their types tell which one was returned.
  let node : Node := ⟨"worker", types.map fun type => ⟨type, type.text⟩⟩
  have typed : node.types = types := by simp [node, Node.types, Function.comp_def]
  have best := prioritised node typed
  rw [← typed] at chosen outranks ⊢
  cases prior : getPriorNodeAddress node with
  | error failure =>
    rw [prior] at best
    obtain ⟨nodeAddress, listed, info⟩ := exists_of_priorityAt (by rw [chosen]; simp)
    have none := best nodeAddress (List.mem_of_getElem? listed)
    exact absurd (nodeAddress.info_eq_none.mpr none) info
  | ok address =>
    rw [prior] at best
    obtain ⟨best, ⟨included, top, ranked, least⟩, same⟩ := best
    obtain ⟨first, nodeAddress, listed, info, uncounted⟩ := getPriorNodeAddress_position prior
    -- The first address that counts has the name of the best one, hence its type.
    have named : ∀ other ∈ node.addresses, other.address = other.type.text := by
      intro other member
      obtain ⟨type, -, rfl⟩ := List.mem_map.mp member
      rfl
    have types : nodeAddress.type = best.type := by
      apply text_injective
      rw [← named _ (List.mem_of_getElem? listed), ← named _ included,
        (NodeAddress.info_source info).1, (NodeAddress.info_source same).1]
    have highest : priorityAt node.types first = some top := by
      rw [priorityAt_types listed, types, ranked]
    have bound : top ≤ high := by
      obtain ⟨other, place, -⟩ := exists_of_priorityAt (by rw [outranks]; simp)
      rw [priorityAt_types place] at outranks
      exact least other (List.mem_of_getElem? place) high outranks
    refine ⟨first, ?_, top, bound, highest⟩
    rcases Nat.lt_trichotomy first position with before | rfl | behind
    · exact before
    · rw [chosen] at highest
      have equal := Option.some.inj highest
      omega
    · rw [uncounted position behind] at chosen
      cases chosen

/-- With a single address that counts, all orders of the addresses give the same one. -/
theorem NodeAddressType.Lone.perm {node : Node} (lone : Lone node.types)
    (addresses : List NodeAddress) (perm : addresses.Perm node.addresses) :
    getPriorNodeAddress { node with addresses } = getPriorNodeAddress node := by
  apply (getPriorNodeAddress_perm_iff node).mpr ?_ addresses perm
  intro first listed second included counts others
  obtain ⟨position, place⟩ := List.mem_iff_getElem?.mp listed
  obtain ⟨later, other⟩ := List.mem_iff_getElem?.mp included
  have same : position = later := by
    apply lone
    · rwa [priorityAt_types place, ne_eq, ← NodeAddress.info_eq_none]
    · rwa [priorityAt_types other, ne_eq, ← NodeAddress.info_eq_none]
  rw [same, other] at place
  rw [Option.some.inj place]

/-- If all orders of addresses of some types give the same one, whatever the addresses are, then
one at most counts. -/
theorem NodeAddressType.lone_of_perm {types : List NodeAddressType}
    (same : ∀ node : Node, node.types = types → ∀ addresses : List NodeAddress,
      addresses.Perm node.addresses →
        getPriorNodeAddress { node with addresses } = getPriorNodeAddress node) : Lone types := by
  intro first second counts others
  apply Classical.byContradiction
  intro distinct
  -- The address at the first position differs from all others.
  let node : Node := ⟨"worker", types.mapIdx fun position type =>
    ⟨type, if position = first then "first" else "other"⟩⟩
  have typed : node.types = types := by
    apply List.ext_getElem?
    intro position
    simp [node, Node.types, Function.comp_def]
  rw [← typed] at counts others
  obtain ⟨nodeAddress, listed, known⟩ := exists_of_priorityAt counts
  obtain ⟨other, included, found⟩ := exists_of_priorityAt others
  have alike := (getPriorNodeAddress_perm_iff node).mp (same node typed) nodeAddress
    (List.mem_of_getElem? listed) other (List.mem_of_getElem? included) known found
  obtain ⟨address, info⟩ := Option.ne_none_iff_exists'.mp known
  have texts : nodeAddress.address = other.address := by
    rw [(NodeAddress.info_source info).1, (NodeAddress.info_source (alike.symm.trans info)).1]
  have here : nodeAddress.address = "first" := by
    simp only [node, List.getElem?_mapIdx, Option.map_eq_some_iff] at listed
    obtain ⟨type, -, rfl⟩ := listed
    simp
  have there : other.address = "other" := by
    simp only [node, List.getElem?_mapIdx, Option.map_eq_some_iff] at included
    obtain ⟨type, -, rfl⟩ := included
    simp [Ne.symm distinct]
  rw [here, there] at texts
  exact absurd texts (by decide)

/-- Nodes that list addresses of given types in a given order are known by an address of the
highest priority exactly if no type stands behind one of a lower priority without a type of at
least its priority before both. They are known by the same address in every order exactly if one
address at most counts. -/
theorem getPriorNodeAddress_prioritised_iff (types : List NodeAddressType) :
    ((∀ node : Node, node.types = types →
        Prioritised node.addresses (getPriorNodeAddress node)) ↔ NodeAddressType.Ranked types) ∧
    ((∀ node : Node, node.types = types → ∀ addresses : List NodeAddress,
        addresses.Perm node.addresses →
          getPriorNodeAddress { node with addresses } = getPriorNodeAddress node) ↔
      NodeAddressType.Lone types) := by
  refine ⟨⟨NodeAddressType.ranked_of_prioritised, ?_⟩, ⟨NodeAddressType.lone_of_perm, ?_⟩⟩
  · rintro ranked node rfl
    exact ranked.prioritised
  · rintro lone node rfl
    exact lone.perm

/-- A node that lists an external IP address before all others that count is known by it, and one
with a single address that counts is known by that in every order. -/
theorem worker_prioritised :
    Prioritised [⟨.internalDNS, "worker.internal"⟩, ⟨.externalIP, "203.0.113.7"⟩,
        ⟨.internalIP, "192.0.2.7"⟩, ⟨.hostName, "worker"⟩, ⟨.internalIP, "192.0.2.8"⟩]
      (getPriorNodeAddress { name := "worker", addresses := [⟨.internalDNS, "worker.internal"⟩,
        ⟨.externalIP, "203.0.113.7"⟩, ⟨.internalIP, "192.0.2.7"⟩, ⟨.hostName, "worker"⟩,
        ⟨.internalIP, "192.0.2.8"⟩] }) ∧
    getPriorNodeAddress { name := "worker", addresses :=
        [⟨.hostName, "worker"⟩, ⟨.internalDNS, "worker.internal"⟩] } =
      getPriorNodeAddress { name := "worker", addresses :=
        [⟨.internalDNS, "worker.internal"⟩, ⟨.hostName, "worker"⟩] } := by
  constructor
  · refine (getPriorNodeAddress_prioritised_iff [.internalDNS, .externalIP, .internalIP, .hostName,
      .internalIP]).1.mpr ?_ { name := "worker", addresses := _ } rfl
    intro position later low high behind chosen outranks higher
    refine ⟨1, ?_, 0, by omega, rfl⟩
    rcases position with _ | _ | position
    · cases chosen
    · obtain rfl : 0 = low := Option.some.inj chosen
      omega
    · omega
  · refine (getPriorNodeAddress_prioritised_iff [.internalDNS, .hostName]).2.mpr ?_
      { name := "worker", addresses := _ } rfl _ (List.Perm.swap ..)
    have second : ∀ position : Nat,
        NodeAddressType.priorityAt [.internalDNS, .hostName] position ≠ none → position = 1 := by
      intro position counts
      rcases position with _ | _ | position
      · exact absurd rfl counts
      · rfl
      · exact absurd rfl counts
    intro first other counts others
    rw [second first counts, second other others]

/-- A node that lists its hostname before its external IP address is known by its hostname, and by
its IP address if they are listed the other way. -/
theorem getPriorNodeAddress_unprioritised :
    let host : NodeAddress := ⟨.hostName, "worker.example"⟩
    let external : NodeAddress := ⟨.externalIP, "203.0.113.7"⟩
    getPriorNodeAddress { name := "worker", addresses := [host, external] } =
        .ok ⟨"worker.example", .hostname⟩ ∧
      getPriorNodeAddress { name := "worker", addresses := [external, host] } =
        .ok ⟨"203.0.113.7", .ip⟩ ∧
      ¬ Prioritised [host, external] (.ok ⟨"worker.example", .hostname⟩) := by
  refine ⟨rfl, rfl, ?_⟩
  rintro ⟨best, ⟨listed, high, ranked, least⟩, info⟩
  have top := least ⟨.externalIP, "203.0.113.7"⟩ (by simp) 0 rfl
  simp only [List.mem_cons, List.not_mem_nil, or_false] at listed
  rcases listed with rfl | rfl
  · obtain rfl := Option.some.inj ranked
    omega
  · simp [NodeAddress.info] at info

/-- An IP address that a Service has: of an ingress point, of the cluster, or of a node with an
endpoint. -/
def Cluster.IsIP (cluster : Cluster) (service : Service) (address : String) : Prop :=
  (∃ ingress ∈ service.loadBalancerIngress, ingress.ip = address) ∨
    address ∈ service.spec.clusterIPs ∨
    ∃ nodeName ∈ cluster.endpointNodes service, ∃ node, cluster.nodes.get nodeName = some node ∧
      ∃ nodeAddress ∈ node.addresses, nodeAddress.address = address ∧
        (nodeAddress.type = .externalIP ∨ nodeAddress.type = .internalIP)

/-- A hostname that a Service has: of an ingress point, of a node with an endpoint, or its own. -/
def Cluster.IsHostname (cluster : Cluster) (service : Service) (address : String) : Prop :=
  (∃ ingress ∈ service.loadBalancerIngress, ingress.hostname = address) ∨
    address = getServiceFQDN service ∨
    ∃ nodeName ∈ cluster.endpointNodes service, ∃ node, cluster.nodes.get nodeName = some node ∧
      ∃ nodeAddress ∈ node.addresses, nodeAddress.address = address ∧ nodeAddress.type = .hostName

/-- The type of a published address is the one of its source. -/
def Cluster.Truthful (cluster : Cluster) (service : Service) (entry : IngressAddressSpec) : Prop :=
  (entry.addressType = .ip → cluster.IsIP service entry.address) ∧
    (entry.addressType = .hostname → cluster.IsHostname service entry.address)

/-- The address that is found for a node is one of the node. -/
theorem Cluster.priorAddress_source {cluster : Cluster} {nodeName : String} {address : AddressInfo}
    (resolved : cluster.priorAddress nodeName = .ok address) :
    ∃ node, cluster.nodes.get nodeName = some node ∧
      ∃ nodeAddress ∈ node.addresses, nodeAddress.info = some address := by
  obtain ⟨node, read, prior⟩ := bind_eq_ok.mp resolved
  have stored : cluster.nodes.get nodeName = some node := by
    cases held : cluster.nodes.get nodeName with
    | none =>
      rw [held] at read
      cases read
    | some other =>
      rw [held] at read
      rw [Except.ok.inj read]
  have first := (getPriorNodeAddress_eq_ok node address).mp prior
  exact ⟨node, stored, List.exists_of_findSome?_eq_some first⟩

/-- The addresses that the status is made from have the types of their sources. -/
theorem Cluster.pickedAddresses_source {cluster : Cluster} {service : Service}
    {preferred : AddressType} {address : AddressInfo}
    (listed : address ∈ cluster.pickedAddresses service preferred) :
    (address.addressType = .ip ∧ cluster.IsIP service address.address) ∨
      (address.addressType = .hostname ∧ cluster.IsHostname service address.address) := by
  rw [Cluster.pickedAddresses] at listed
  cases type : service.spec.type with
  | nodePort =>
    simp only [type] at listed
    cases resolved : (cluster.endpointNodes service).mapM cluster.priorAddress with
    | error failure => simp [resolved] at listed
    | ok addresses =>
      simp only [resolved] at listed
      obtain ⟨nodeName, named, found⟩ := mapM_ok_item resolved listed
      obtain ⟨node, stored, nodeAddress, included, info⟩ := Cluster.priorAddress_source found
      obtain ⟨same, ⟨ip, source⟩ | ⟨host, source⟩⟩ := NodeAddress.info_source info
      · exact Or.inl ⟨ip, Or.inr (Or.inr
          ⟨nodeName, named, node, stored, nodeAddress, included, same, source⟩)⟩
      · exact Or.inr ⟨host, Or.inr (Or.inr
          ⟨nodeName, named, node, stored, nodeAddress, included, same, source⟩)⟩
  | loadBalancer =>
    simp only [type, List.mem_flatMap, LoadBalancerIngress.addresses, List.mem_append] at listed
    obtain ⟨ingress, included, named | numbered⟩ := listed
    · split at named
      · obtain rfl := List.mem_singleton.mp named
        exact Or.inr ⟨rfl, Or.inl ⟨ingress, included, rfl⟩⟩
      · cases named
    · split at numbered
      · obtain rfl := List.mem_singleton.mp numbered
        exact Or.inl ⟨rfl, Or.inl ⟨ingress, included, rfl⟩⟩
      · cases numbered
  | clusterIP =>
    simp only [type] at listed
    split at listed
    · obtain ⟨clusterIP, included, rfl⟩ := List.mem_map.mp listed
      exact Or.inl ⟨rfl, Or.inr (Or.inl included)⟩
    · cases listed
  | externalName => simp [type] at listed

/-- What is picked is the address itself, as an IP address if those are preferred, and as a
hostname otherwise. -/
theorem AddressInfo.pick_eq_some {address picked : AddressInfo} {preferred : AddressType}
    (pick : address.pick preferred = some picked) :
    picked.address = address.address ∧
      (preferred = .ip ∧ picked.addressType = .ip ∨
        preferred ≠ .ip ∧ address.addressType = .hostname ∧ picked.addressType = .hostname) := by
  by_cases ip : preferred = .ip
  · rw [ip, AddressInfo.pick_ip] at pick
    obtain rfl := Option.some.inj pick
    exact ⟨rfl, Or.inl ⟨ip, rfl⟩⟩
  · have host : address.addressType = .hostname := by
      by_contra other
      rw [(address.pick_eq_none preferred).mpr ⟨ip, other⟩] at pick
      cases pick
    rw [AddressInfo.pick, if_neg ip, if_pos host] at pick
    split at pick
    · obtain rfl := Option.some.inj pick
      exact ⟨rfl, Or.inr ⟨ip, host, host⟩⟩
    · obtain rfl := Option.some.inj pick
      exact ⟨rfl, Or.inr ⟨ip, host, rfl⟩⟩

/-- The entry of an address that is picked. -/
theorem AddressInfo.statusEntry_eq_ok {address : AddressInfo} {preferred : AddressType}
    {ports : StringMap Int} {entry : IngressAddressSpec} :
    address.statusEntry preferred ports = .ok entry ↔
      ∃ picked, address.pick preferred = some picked ∧
        entry = ⟨picked.address, picked.addressType, ports⟩ := by
  rw [AddressInfo.statusEntry]
  cases address.pick preferred with
  | none => simp [deref]
  | some picked => simp [deref, eq_comm]

/-- The ports that are published for a Service. -/
def Service.publishedPorts (service : Service) : StringMap Int :=
  if service.spec.type = .nodePort then portMap ServicePort.nodePort service.spec.ports
  else getPorts service

/-- The entries of a status are those of the addresses it is made from, or the name of the
Service if hostnames are preferred and the Service has an address in the cluster only. -/
theorem Cluster.statusFor_entries {cluster : Cluster} {listener : Listener} {service : Service}
    {preferred : AddressType} {status : ListenerStatus}
    (computed : cluster.statusFor listener service preferred = .ok status) :
    statusEntries preferred service.publishedPorts (cluster.pickedAddresses service preferred) =
      .ok status.ingressAddresses ∨
    (service.spec.type = .clusterIP ∧ preferred ≠ .ip ∧ status.ingressAddresses =
      [⟨getServiceFQDN service, .hostname, getPorts service⟩]) := by
  rw [Cluster.pickedAddresses, Service.publishedPorts]
  cases Cluster.computes_of_statusFor computed with
  | nodePort type resolved entered =>
    rw [type, resolved]
    exact Or.inl entered
  | loadBalancer type resolved entered =>
    rename_i addresses _
    have sources : addresses = service.loadBalancerIngress.flatMap LoadBalancerIngress.addresses := by
      rw [getLbIngressAddresses, if_neg (by simp [type])] at resolved
      split at resolved
      · cases resolved
      · exact (Except.ok.inj resolved).symm
    rw [sources] at entered
    rw [type]
    exact Or.inl entered
  | clusterIPs type ip entered =>
    simp only [type, ip, ↓reduceIte]
    exact Or.inl (ip ▸ entered)
  | serviceName type hostname => exact Or.inr ⟨type, hostname, rfl⟩

/-- A computed status is truthful exactly if every hostname that an IP address is made of is one
of the IP addresses of the Service as well. -/
theorem Cluster.statusFor_truthful_iff {cluster : Cluster} {listener : Listener}
    {service : Service} {preferred : AddressType} {status : ListenerStatus}
    (computed : cluster.statusFor listener service preferred = .ok status) :
    (∀ entry ∈ status.ingressAddresses, cluster.Truthful service entry) ↔
      (preferred = .ip → ∀ address ∈ cluster.pickedAddresses service .ip,
        address.addressType = .hostname → cluster.IsIP service address.address) := by
  rcases Cluster.statusFor_entries computed with entered | ⟨-, hosts, named⟩
  · constructor
    · rintro truthful rfl address listed -
      obtain ⟨entry, included, made⟩ := mapM_ok_value entered listed
      obtain ⟨picked, pick, rfl⟩ := AddressInfo.statusEntry_eq_ok.mp made
      rw [AddressInfo.pick_ip] at pick
      obtain rfl := Option.some.inj pick
      exact (truthful _ included).1 rfl
    · intro numbered entry included
      obtain ⟨address, listed, made⟩ := mapM_ok_item entered included
      obtain ⟨picked, pick, rfl⟩ := AddressInfo.statusEntry_eq_ok.mp made
      obtain ⟨same, ⟨rfl, type⟩ | ⟨-, host, type⟩⟩ := AddressInfo.pick_eq_some pick
      · have source : cluster.IsIP service address.address := by
          rcases Cluster.pickedAddresses_source listed with ⟨-, ip⟩ | ⟨host, -⟩
          · exact ip
          · exact numbered rfl address listed host
        simp [Cluster.Truthful, type, same, source]
      · have source : cluster.IsHostname service address.address := by
          rcases Cluster.pickedAddresses_source listed with ⟨ip, -⟩ | ⟨-, name⟩
          · rw [host] at ip
            cases ip
          · exact name
        simp [Cluster.Truthful, type, same, source]
  · rw [named]
    simp [Cluster.Truthful, hosts, Cluster.IsHostname]

/-- The types of the addresses that an update publishes are those of their sources exactly if,
where the class prefers IP addresses, every hostname that the Service has is one of its IP
addresses as well. -/
theorem updateListenerStatus_truthful_iff (api : ApiServer) {cluster after : Cluster}
    {listener written : Listener} {service : Service} {listenerClass : ListenerClass}
    (updated : (updateListenerStatus listener).run (serve api) cluster = (.ok (), after))
    (described : cluster.services.get listener.metadata.key = some service)
    (classed : cluster.listenerClasses.get listener.spec.className = some listenerClass)
    (published : after.listeners.get listener.metadata.key = some written) :
    (∀ entry ∈ written.status.ingressAddresses, cluster.Truthful service entry) ↔
      (listenerClass.preferredType = .ok .ip →
        ∀ address ∈ cluster.pickedAddresses service .ip, address.addressType = .hostname →
          cluster.IsIP service address.address) := by
  obtain ⟨otherService, otherClass, preferred, status, current, otherDescribed, otherClassed,
    resolved, computed, stored, rfl⟩ := updateListenerStatus_ok api updated
  obtain rfl := Option.some.inj (described.symm.trans otherDescribed)
  obtain rfl := Option.some.inj (classed.symm.trans otherClassed)
  have key : current.metadata.key = listener.metadata.key := cluster.listeners.keyed stored
  rw [← key] at stored published
  obtain ⟨stored, found, same, -⟩ := cluster.storeStatus_get current status stored
  obtain rfl := Option.some.inj (found.symm.trans published)
  rw [same, resolved, Except.ok.injEq]
  exact Cluster.statusFor_truthful_iff computed

/-- The addresses of a node with an IP address are published as what they are. -/
theorem nodePort_ip_truthful :
    ∃ after written, (updateListenerStatus webListener).run (serve (.filling ""))
        (nodePortCluster .hostnameConservative ⟨.internalIP, "192.0.2.7"⟩) = (.ok (), after) ∧
      after.listeners.get webListener.metadata.key = some written ∧
      ∀ entry ∈ written.status.ingressAddresses,
        (nodePortCluster .hostnameConservative ⟨.internalIP, "192.0.2.7"⟩).Truthful
          (webService .nodePort) entry := by
  have updated : (updateListenerStatus webListener).run (serve (.filling ""))
      (nodePortCluster .hostnameConservative ⟨.internalIP, "192.0.2.7"⟩) = (.ok (), _) :=
    Prod.ext (by decide) rfl
  refine ⟨_, _, updated, rfl, (updateListenerStatus_truthful_iff (.filling "") updated rfl rfl
    rfl).mpr ?_⟩
  intro _ address listed host
  have only : address = ⟨"192.0.2.7", .ip⟩ := List.mem_singleton.mp listed
  rw [only] at host
  cases host

/-- The hostname of a node is published as an IP address. -/
theorem nodePort_hostname_untruthful :
    ((updateListenerStatus webListener).run (serve (.filling ""))
        (nodePortCluster .hostnameConservative ⟨.hostName, "worker.example.com"⟩)).1 = .ok () ∧
      ∃ written, ((updateListenerStatus webListener).run (serve (.filling ""))
          (nodePortCluster .hostnameConservative
            ⟨.hostName, "worker.example.com"⟩)).2.listeners.get webListener.metadata.key =
          some written ∧
        ∃ entry ∈ written.status.ingressAddresses, entry.addressType = .ip ∧
          ¬ (nodePortCluster .hostnameConservative ⟨.hostName, "worker.example.com"⟩).IsIP
            (webService .nodePort) entry.address := by
  refine ⟨by decide, _, rfl, ⟨"worker.example.com", .ip, .single "http" 30080⟩, by decide, rfl, ?_⟩
  rintro (⟨ingress, listed, -⟩ | listed | ⟨nodeName, named, node, stored, nodeAddress, listed, -, ip⟩)
  · cases listed
  · exact absurd listed (by decide)
  · obtain rfl : nodeName = "worker" := List.mem_singleton.mp named
    obtain rfl : ⟨"worker", [⟨.hostName, "worker.example.com"⟩]⟩ = node := Option.some.inj stored
    obtain rfl := List.mem_singleton.mp listed
    rcases ip with ip | ip <;> cases ip

/-- Clusters with the same objects whose slices name the same nodes for a Service, in whatever
order and however often. -/
structure Cluster.SameNodes (service : Service) (first second : Cluster) : Prop where
  objects : second = { first with endpointSlices := second.endpointSlices }
  nodes : ∀ nodeName, nodeName ∈ second.endpointNodes service ↔
    nodeName ∈ first.endpointNodes service

/-- The text of the address that is found for a node. -/
def Cluster.nodeText (cluster : Cluster) (nodeName : String) : Option String :=
  (cluster.priorAddress nodeName).toOption.map AddressInfo.address

/-- The slices have no part in the address of a node. -/
theorem Cluster.SameNodes.priorAddress {service : Service} {first second : Cluster}
    (same : Cluster.SameNodes service first second) : second.priorAddress = first.priorAddress := by
  rw [same.objects]
  rfl

/-- The entries of a status are made of the texts of the addresses, in order. -/
theorem statusEntries_eq_map {preferred : AddressType} {ports : StringMap Int}
    {addresses : List AddressInfo} {entries : List IngressAddressSpec}
    (entered : statusEntries preferred ports addresses = .ok entries) :
    entries = addresses.map fun address =>
      ⟨address.address, if preferred = .ip then .ip else .hostname, ports⟩ := by
  have made := mapM_ok_map id (fun address =>
    ⟨address.address, if preferred = .ip then .ip else .hostname, ports⟩) entered ?_
  · rwa [List.map_id] at made
  · intro address entry picks
    obtain ⟨picked, pick, rfl⟩ := AddressInfo.statusEntry_eq_ok.mp picks
    obtain ⟨same, ⟨ip, type⟩ | ⟨hosts, -, type⟩⟩ := AddressInfo.pick_eq_some pick
    · simp [ip, same, type]
    · simp [hosts, same, type]

/-- The nodes of a Service whose addresses are found give the texts of the addresses. -/
theorem Cluster.nodeText_map {cluster : Cluster} {nodeNames : List String}
    {addresses : List AddressInfo} (resolved : nodeNames.mapM cluster.priorAddress = .ok addresses) :
    addresses.map (fun address => some address.address) = nodeNames.map cluster.nodeText := by
  refine mapM_ok_map _ _ resolved ?_
  intro nodeName address found
  rw [Cluster.nodeText, found]
  rfl

/-- Two NodePort statuses of one Service have the same entries exactly if the texts of their node
addresses are the same, in the same order. -/
theorem Cluster.SameNodes.entries_eq_iff {service : Service} {first second : Cluster}
    (same : Cluster.SameNodes service first second) (type : service.spec.type = .nodePort)
    {listener : Listener} {preferred : AddressType} {status again : ListenerStatus}
    (computed : first.statusFor listener service preferred = .ok status)
    (recomputed : second.statusFor listener service preferred = .ok again) :
    status.ingressAddresses.length = (first.endpointNodes service).length ∧
      (again.ingressAddresses = status.ingressAddresses ↔
        (second.endpointNodes service).map first.nodeText =
          (first.endpointNodes service).map first.nodeText) := by
  obtain ⟨ports, addresses, resolved, entered⟩ := Cluster.statusFor_nodePort type computed
  obtain ⟨otherPorts, others, otherResolved, otherEntered⟩ :=
    Cluster.statusFor_nodePort type recomputed
  have unmoved := same.priorAddress
  rw [unmoved] at otherResolved
  have texts := Cluster.nodeText_map resolved
  have otherTexts := Cluster.nodeText_map otherResolved
  have entries := statusEntries_eq_map entered
  have otherEntries := statusEntries_eq_map otherEntered
  rw [ports] at entries
  rw [otherPorts] at otherEntries
  constructor
  · rw [entries, List.length_map, ← List.length_map (fun address => some address.address), texts,
      List.length_map]
  · -- Entries and texts are both made of the addresses by a function that loses nothing.
    let entry : String → IngressAddressSpec := fun text =>
      ⟨text, if preferred = .ip then .ip else .hostname,
        portMap ServicePort.nodePort service.spec.ports⟩
    have injective : Function.Injective entry := fun _ _ equal =>
      congrArg IngressAddressSpec.address equal
    have made : ∀ list : List AddressInfo,
        list.map (fun address => entry address.address) =
          (list.map AddressInfo.address).map entry := by simp
    have known : ∀ list : List AddressInfo,
        list.map (fun address => some address.address) =
          (list.map AddressInfo.address).map some := by simp
    rw [← texts, ← otherTexts, entries, otherEntries, made, made, known, known,
      (List.map_injective_iff.mpr injective).eq_iff,
      (List.map_injective_iff.mpr (Option.some_injective _)).eq_iff]

/-- Slices that name the same nodes have a status if the others have one. -/
theorem Cluster.SameNodes.statusFor {service : Service} {first second : Cluster}
    (same : Cluster.SameNodes service first second) (type : service.spec.type = .nodePort)
    {listener : Listener} {preferred : AddressType} {status : ListenerStatus}
    (computed : first.statusFor listener service preferred = .ok status) :
    ∃ again, second.statusFor listener service preferred = .ok again := by
  obtain ⟨ports, addresses, resolved, entered⟩ := Cluster.statusFor_nodePort type computed
  -- Each node of the second listing has the address that it has in the first, with its entry.
  have found : ∀ nodeName ∈ second.endpointNodes service, ∃ address ∈ addresses,
      second.priorAddress nodeName = .ok address := by
    intro nodeName listed
    rw [same.priorAddress]
    exact mapM_ok_value resolved ((same.nodes nodeName).mp listed)
  rw [Cluster.statusFor, type]
  cases others : (second.endpointNodes service).mapM second.priorAddress with
  | error failure =>
    obtain ⟨nodeName, listed, failed⟩ := mapM_eq_error others
    obtain ⟨address, -, known⟩ := found nodeName listed
    rw [known] at failed
    cases failed
  | ok otherAddresses =>
    rw [ok_bind]
    cases made : statusEntries preferred (portMap ServicePort.nodePort service.spec.ports)
      otherAddresses with
    | ok entries => exact ⟨_, bind_eq_ok.mpr ⟨entries, made, rfl⟩⟩
    | error failure =>
      obtain ⟨address, listed, failed⟩ := mapM_eq_error made
      obtain ⟨nodeName, named, known⟩ := mapM_ok_item others listed
      obtain ⟨other, included, equal⟩ := found nodeName named
      obtain rfl := Except.ok.inj (known.symm.trans equal)
      obtain ⟨entry, -, picks⟩ := mapM_ok_value entered included
      obtain ⟨picked, pick, -⟩ := AddressInfo.statusEntry_eq_ok.mp picks
      have unpicked := ((address.statusEntry_error _ _ _).mp failed).1
      rw [pick] at unpicked
      cases unpicked

/-- With its endpoints on the same nodes, a cluster has the same nodes behind a Service whatever
node objects it has. -/
theorem Cluster.SameNodes.withNodes {service : Service} {first second : Cluster}
    (same : Cluster.SameNodes service first second) (nodes : Store Node.name) :
    Cluster.SameNodes service { first with nodes } { second with nodes } where
  objects := by
    rw [same.objects]
  nodes := same.nodes

/-- An update that succeeds publishes in the second cluster the addresses that it publishes in the
first, one for each node. -/
def SameStatus (api : ApiServer) (listener : Listener) (service : Service)
    (first second : Cluster) : Prop :=
  ∀ after written, (updateListenerStatus listener).run (serve api) first = (.ok (), after) →
    after.listeners.get listener.metadata.key = some written →
    ∃ later rewritten, (updateListenerStatus listener).run (serve api) second = (.ok (), later) ∧
      later.listeners.get listener.metadata.key = some rewritten ∧
      rewritten.status.ingressAddresses = written.status.ingressAddresses ∧
      written.status.ingressAddresses.length = (first.endpointNodes service).dedup.length

/-- A list is as long as the list of its distinct members exactly if none is repeated. -/
theorem length_dedup_iff (nodeNames : List String) :
    nodeNames.length = nodeNames.dedup.length ↔ nodeNames.Nodup := by
  constructor
  · intro counts
    have sublist := nodeNames.dedup_sublist
    rw [← sublist.eq_of_length counts.symm]
    exact List.nodup_dedup _
  · intro nodup
    rw [nodup.dedup]

/-- Updates in two clusters whose slices name the same nodes for a NodePort Service both succeed,
and publish the same addresses, one for each node, exactly if no node is named twice and the
texts of the node addresses are the same, in the same order. -/
theorem Cluster.SameNodes.published_iff (api : ApiServer) {first second after : Cluster}
    {listener written : Listener} {service : Service}
    (same : Cluster.SameNodes service first second)
    (described : first.services.get listener.metadata.key = some service)
    (type : service.spec.type = .nodePort)
    (updated : (updateListenerStatus listener).run (serve api) first = (.ok (), after))
    (published : after.listeners.get listener.metadata.key = some written) :
    ∃ later rewritten,
      (updateListenerStatus listener).run (serve api) second = (.ok (), later) ∧
      later.listeners.get listener.metadata.key = some rewritten ∧
      ((rewritten.status.ingressAddresses = written.status.ingressAddresses ∧
          written.status.ingressAddresses.length = (first.endpointNodes service).dedup.length) ↔
        (first.endpointNodes service).Nodup ∧
          (second.endpointNodes service).map first.nodeText =
            (first.endpointNodes service).map first.nodeText) := by
  obtain ⟨otherService, listenerClass, preferred, status, current, otherDescribed, classed,
    resolved, computed, stored, rfl⟩ := updateListenerStatus_ok api updated
  obtain rfl := Option.some.inj (described.symm.trans otherDescribed)
  have key : current.metadata.key = listener.metadata.key := first.listeners.keyed stored
  obtain ⟨again, recomputed⟩ := same.statusFor type computed
  -- All that the update reads but the slices is the same in the second cluster.
  have secondServices : second.services.get listener.metadata.key = some service := by
    rw [same.objects]
    exact described
  have secondClasses : second.listenerClasses.get listener.spec.className = some listenerClass := by
    rw [same.objects]
    exact classed
  have secondListeners : second.listeners.get listener.metadata.key = some current := by
    rw [same.objects]
    exact stored
  have read := listenerStatus_run api secondServices secondClasses
  rw [resolved, ok_bind, recomputed] at read
  have ran := updateListenerStatus_run_ok api read secondListeners
  rw [← key] at stored published secondListeners
  obtain ⟨held, found, status₁, -⟩ := first.storeStatus_get current status stored
  obtain rfl := Option.some.inj (found.symm.trans published)
  obtain ⟨rewritten, refound, status₂, -⟩ := second.storeStatus_get current again secondListeners
  refine ⟨_, rewritten, ran, by rw [← key]; exact refound, ?_⟩
  obtain ⟨length, equal⟩ := same.entries_eq_iff type computed recomputed
  rw [status₁, status₂, equal, length]
  rw [length_dedup_iff]
  exact and_comm

/-- Nodes that are each known by their own name. -/
def namedNodes (nodeNames : List String) : Store Node.name where
  keys := nodeNames
  get nodeName := if nodeName ∈ nodeNames then some ⟨nodeName, [⟨.hostName, nodeName⟩]⟩ else none
  covered nodeName := by
    intro held
    apply Classical.byContradiction
    intro unlisted
    exact held (if_neg unlisted)
  keyed {nodeName node} := by
    intro held
    split at held
    · rw [← Option.some.inj held]
    · cases held

/-- A node that is known by its name is found. -/
theorem priorAddress_namedNodes (cluster : Cluster) {nodeNames : List String} {nodeName : String}
    (listed : nodeName ∈ nodeNames) :
    Cluster.priorAddress { cluster with nodes := namedNodes nodeNames } nodeName =
      .ok ⟨nodeName, .hostname⟩ := by
  simp only [Cluster.priorAddress, namedNodes, if_pos listed]
  rfl

/-- With nodes that are known by their names, the status of a NodePort Service is found, whatever
the preferred type of addresses. -/
theorem statusFor_namedNodes (cluster : Cluster) (listener : Listener) {service : Service}
    (type : service.spec.type = .nodePort) (preferred : AddressType) :
    ∃ status, Cluster.statusFor
      { cluster with nodes := namedNodes (cluster.endpointNodes service) } listener service
      preferred = .ok status := by
  let names := cluster.endpointNodes service
  have resolved : names.mapM (Cluster.priorAddress { cluster with nodes := namedNodes names }) =
      .ok (names.map fun nodeName => ⟨nodeName, .hostname⟩) := by
    rw [mapM_eq_ok, List.forall₂_map_right_iff, List.forall₂_same]
    intro nodeName listed
    exact priorAddress_namedNodes cluster listed
  rw [Cluster.statusFor, type]
  change ∃ status, (names.mapM (Cluster.priorAddress { cluster with nodes := namedNodes names }) >>=
    _) = .ok status
  rw [resolved, ok_bind]
  cases made : statusEntries preferred (portMap ServicePort.nodePort service.spec.ports)
    (names.map fun nodeName => ⟨nodeName, .hostname⟩) with
  | ok entries => exact ⟨_, bind_eq_ok.mpr ⟨entries, made, rfl⟩⟩
  | error failure =>
    obtain ⟨address, listed, failed⟩ := mapM_eq_error made
    obtain ⟨nodeName, -, rfl⟩ := List.mem_map.mp listed
    have unpicked := ((AddressInfo.statusEntry_error _ _ _ _).mp failed).1
    exact absurd rfl ((AddressInfo.pick_eq_none _ _).mp unpicked).2

/-- Where an update of a status succeeds, it also does with nodes that are known by their names. -/
theorem updateListenerStatus_namedNodes (api : ApiServer) {cluster after : Cluster}
    {listener : Listener} {service : Service}
    (described : cluster.services.get listener.metadata.key = some service)
    (type : service.spec.type = .nodePort)
    (updated : (updateListenerStatus listener).run (serve api) cluster = (.ok (), after)) :
    ∃ later written, (updateListenerStatus listener).run (serve api)
        { cluster with nodes := namedNodes (cluster.endpointNodes service) } = (.ok (), later) ∧
      later.listeners.get listener.metadata.key = some written := by
  obtain ⟨otherService, listenerClass, preferred, status, current, otherDescribed, classed,
    resolved, -, stored, -⟩ := updateListenerStatus_ok api updated
  obtain ⟨again, recomputed⟩ := statusFor_namedNodes cluster listener type preferred
  let named : Cluster := { cluster with nodes := namedNodes (cluster.endpointNodes service) }
  have readable : named.services.get listener.metadata.key = some service := described
  have read := listenerStatus_run api readable classed
  rw [resolved, ok_bind, recomputed] at read
  have ran := updateListenerStatus_run_ok api read stored
  have key : current.metadata.key = listener.metadata.key := cluster.listeners.keyed stored
  rw [← key] at stored
  obtain ⟨written, found, -⟩ := Cluster.storeStatus_get named current again stored
  exact ⟨_, written, ran, by rw [← key]; exact found⟩

/-- In two clusters whose slices name the same nodes for a NodePort Service, updates of the status
publish the same addresses, one for each node, whatever the nodes are, exactly if the slices name
the nodes in the same order and none of them twice. -/
theorem updateListenerStatus_sameNodes_iff (api : ApiServer) {first second after : Cluster}
    {listener : Listener} {service : Service}
    (described : first.services.get listener.metadata.key = some service)
    (type : service.spec.type = .nodePort) (same : Cluster.SameNodes service first second)
    (updated : (updateListenerStatus listener).run (serve api) first = (.ok (), after)) :
    (∀ nodes : Store Node.name,
        SameStatus api listener service { first with nodes } { second with nodes }) ↔
      second.endpointNodes service = first.endpointNodes service ∧
        (first.endpointNodes service).Nodup := by
  constructor
  · intro equal
    -- Nodes that are known by their names tell the listings apart.
    let names := first.endpointNodes service
    obtain ⟨middle, written, ran, found⟩ :=
      updateListenerStatus_namedNodes api described type updated
    obtain ⟨last, rewritten, reran, refound, entries, length⟩ :=
      equal (namedNodes names) middle written ran found
    obtain ⟨_, _, otherRan, otherFound, exactly⟩ :=
      (same.withNodes (namedNodes names)).published_iff api described type ran found
    obtain rfl : _ = last := congrArg Prod.snd (otherRan.symm.trans reran)
    obtain rfl := Option.some.inj (otherFound.symm.trans refound)
    obtain ⟨nodup, texts⟩ := exactly.mp ⟨entries, length⟩
    refine ⟨?_, nodup⟩
    have text : ∀ nodeName ∈ names,
        Cluster.nodeText { first with nodes := namedNodes names } nodeName = some nodeName := by
      intro nodeName listed
      rw [Cluster.nodeText, priorAddress_namedNodes first listed]
      rfl
    have named : (second.endpointNodes service).map some = names.map some := by
      rw [← List.map_congr_left text]
      calc (second.endpointNodes service).map some
          = (second.endpointNodes service).map
              (Cluster.nodeText { first with nodes := namedNodes names }) := by
            apply List.map_congr_left
            intro nodeName listed
            exact (text nodeName ((same.nodes nodeName).mp listed)).symm
        _ = _ := texts
    exact List.map_injective_iff.mpr (Option.some_injective _) named
  · intro ordered nodes middle written ran found
    obtain ⟨last, rewritten, reran, refound, exactly⟩ :=
      (same.withNodes nodes).published_iff api described type ran found
    have listed : second.endpointNodes service = first.endpointNodes service := ordered.1
    have both := exactly.mpr ⟨ordered.2, congrArg (List.map _) listed⟩
    exact ⟨last, rewritten, reran, refound, both⟩

/-- A cluster of `webListener` with slices that have their endpoints on given nodes. -/
def slicedCluster (slices : List (List String)) : Cluster :=
  { webCluster .nodePort .ip with
    endpointSlices := slices.map fun nodeNames =>
      { webSlice with endpoints := nodeNames.map fun nodeName => { nodeName := some nodeName } }
    nodes := .ofList [{ name := "one", addresses := [⟨.internalIP, "192.0.2.1"⟩] },
      { name := "two", addresses := [⟨.internalIP, "192.0.2.2"⟩] }] }

/-- Slices in another order name the same nodes. -/
theorem slicedCluster_sameNodes : Cluster.SameNodes (webService .nodePort)
    (slicedCluster [["one"], ["two"]]) (slicedCluster [["two"], ["one", "two"]]) where
  objects := rfl
  nodes nodeName := by
    show nodeName ∈ ["two", "one", "two"] ↔ nodeName ∈ ["one", "two"]
    simp only [List.mem_cons, List.not_mem_nil, or_false]
    tauto

/-- Endpoints in two slices give the status that they give in one slice. -/
theorem slicedCluster_published :
    (slicedCluster [["one"], ["two"]]).endpointSlices ≠
      (slicedCluster [["one", "two"]]).endpointSlices ∧
    SameStatus (.filling "") webListener (webService .nodePort) (slicedCluster [["one"], ["two"]])
      (slicedCluster [["one", "two"]]) ∧
    ((updateListenerStatus webListener).run (serve (.filling ""))
      (slicedCluster [["one"], ["two"]])).1 = .ok () := by
  have updated : (updateListenerStatus webListener).run (serve (.filling ""))
      (slicedCluster [["one"], ["two"]]) = (.ok (), _) := Prod.ext (by decide) rfl
  have same : Cluster.SameNodes (webService .nodePort) (slicedCluster [["one"], ["two"]])
      (slicedCluster [["one", "two"]]) := ⟨rfl, fun _ => Iff.rfl⟩
  refine ⟨by decide, ?_, by decide⟩
  exact (updateListenerStatus_sameNodes_iff (.filling "")
    (rfl : (slicedCluster [["one"], ["two"]]).services.get webListener.metadata.key =
      some (webService .nodePort)) rfl same updated).mpr ⟨rfl, by decide⟩ _

/-- Listed in another order, and with a second endpoint on a node, the same nodes give another
status. -/
theorem slicedCluster_unequal :
    Cluster.SameNodes (webService .nodePort)
      (slicedCluster [["one"], ["two"]]) (slicedCluster [["two"], ["one", "two"]]) ∧
    ((listenerStatus webListener).run (serve (.filling ""))
        (slicedCluster [["one"], ["two"]])).1.map
        (fun status => status.ingressAddresses.map IngressAddressSpec.address) =
      .ok ["192.0.2.1", "192.0.2.2"] ∧
    ((listenerStatus webListener).run (serve (.filling ""))
        (slicedCluster [["two"], ["one", "two"]])).1.map
        (fun status => status.ingressAddresses.map IngressAddressSpec.address) =
      .ok ["192.0.2.2", "192.0.2.1", "192.0.2.2"] :=
  ⟨slicedCluster_sameNodes, by decide, by decide⟩

end ListenerOperator
