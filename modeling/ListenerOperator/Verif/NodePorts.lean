import ListenerOperator.Verif.Service

/-!
# Node ports over whole runs

A run is any sequence of edits of a Listener, edits of its class and calls of `createService`. A
port that stays in the Listener keeps the node port it was once given, whatever happens to the
other ports and to the type of the Service, and node ports that are distinct stay distinct.
-/

namespace ListenerOperator

open Interaction MergePatch Keyed

/-- Ports that differ in their node port or their protocol, if the first has a node port. -/
def ServicePort.Apart (first second : ServicePort) : Prop :=
  first.nodePort ≠ 0 → (first.nodePort, first.protocol) ≠ (second.nodePort, second.protocol)

/-- No two ports share a node port and a protocol. -/
def DistinctNodePorts (ports : List ServicePort) : Prop := ports.Pairwise ServicePort.Apart

/-- Being apart does not depend on the order. -/
theorem ServicePort.Apart.symm {first second : ServicePort} (apart : first.Apart second) :
    second.Apart first := by
  intro set same
  have numbered : first.nodePort ≠ 0 := by
    rw [← (Prod.mk.inj same).1]
    exact set
  exact apart numbered same.symm

instance : Std.Symm ServicePort.Apart := ⟨fun _ _ => ServicePort.Apart.symm⟩

/-- Adopting node ports from distinct ones leaves them distinct. -/
theorem distinctNodePorts_adopt {wanted existing : List ServicePort}
    (identities : DistinctPorts wanted) (unset : ∀ port ∈ wanted, port.nodePort = 0)
    (distinct : DistinctNodePorts existing) :
    DistinctNodePorts (wanted.map (·.adoptNodePort existing)) := by
  rw [DistinctNodePorts, List.pairwise_map]
  refine (List.Pairwise.and_mem.mp identities).imp ?_
  rintro first second ⟨firstWanted, secondWanted, different⟩ set same
  have adopted : ∀ port ∈ wanted, (port.adoptNodePort existing).nodePort ≠ 0 →
      ∃ stored ∈ existing, stored.sameIdentity port = true ∧
        (port.adoptNodePort existing).nodePort = stored.nodePort := by
    intro port listed numbered
    rw [ServicePort.adoptNodePort] at numbered ⊢
    cases found : existing.find? (·.sameIdentity port) with
    | none =>
      rw [found] at numbered
      exact absurd (unset port listed) numbered
    | some stored =>
      have same : stored.sameIdentity port = true := by simpa using List.find?_some found
      exact ⟨stored, List.mem_of_find?_eq_some found, same, rfl⟩
  have setSecond : (second.adoptNodePort existing).nodePort ≠ 0 := by
    rw [← (Prod.mk.inj same).1]
    exact set
  obtain ⟨firstStored, firstListed, firstSame, firstPort⟩ := adopted first firstWanted set
  obtain ⟨secondStored, secondListed, secondSame, secondPort⟩ :=
    adopted second secondWanted setSecond
  simp only [ServicePort.sameIdentity, Bool.and_eq_true, decide_eq_true_eq] at firstSame secondSame
  have protocols : firstStored.protocol = secondStored.protocol := by
    have kept := (Prod.mk.inj same).2
    rw [first.adoptNodePort_same existing, second.adoptNodePort_same existing] at kept
    rw [firstSame.2, secondSame.2]
    exact kept
  have other : firstStored ≠ secondStored := by
    intro equal
    rw [equal, secondSame.1, secondSame.2] at firstSame
    simp [ServicePort.sameIdentity, firstSame.1, firstSame.2] at different
  have apart := distinct.forall firstListed secondListed other
  refine apart (by rw [← firstPort]; exact set) ?_
  rw [← firstPort, ← secondPort, protocols, (Prod.mk.inj same).1]

/-- Ports without node ports are distinct in their node ports. -/
theorem distinctNodePorts_of_unset {ports : List ServicePort}
    (unset : ∀ port ∈ ports, port.nodePort = 0) : DistinctNodePorts ports := by
  rw [DistinctNodePorts, List.pairwise_iff_forall_sublist]
  intro first second listed set
  exact absurd (unset first (listed.subset List.mem_cons_self)) set

/-- What is sent for a stored Service with distinct node ports has distinct node ports. -/
theorem distinctNodePorts_mutateSpec {desired base : ServiceSpec}
    (identities : DistinctPorts desired.ports) (unset : ∀ port ∈ desired.ports, port.nodePort = 0)
    (distinct : DistinctNodePorts base.ports) :
    DistinctNodePorts (mutateSpec desired base).ports := by
  by_cases typed : desired.type.hasNodePorts = true
  · simp only [mutateSpec, typed, ↓reduceIte]
    exact distinctNodePorts_adopt identities unset distinct
  · simp only [mutateSpec, typed]
    exact distinctNodePorts_of_unset unset

/-- The API server fills an open node port with a value that no other port of the Service has. -/
def ApiServer.AllocatesFree (api : ApiServer) : Prop :=
  ∀ {sent : Service} {stored : ServiceSpec}, api.admitService sent = .ok stored →
    ∀ (index other : Nat) (unset port second : ServicePort), index ≠ other →
      sent.spec.ports[index]? = some unset → unset.nodePort = 0 →
      stored.ports[index]? = some port → stored.ports[other]? = some second → port.Apart second

/-- Distinct node ports are stored as distinct node ports. -/
theorem distinctNodePorts_stored {api : ApiServer} (free : api.AllocatesFree) {sent : Service}
    {stored : ServiceSpec} (admitted : api.admitService sent = .ok stored)
    (distinct : DistinctNodePorts sent.spec.ports) : DistinctNodePorts stored.ports := by
  have normalised := (api.normalises admitted).ports
  have lengths := normalised.length_eq
  rw [DistinctNodePorts, List.pairwise_iff_getElem] at distinct ⊢
  intro i j iBound jBound ordered
  have iSent : i < sent.spec.ports.length := by omega
  have jSent : j < sent.spec.ports.length := by omega
  have first := normalised.get iSent iBound
  have second := normalised.get jSent jBound
  simp only [List.get_eq_getElem] at first second
  by_cases firstOpen : sent.spec.ports[i].nodePort = 0
  · exact free admitted i j _ _ _ (by omega) (List.getElem?_eq_getElem iSent) firstOpen
      (List.getElem?_eq_getElem iBound) (List.getElem?_eq_getElem jBound)
  · by_cases secondOpen : sent.spec.ports[j].nodePort = 0
    · exact (free admitted j i _ _ _ (by omega) (List.getElem?_eq_getElem jSent) secondOpen
        (List.getElem?_eq_getElem jBound) (List.getElem?_eq_getElem iBound)).symm
    · intro set same
      refine distinct i j iSent jSent ordered firstOpen ?_
      rw [first.nodePort (Or.inl firstOpen), second.nodePort (Or.inl secondOpen), first.same,
        second.same] at same
      exact same

/-- The first match in a list has a partner that is the first match in a related list. -/
theorem find?_of_forall₂ {relation : ServicePort → ServicePort → Prop} {test : ServicePort → Bool}
    {sent stored : List ServicePort} (related : List.Forall₂ relation sent stored)
    (agree : ∀ first second, relation first second → test second = test first)
    {port : ServicePort} (found : sent.find? test = some port) :
    ∃ kept, stored.find? test = some kept ∧ relation port kept := by
  induction related with
  | nil => cases found
  | @cons first second _ _ head _ ih =>
    rw [List.find?_cons] at found
    rw [List.find?_cons, agree first second head]
    cases passes : test first with
    | true =>
      rw [passes] at found
      obtain rfl := Option.some.inj found
      exact ⟨second, rfl, head⟩
    | false =>
      rw [passes] at found
      exact ih found

/-- The test for a port of a name and a protocol. -/
def ServicePort.isNamed (name protocol : String) (port : ServicePort) : Bool :=
  port.name = name && port.protocol = protocol

/-- A port that has a node port and is still wanted is sent with its node port. -/
theorem find?_mutateSpec {desired base : ServiceSpec} {name protocol : String} {held : ServicePort}
    (typed : desired.type.hasNodePorts = true)
    (wanted : ∃ port ∈ desired.ports, port.name = name ∧ port.protocol = protocol)
    (found : base.ports.find? (ServicePort.isNamed name protocol) = some held) :
    ∃ sent, (mutateSpec desired base).ports.find? (ServicePort.isNamed name protocol) = some sent ∧
      sent.nodePort = held.nodePort := by
  obtain ⟨port, listed, rfl, rfl⟩ := wanted
  have first : (desired.ports.find? (ServicePort.isNamed port.name port.protocol)).isSome := by
    rw [List.find?_isSome]
    exact ⟨port, listed, by simp [ServicePort.isNamed]⟩
  obtain ⟨match_, matched⟩ := Option.isSome_iff_exists.mp first
  have same : match_.name = port.name ∧ match_.protocol = port.protocol := by
    simpa [ServicePort.isNamed] using List.find?_some matched
  have kept : ServicePort.isNamed port.name port.protocol ∘ (·.adoptNodePort base.ports) =
      ServicePort.isNamed port.name port.protocol := by
    funext other
    simp only [Function.comp_apply, ServicePort.isNamed]
    rw [other.adoptNodePort_same base.ports]
  refine ⟨match_.adoptNodePort base.ports, ?_, ?_⟩
  · simp only [mutateSpec, typed, ↓reduceIte]
    rw [List.find?_map, kept, matched]
    rfl
  · have search : (fun other : ServicePort => other.sameIdentity match_) =
        ServicePort.isNamed port.name port.protocol := by
      funext other
      rw [ServicePort.sameIdentity, ServicePort.isNamed, same.1, same.2]
    rw [ServicePort.adoptNodePort, search, found]

/-- A port that is sent with a node port is stored with it. -/
theorem find?_stored {sent stored : ServiceSpec} (normalised : sent.Normalises stored)
    {name protocol : String} {port : ServicePort}
    (found : sent.ports.find? (ServicePort.isNamed name protocol) = some port)
    (set : port.nodePort ≠ 0) :
    ∃ kept, stored.ports.find? (ServicePort.isNamed name protocol) = some kept ∧
      kept.nodePort = port.nodePort := by
  have agree : ∀ first second : ServicePort, ServicePort.Normalises sent.type first second →
      second.isNamed name protocol = first.isNamed name protocol := by
    intro first second normal
    rw [normal.same]
    rfl
  obtain ⟨kept, found, normal⟩ := find?_of_forall₂ normalised.ports agree found
  exact ⟨kept, found, normal.nodePort (Or.inl set)⟩

/-- A Listener and the cluster it is reconciled in. -/
structure ServiceState where
  listener : Listener
  cluster : Cluster

namespace ServiceState

/-- One step: an edit of the specification of the Listener, an edit of a class, or a call of
`createService` with an API server that allocates free node ports. -/
inductive Step (runtime : ControllerRuntime) : ServiceState → ServiceState → Prop where
  /-- The Listener gets another specification. -/
  | editListener (state : ServiceState) (spec : ListenerSpec) :
      Step runtime state { state with listener := { state.listener with spec } }
  /-- A class is created or replaced. -/
  | editClass (state : ServiceState) (edited : ListenerClass) :
      Step runtime state { state with cluster := { state.cluster with
        listenerClasses := state.cluster.listenerClasses.insert edited } }
  /-- The Service is reconciled. -/
  | createService (state : ServiceState) (api : ApiServer) (free : api.AllocatesFree) :
      Step runtime state { state with
        cluster := ((createService runtime state.listener).run (serve api) state.cluster).2 }

/-- A run in which a condition holds of every state. -/
def Run (runtime : ControllerRuntime) (condition : ServiceState → Prop)
    (start state : ServiceState) : Prop :=
  condition start ∧
    Relation.ReflTransGen (fun before after => Step runtime before after ∧ condition after)
      start state

/-- What every step keeps, a run keeps. -/
theorem Run.keeps {runtime : ControllerRuntime} {condition kept : ServiceState → Prop}
    {start state : ServiceState} (run : Run runtime condition start state)
    (step : ∀ before after, Step runtime before after → condition before → kept before →
      kept after) (holds : kept start) : kept state := by
  obtain ⟨initial, steps⟩ := run
  have both : condition state ∧ kept state := by
    induction steps with
    | refl => exact ⟨initial, holds⟩
    | tail _ last ih => exact ⟨last.2, step _ _ last.1 ih.1 ih.2⟩
  exact both.2

/-- The Service stored for the Listener. -/
def service (state : ServiceState) : Option Service :=
  state.cluster.services.get state.listener.metadata.key

/-- The node port that the stored Service has for a name and a protocol. -/
def nodePort (state : ServiceState) (name protocol : String) : Option Int := do
  let service ← state.service
  let port ← service.spec.ports.find? (ServicePort.isNamed name protocol)
  return port.nodePort

/-- The Listener has a port of a name and a protocol, and its class is one of NodePort or
LoadBalancer Services. -/
def Names (name protocol : String) (state : ServiceState) : Prop :=
  (∃ port ∈ servicePorts state.listener, port.name = name ∧ port.protocol = protocol) ∧
    ∀ listenerClass,
      state.cluster.listenerClasses.get state.listener.spec.className = some listenerClass →
        ∃ type, listenerClass.spec.serviceType = some type ∧ type.hasNodePorts = true

/-- The ports of the Listener differ in name or protocol. -/
def PortsDistinct (state : ServiceState) : Prop := DistinctPorts (servicePorts state.listener)

/-- The node ports of the stored Service are distinct. -/
def NodePortsDistinct (state : ServiceState) : Prop :=
  ∀ service, state.service = some service → DistinctNodePorts service.spec.ports

/-- What a reconciliation does to the stored Service: nothing, or it stores what the API server
made of an update of it. -/
theorem service_createService (runtime : ControllerRuntime) (api : ApiServer)
    (state : ServiceState) :
    ((createService runtime state.listener).run (serve api) state.cluster).2.services.get
        state.listener.metadata.key = state.service ∨
      ∃ listenerClass desired base sent stored,
        state.cluster.Wants state.listener listenerClass desired ∧
        state.cluster.UpdatesFrom desired base ∧
        mutateService runtime state.listener desired base = .ok sent ∧
        api.admitService sent = .ok stored.spec ∧
        ((createService runtime state.listener).run (serve api) state.cluster).2.services.get
          state.listener.metadata.key = some stored := by
  rcases createService_cases runtime api state.cluster state.listener with
    ⟨failure, -, ran⟩ | ⟨listenerClass, desired, wants, ⟨existing, _, _, ran⟩ |
      ⟨base, sent, stored, based, mutation, kept, ran⟩⟩
  · exact Or.inl (by rw [ran]; rfl)
  · exact Or.inl (by rw [ran]; rfl)
  · refine Or.inr ⟨listenerClass, desired, base, sent, stored, wants, based, mutation,
      kept.admitted, ?_⟩
    rw [ran]
    exact wants.stored_get based mutation kept

/-- Every step keeps the node port of a port that stays in the Listener. -/
theorem nodePort_step {runtime : ControllerRuntime} {name protocol : String} {number : Int}
    (set : number ≠ 0) {before after : ServiceState} (step : Step runtime before after)
    (names : Names name protocol before) (held : before.nodePort name protocol = some number) :
    after.nodePort name protocol = some number := by
  cases step with
  | editListener spec => exact held
  | editClass edited => exact held
  | createService api free =>
    rcases service_createService runtime api before with same |
      ⟨listenerClass, desired, base, sent, stored, wants, based, mutation, admitted, found⟩
    · rw [nodePort, service, same]
      exact held
    · simp only [nodePort, Option.bind_eq_bind, Option.bind_eq_some_iff, Option.pure_def,
        Option.some.injEq] at held
      obtain ⟨current, present, port, first, rfl⟩ := held
      obtain rfl : current = base := by
        rw [Cluster.UpdatesFrom, desiredService_key wants.wanted] at based
        rcases based with other | ⟨absent, -⟩
        · exact Option.some.inj (present.symm.trans other)
        · rw [service, absent] at present
          cases present
      obtain ⟨type, typed, spec⟩ := desiredService_spec wants.wanted
      obtain ⟨other, otherTyped, ported⟩ := names.2 listenerClass wants.classed
      obtain rfl := Option.some.inj (typed.symm.trans otherTyped)
      obtain ⟨references, -, rfl⟩ := mutateService_ok mutation
      have desiredTyped : desired.spec.type.hasNodePorts = true := by rw [spec]; exact ported
      have wanted : ∃ port ∈ desired.spec.ports, port.name = name ∧ port.protocol = protocol := by
        rw [spec]
        exact names.1
      obtain ⟨sentPort, sentFound, sentSame⟩ := find?_mutateSpec desiredTyped wanted first
      obtain ⟨kept, keptFound, keptSame⟩ := find?_stored (api.normalises admitted) sentFound
        (by rw [sentSame]; exact set)
      simp only [nodePort, service, found, Option.bind_eq_bind, Option.bind_some, keptFound,
        Option.pure_def, keptSame, sentSame]

/-- Every Service that is sent for a Listener with distinct ports has distinct node ports, if the
stored one has. -/
theorem distinctNodePorts_sent {runtime : ControllerRuntime} {state : ServiceState}
    {listenerClass : ListenerClass} {desired base sent : Service}
    (wants : state.cluster.Wants state.listener listenerClass desired)
    (based : state.cluster.UpdatesFrom desired base)
    (mutation : mutateService runtime state.listener desired base = .ok sent)
    (ports : state.PortsDistinct) (distinct : state.NodePortsDistinct) :
    DistinctNodePorts sent.spec.ports := by
  obtain ⟨references, -, rfl⟩ := mutateService_ok mutation
  obtain ⟨type, -, spec⟩ := desiredService_spec wants.wanted
  have unset : ∀ port ∈ desired.spec.ports, port.nodePort = 0 := by
    rw [spec]
    exact servicePorts_unset state.listener
  refine distinctNodePorts_mutateSpec (by rw [spec]; exact ports) unset ?_
  rw [Cluster.UpdatesFrom, desiredService_key wants.wanted] at based
  rcases based with present | ⟨-, rfl⟩
  · exact distinct base present
  · exact distinctNodePorts_of_unset unset

/-- Every step keeps distinct node ports distinct, if the ports of the Listener are. -/
theorem nodePortsDistinct_step {runtime : ControllerRuntime} {before after : ServiceState}
    (step : Step runtime before after) (ports : before.PortsDistinct)
    (distinct : before.NodePortsDistinct) : after.NodePortsDistinct := by
  cases step with
  | editListener spec => exact distinct
  | editClass edited => exact distinct
  | createService api free =>
    intro current present
    rcases service_createService runtime api before with same |
      ⟨listenerClass, desired, base, sent, stored, wants, based, mutation, admitted, found⟩
    · exact distinct current (same.symm.trans present)
    · obtain rfl := Option.some.inj (found.symm.trans present)
      exact distinctNodePorts_stored free admitted
        (distinctNodePorts_sent wants based mutation ports distinct)

end ServiceState

/-- Over every run, a node port never changes once it is set, as long as its name and protocol
stay in the Listener. Whenever the ports of the Listener are distinct and the stored node ports
are, a Service that is sent has distinct node ports, and over runs with distinct ports the stored
ones stay distinct. -/
theorem nodePorts_stable (runtime : ControllerRuntime) :
    (∀ name protocol start state,
      ServiceState.Run runtime (ServiceState.Names name protocol) start state →
      ∀ number ≠ 0, start.nodePort name protocol = some number →
        state.nodePort name protocol = some number) ∧
    (∀ api state sent, ServiceState.PortsDistinct state → state.NodePortsDistinct →
      (.createService sent ∈ (createService runtime state.listener).calls (serve api) state.cluster ∨
        .updateService sent ∈
          (createService runtime state.listener).calls (serve api) state.cluster) →
      DistinctNodePorts sent.spec.ports) ∧
    ∀ start state, ServiceState.Run runtime ServiceState.PortsDistinct start state →
      start.NodePortsDistinct → state.NodePortsDistinct := by
  refine ⟨?_, ?_, ?_⟩
  · intro name protocol start state run number set held
    have kept : (fun state : ServiceState => state.nodePort name protocol = some number) state :=
      run.keeps (fun before after step names => ServiceState.nodePort_step set step names) held
    exact kept
  · intro api state sent ports distinct made
    have sends : ∃ listenerClass desired base,
        state.cluster.Wants state.listener listenerClass desired ∧
        state.cluster.UpdatesFrom desired base ∧
        mutateService runtime state.listener desired base = .ok sent := by
      rcases made with created | updated
      · obtain ⟨listenerClass, desired, base, other, wants, based, mutation, call⟩ :=
          createService_writes created rfl
        obtain rfl : sent = other := by simpa using call
        exact ⟨listenerClass, desired, base, wants, based, mutation⟩
      · obtain ⟨listenerClass, desired, base, other, wants, based, mutation, call⟩ :=
          createService_writes updated rfl
        obtain rfl : sent = other := by simpa using call
        exact ⟨listenerClass, desired, base, wants, based, mutation⟩
    obtain ⟨listenerClass, desired, base, wants, based, mutation⟩ := sends
    exact ServiceState.distinctNodePorts_sent wants based mutation ports distinct
  · intro start state run distinct
    exact run.keeps (fun before after step => ServiceState.nodePortsDistinct_step step) distinct

/-- An allocated node port is above the highest one, and a set one is kept. -/
theorem allocateNodePorts_get {highest : Int} {ports : List ServicePort} {index : Nat}
    {port stored : ServicePort} (sent : ports[index]? = some port)
    (found : (allocateNodePorts highest ports)[index]? = some stored) :
    if port.nodePort = 0 then highest < stored.nodePort else stored.nodePort = port.nodePort := by
  induction ports generalizing highest index with
  | nil => cases sent
  | cons first ports ih =>
    rw [allocateNodePorts] at found
    cases index with
    | zero =>
      obtain rfl := Option.some.inj sent
      by_cases unset : first.nodePort = 0
      · rw [if_pos unset] at found ⊢
        obtain rfl := Option.some.inj found
        exact Int.lt_succ highest
      · rw [if_neg unset] at found ⊢
        obtain rfl := Option.some.inj found
        rfl
    | succ index =>
      by_cases unset : first.nodePort = 0
      · rw [if_pos unset] at found
        have bound := ih sent found
        split at bound
        · rename_i zero
          rw [if_pos zero]
          omega
        · rename_i numbered
          rw [if_neg numbered]
          exact bound
      · rw [if_neg unset] at found
        exact ih sent found

/-- Every stored port stands for a sent one. -/
theorem allocateNodePorts_sent {highest : Int} {ports : List ServicePort} {index : Nat}
    {stored : ServicePort} (found : (allocateNodePorts highest ports)[index]? = some stored) :
    ∃ port ∈ ports, ports[index]? = some port := by
  induction ports generalizing highest index with
  | nil => cases found
  | cons first ports ih =>
    rw [allocateNodePorts] at found
    cases index with
    | zero => exact ⟨first, List.mem_cons_self, rfl⟩
    | succ index =>
      split at found <;>
        · obtain ⟨port, listed, sent⟩ := ih found
          exact ⟨port, List.mem_cons_of_mem _ listed, sent⟩

/-- Allocated node ports are different from all others. -/
theorem allocateNodePorts_free {highest : Int} {ports : List ServicePort}
    (bounded : ∀ port ∈ ports, port.nodePort ≤ highest) {index other : Nat}
    {unset stored second : ServicePort} (different : index ≠ other)
    (sent : ports[index]? = some unset) (zero : unset.nodePort = 0)
    (found : (allocateNodePorts highest ports)[index]? = some stored)
    (otherFound : (allocateNodePorts highest ports)[other]? = some second) :
    stored.nodePort ≠ second.nodePort := by
  induction ports generalizing highest index other with
  | nil => cases sent
  | cons first ports ih =>
    have tail : ∀ port ∈ ports, port.nodePort ≤ highest := fun port listed =>
      bounded port (List.mem_cons_of_mem _ listed)
    have head := bounded first List.mem_cons_self
    rw [allocateNodePorts] at found otherFound
    cases index with
    | zero =>
      cases other with
      | zero => exact absurd rfl different
      | succ other =>
        obtain rfl := Option.some.inj sent
        rw [if_pos zero] at found otherFound
        obtain rfl := Option.some.inj found
        obtain ⟨port, listed, among⟩ := allocateNodePorts_sent otherFound
        have bound := allocateNodePorts_get among otherFound
        have low := tail port listed
        split at bound <;> dsimp only <;> omega
    | succ index =>
      cases other with
      | zero =>
        rw [List.getElem?_cons_succ] at sent
        by_cases headZero : first.nodePort = 0
        · rw [if_pos headZero, List.getElem?_cons_succ] at found
          rw [if_pos headZero] at otherFound
          have bound := allocateNodePorts_get sent found
          rw [if_pos zero] at bound
          obtain rfl := Option.some.inj otherFound
          dsimp only
          omega
        · rw [if_neg headZero, List.getElem?_cons_succ] at found
          rw [if_neg headZero] at otherFound
          have bound := allocateNodePorts_get sent found
          rw [if_pos zero] at bound
          obtain rfl := Option.some.inj otherFound
          omega
      | succ other =>
        have apart : index ≠ other := by omega
        by_cases headZero : first.nodePort = 0
        · rw [if_pos headZero] at found otherFound
          refine ih (fun port listed => ?_) apart sent found otherFound
          have low := tail port listed
          omega
        · rw [if_neg headZero] at found otherFound
          exact ih tail apart sent found otherFound

/-- No node port is above the highest one. -/
theorem le_highestNodePort (ports : List ServicePort) :
    ∀ port ∈ ports, port.nodePort ≤ highestNodePort ports := by
  have upper : ∀ (start : Int) (ports : List ServicePort),
      start ≤ ports.foldl (fun highest port => max highest port.nodePort) start ∧
        ∀ port ∈ ports, port.nodePort ≤
          ports.foldl (fun highest port => max highest port.nodePort) start := by
    intro start ports
    induction ports generalizing start with
    | nil => simp
    | cons first ports ih =>
      obtain ⟨above, members⟩ := ih (max start first.nodePort)
      refine ⟨le_trans (le_max_left _ _) above, ?_⟩
      intro port listed
      rcases List.mem_cons.mp listed with rfl | listed
      · exact le_trans (le_max_right _ _) above
      · exact members port listed
  exact (upper 29999 ports).2

/-- The filling server allocates free node ports. -/
theorem ApiServer.filling_allocatesFree (uid : String) : (ApiServer.filling uid).AllocatesFree := by
  intro sent stored admitted index other unset port second different sentPort zero found otherFound
  obtain rfl := Except.ok.inj admitted
  by_cases typed : sent.spec.type.hasNodePorts = true
  · simp only [ServiceSpec.filled, typed, ↓reduceIte] at found otherFound
    intro _ same
    exact allocateNodePorts_free (le_highestNodePort _) different sentPort zero found otherFound
      (Prod.mk.inj same).1
  · simp only [ServiceSpec.filled, typed] at found
    have equal : unset = port := Option.some.inj (sentPort.symm.trans found)
    intro set
    rw [← equal] at set
    exact absurd zero set

/-- `webListener` with another port before its own, whose number has changed. -/
def editedListener : Listener :=
  { webListener with spec := { webListener.spec with ports := [
    { name := "admin", port := 9090 }, { name := "http", protocol := "TCP", port := 8080 }] } }

/-- The class of `webListener`, which has changed to load balancers. -/
def editedCluster : Cluster :=
  { webCluster .nodePort .ip with
    listenerClasses := (webCluster .nodePort .ip).listenerClasses.insert
      (webClass .loadBalancer .ip) }

/-- The node port of `webListener` stays when the Listener and its class are edited. -/
theorem nodePorts_stable_edited :
    ServiceState.nodePort ⟨webListener, webCluster .nodePort .ip⟩ "http" "TCP" = some 30080 ∧
    ServiceState.nodePort ⟨editedListener, ((createService .standard editedListener).run
      (serve (.filling "")) editedCluster).2⟩ "http" "TCP" = some 30080 := by
  have held : ServiceState.nodePort ⟨webListener, webCluster .nodePort .ip⟩ "http" "TCP" =
      some 30080 := by decide
  have typed : ∀ {type : ServiceType} {listenerClass : ListenerClass}, type.hasNodePorts = true →
      some (webClass type .ip) = some listenerClass →
        ∃ type, listenerClass.spec.serviceType = some type ∧ type.hasNodePorts = true := by
    intro type listenerClass ported same
    exact ⟨type, by rw [← Option.some.inj same]; rfl, ported⟩
  have names : ServiceState.Names "http" "TCP" ⟨webListener, webCluster .nodePort .ip⟩ :=
    ⟨by decide, fun listenerClass classed => typed rfl classed⟩
  have edit : ServiceState.Names "http" "TCP" ⟨editedListener, webCluster .nodePort .ip⟩ :=
    ⟨by decide, fun listenerClass classed => typed rfl classed⟩
  have retype : ServiceState.Names "http" "TCP" ⟨editedListener, editedCluster⟩ :=
    ⟨by decide, fun listenerClass classed => typed rfl classed⟩
  have reconcile : ServiceState.Names "http" "TCP" ⟨editedListener,
      ((createService .standard editedListener).run (serve (.filling "")) editedCluster).2⟩ :=
    ⟨by decide, fun listenerClass classed => typed rfl classed⟩
  refine ⟨held, (nodePorts_stable .standard).1 "http" "TCP" _ _ ⟨names, ?_⟩ 30080 (by decide) held⟩
  exact ((Relation.ReflTransGen.single ⟨.editListener _ editedListener.spec, edit⟩).tail
    ⟨.editClass _ (webClass .loadBalancer .ip), retype⟩).tail
      ⟨.createService _ (.filling "") (ApiServer.filling_allocatesFree ""), reconcile⟩

end ListenerOperator
