import ListenerOperator.Base.Concurrent
import ListenerOperator.Controller.Watch
import ListenerOperator.Verif.Instances
import ListenerOperator.Verif.Service
import ListenerOperator.Verif.Status

/-!
# No lost wake-up

A Listener that is neither queued nor being reconciled, with no event that concerns it, has the
Service and the status that its specification and class ask for. A slice that changes before the
first status write is not handled, since the handler looks for the name of the Service in the
status; but then the status write itself changes the Listener and queues it.

Where slices are reordered without an event, the status is computed from some order of them.
-/

namespace ListenerOperator

open Interaction Outcome Keyed

variable {reorders : Prop}

/-- An event is one whose handler asks for a Listener. -/
def Event.Concerns : Event → Option Listener → Prop
  | .endpointSlice slice, some listener =>
    slice.metadata.labels[serviceNameLabel]? = some listener.status.serviceName ∧
      listener.metadata.ns = slice.metadata.ns
  | .listenerClass changed, some listener => listener.spec.className = changed.metadata.name
  | _, none => False

/-- A handler asks for the stored Listeners that the event concerns, and changes nothing. -/
theorem Event.handle_run (event : Event) (api : ApiServer) (cluster : Cluster) :
    ∃ requests, event.handle.run (serve api) cluster = (.ok requests, cluster) ∧
      ∀ key, key ∈ requests ↔ event.Concerns (cluster.listeners.get key) := by
  have listed : ∀ (key : ObjectKey) (wanted : Listener → Bool),
      key ∈ (cluster.listeners.values.filter wanted).map (·.metadata.key) ↔
        ∃ listener, cluster.listeners.get key = some listener ∧ wanted listener = true := by
    intro key wanted
    simp only [List.mem_map, List.mem_filter, Store.mem_values]
    constructor
    · rintro ⟨listener, ⟨stored, holds⟩, rfl⟩
      exact ⟨listener, stored, holds⟩
    · rintro ⟨listener, stored, holds⟩
      have same := cluster.listeners.keyed stored
      exact ⟨listener, ⟨by rw [same]; exact stored, holds⟩, same⟩
  cases event with
  | listenerClass changed =>
    refine ⟨_, rfl, fun key => ?_⟩
    rw [listenerClassRequests, listed]
    cases cluster.listeners.get key <;> simp [Concerns]
  | endpointSlice slice =>
    simp only [handle, handleEndpointSliceChanges]
    cases labelled : slice.metadata.labels[serviceNameLabel]? with
    | none =>
      refine ⟨[], rfl, fun key => ?_⟩
      cases cluster.listeners.get key <;> simp [Concerns, labelled]
    | some serviceName =>
      refine ⟨_, rfl, fun key => ?_⟩
      rw [endpointSliceRequests, listed]
      cases cluster.listeners.get key with
      | none => simp [Concerns]
      | some listener =>
        simp only [Option.some.injEq, exists_eq_left', decide_eq_true_eq, Concerns, labelled]
        exact and_congr_left' eq_comm

/-- The Listener is queued, or will be when an event is handled. -/
def Watch.Alerted (key : ObjectKey) (watch : Watch) : Prop :=
  watch.queued = true ∨ ∃ event ∈ watch.events, event.Concerns (watch.cluster.listeners.get key)

/-- A change of the cluster leaves an alert. -/
theorem Watch.Alerted.commit {key : ObjectKey} {watch : Watch} (alerted : watch.Alerted key)
    (cluster : Cluster) : (watch.commit key cluster).Alerted key := by
  by_cases same : cluster.listeners.get key = watch.cluster.listeners.get key
  · rcases alerted with queued | ⟨event, pending, concerns⟩
    · exact Or.inl (by simp [Watch.commit, queued])
    · exact Or.inr ⟨event, pending, by rwa [Watch.commit, same]⟩
  · exact Or.inl (by simp [Watch.commit, same])

/-- A change of the Listener alerts. -/
theorem Watch.alerted_of_changed {key : ObjectKey} {watch : Watch} {cluster : Cluster}
    (changed : cluster.listeners.get key ≠ watch.cluster.listeners.get key) :
    (watch.commit key cluster).Alerted key :=
  Or.inl (by simp [Watch.commit, changed])

/-- A cluster that stays as it is queues nothing. -/
@[simp] theorem Watch.commit_self (key : ObjectKey) (watch : Watch) :
    watch.commit key watch.cluster = watch := by
  simp [Watch.commit]

/-- The same slices, also in the same order unless they are reordered. -/
def Relisted (reorders : Prop) (before after : List EndpointSlice) : Prop :=
  after.Perm before ∧ (¬ reorders → after = before)

/-- Slices are the same as themselves. -/
theorem Relisted.refl (slices : List EndpointSlice) : Relisted reorders slices slices :=
  ⟨.refl slices, fun _ => rfl⟩

/-- Reordering can be undone. -/
theorem Relisted.symm {before after : List EndpointSlice} (listed : Relisted reorders before after) :
    Relisted reorders after before :=
  ⟨listed.1.symm, fun ordered => (listed.2 ordered).symm⟩

/-- Reordering twice is reordering. -/
theorem Relisted.trans {first second third : List EndpointSlice}
    (left : Relisted reorders first second) (right : Relisted reorders second third) :
    Relisted reorders first third :=
  ⟨right.1.trans left.1, fun ordered => (right.2 ordered).trans (left.2 ordered)⟩

/-- Reordering all slices reorders those of a Service. -/
theorem Relisted.slicesOf {cluster : Cluster} {slices : List EndpointSlice}
    (listed : Relisted reorders cluster.endpointSlices slices) (ns serviceName : String) :
    Relisted reorders (cluster.slicesOf ns serviceName)
      ({ cluster with endpointSlices := slices }.slicesOf ns serviceName) :=
  ⟨listed.1.filter _, fun ordered => congrArg (List.filter _) (listed.2 ordered)⟩

/-- The slices of a Service are all of that Service. -/
theorem Cluster.slicesOf_slicesOf (cluster other : Cluster) (ns serviceName : String) :
    { other with endpointSlices := cluster.slicesOf ns serviceName }.slicesOf ns serviceName =
      cluster.slicesOf ns serviceName := by
  simp only [Cluster.slicesOf, List.filter_filter, Bool.and_self]

/-- Slices of a Service in some order are those of all slices in some order. -/
theorem Relisted.exists_whole {cluster : Cluster} {ns serviceName : String}
    {slices : List EndpointSlice}
    (listed : Relisted reorders (cluster.slicesOf ns serviceName) slices) :
    ∃ whole, Relisted reorders cluster.endpointSlices whole ∧
      { cluster with endpointSlices := whole }.slicesOf ns serviceName =
        { cluster with endpointSlices := slices }.slicesOf ns serviceName := by
  by_cases may : reorders
  · -- the slices of the Service first, then all others
    let own (slice : EndpointSlice) : Bool := decide (slice.metadata.ns = ns ∧
      slice.metadata.labels[serviceNameLabel]? = some serviceName)
    have others : (cluster.endpointSlices.filter fun slice => !own slice).filter own = [] := by
      rw [List.filter_filter, List.filter_eq_nil_iff]
      intro slice _
      simp
    refine ⟨slices ++ cluster.endpointSlices.filter fun slice => !own slice, ⟨?_, absurd may⟩, ?_⟩
    · have split := List.filter_append_perm own cluster.endpointSlices
      exact (listed.1.append_right _).trans split
    · show (slices ++ _).filter own = slices.filter own
      rw [List.filter_append, others, List.append_nil]
  · refine ⟨cluster.endpointSlices, .refl _, ?_⟩
    rw [listed.2 may, cluster.slicesOf_slicesOf cluster]

/-- The objects that a reconciliation of a Listener reads are the same. The slices count only if
the status names the Service. -/
structure Cluster.SameFor (reorders : Prop) (key : ObjectKey) (before after : Cluster) :
    Prop where
  listener : after.listeners.get key = before.listeners.get key
  service : after.services.get key = before.services.get key
  listenerClass : ∀ listener, before.listeners.get key = some listener →
    after.listenerClasses.get listener.spec.className =
      before.listenerClasses.get listener.spec.className
  slices : ∀ listener, before.listeners.get key = some listener →
    listener.status.serviceName = key.name →
      Relisted reorders (before.slicesOf key.ns key.name) (after.slicesOf key.ns key.name)

/-- Nothing has changed. -/
theorem Cluster.SameFor.refl (key : ObjectKey) (cluster : Cluster) :
    cluster.SameFor reorders key cluster :=
  ⟨rfl, rfl, fun _ _ => rfl, fun _ _ _ => .refl _⟩

/-- Two changes that go unnoticed are one. -/
theorem Cluster.SameFor.trans {key : ObjectKey} {first second third : Cluster}
    (left : first.SameFor reorders key second) (right : second.SameFor reorders key third) :
    first.SameFor reorders key third where
  listener := right.listener.trans left.listener
  service := right.service.trans left.service
  listenerClass listener stored :=
    (right.listenerClass listener (left.listener.trans stored)).trans
      (left.listenerClass listener stored)
  slices listener stored named :=
    (left.slices listener stored named).trans
      (right.slices listener (left.listener.trans stored) named)

/-- What a reconciliation tolerates between its calls: alerts stay, nodes stay, and other objects
that it reads do not change without an alert. -/
structure Watch.Tolerated (reorders : Prop) (key : ObjectKey) (before after : Watch) : Prop where
  alert : before.Alerted key → after.Alerted key
  nodes : after.cluster.nodes = before.cluster.nodes
  same : after.Alerted key ∨ before.cluster.SameFor reorders key after.cluster

/-- Two tolerated changes are one. -/
theorem Watch.Tolerated.trans {key : ObjectKey} {first second third : Watch}
    (left : first.Tolerated reorders key second) (right : second.Tolerated reorders key third) :
    first.Tolerated reorders key third where
  alert alerted := right.alert (left.alert alerted)
  nodes := right.nodes.trans left.nodes
  same := by
    rcases left.same with alerted | leftSame
    · exact Or.inl (right.alert alerted)
    · exact right.same.imp_right leftSame.trans

/-- The rules of a reconciliation among changes. -/
def watchRules (reorders : Prop) (key : ObjectKey) : Rules Watch where
  invariant _ := True
  rely := Watch.Tolerated reorders key
  guarantee _ _ := True
  rely_refl watch := ⟨id, rfl, Or.inr (.refl key watch.cluster)⟩
  rely_trans := Watch.Tolerated.trans

/-- Slices that are not of a Service are not among its slices. -/
theorem Cluster.slicesOf_replace (cluster : Cluster) {ns serviceName : String}
    {first last : List EndpointSlice} {old new : Option EndpointSlice} {revision : Nat}
    (listed : cluster.endpointSlices = first ++ (old.toList ++ last))
    (other : ∀ slice ∈ old.toList ++ new.toList, ¬ (slice.metadata.ns = ns ∧
      slice.metadata.labels[serviceNameLabel]? = some serviceName)) :
    { cluster with endpointSlices := first ++ (new.toList ++ last), revision }.slicesOf ns
      serviceName = cluster.slicesOf ns serviceName := by
  have without : ∀ slices : List EndpointSlice, (∀ slice ∈ slices,
      ¬ (slice.metadata.ns = ns ∧ slice.metadata.labels[serviceNameLabel]? = some serviceName)) →
      slices.filter (fun slice => slice.metadata.ns = ns ∧
        slice.metadata.labels[serviceNameLabel]? = some serviceName) = [] := by
    intro slices none
    exact List.filter_eq_nil_iff.mpr fun slice among => by simpa using none slice among
  have removed := without old.toList fun slice among => other slice (List.mem_append_left _ among)
  have added := without new.toList fun slice among => other slice (List.mem_append_right _ among)
  simp only [Cluster.slicesOf, listed, List.filter_append, removed, added]

/-- The classes may change if the one of the Listener does not. -/
theorem Watch.Tolerated.of_class {key : ObjectKey} (watch : Watch) (changed : ListenerClass)
    (listenerClasses : Store fun listenerClass : ListenerClass => listenerClass.metadata.name)
    (revision : Nat) (others : ∀ name, name ≠ changed.metadata.name →
      listenerClasses.get name = watch.cluster.listenerClasses.get name) :
    watch.Tolerated reorders key { watch with
      cluster := { watch.cluster with listenerClasses, revision }
      events := .listenerClass changed :: watch.events } where
  alert
    | .inl queued => Or.inl queued
    | .inr ⟨event, pending, concerns⟩ => Or.inr ⟨event, List.mem_cons_of_mem _ pending, concerns⟩
  nodes := rfl
  same := by
    by_cases named : ∃ listener, watch.cluster.listeners.get key = some listener ∧
        listener.spec.className = changed.metadata.name
    · obtain ⟨listener, stored, named⟩ := named
      refine Or.inl (Or.inr ⟨_, List.mem_cons_self, ?_⟩)
      change Event.Concerns _ (watch.cluster.listeners.get key)
      rw [stored]
      exact named
    · refine Or.inr ⟨rfl, rfl, fun listener stored => others _ ?_, fun _ _ _ => .refl _⟩
      intro same
      exact named ⟨listener, stored, same⟩

/-- Whatever happens besides a reconciliation is tolerated by it. -/
theorem Watch.Changes.tolerated {key : ObjectKey} {before after : Watch}
    (changes : before.Changes reorders key after) : before.Tolerated reorders key after := by
  cases changes with
  | listeners listeners revision =>
    refine ⟨fun alerted => alerted.commit _, rfl, ?_⟩
    by_cases same : listeners.get key = before.cluster.listeners.get key
    · exact Or.inr ⟨same, rfl, fun _ _ => rfl, fun _ _ _ => .refl _⟩
    · exact Or.inl (Watch.alerted_of_changed same)
  | storeClass changed revision =>
    exact .of_class before changed _ revision fun name other => Store.get_insert_of_ne _ other
  | removeClass changed revision =>
    refine .of_class before changed _ revision fun name other => ?_
    rw [Store.get_erase, if_neg other]
  | slice first last old new revision listed =>
    refine ⟨?_, rfl, ?_⟩
    · rintro (queued | ⟨event, pending, concerns⟩)
      · exact Or.inl queued
      · exact Or.inr ⟨event, List.mem_append_right _ pending, concerns⟩
    · by_cases own : ∃ listener, before.cluster.listeners.get key = some listener ∧
          listener.status.serviceName = key.name ∧ ∃ slice ∈ old.toList ++ new.toList,
            slice.metadata.ns = key.ns ∧
              slice.metadata.labels[serviceNameLabel]? = some key.name
      · obtain ⟨listener, stored, named, slice, among, ns, labelled⟩ := own
        refine Or.inl (Or.inr ⟨.endpointSlice slice,
          List.mem_append_left _ (List.mem_map_of_mem among), ?_⟩)
        have same : listener.metadata.key = key := before.cluster.listeners.keyed stored
        simp only [stored, Event.Concerns, labelled, named, ns, true_and]
        rw [← same]
        rfl
      · refine Or.inr ⟨rfl, rfl, fun _ _ => rfl, fun listener stored named => ?_⟩
        rw [before.cluster.slicesOf_replace listed fun slice among holds =>
          own ⟨listener, stored, named, slice, among, holds⟩]
        exact .refl _
  | reordered slices allowed same =>
    have listed : Relisted reorders before.cluster.endpointSlices slices := ⟨same, absurd allowed⟩
    exact ⟨id, rfl, Or.inr ⟨rfl, rfl, fun _ _ => rfl, fun _ _ _ => listed.slicesOf _ _⟩⟩
  | others services pods pvs pvcs podListeners revision unwritten =>
    exact ⟨id, rfl, Or.inr ⟨rfl, unwritten, fun _ _ => rfl, fun _ _ _ => .refl _⟩⟩
  | handled first last event api requests pending ran =>
    refine ⟨?_, rfl, Or.inr (.refl key before.cluster)⟩
    obtain ⟨asked, asks, concerned⟩ := event.handle_run api before.cluster
    rw [ran] at asks
    obtain rfl := Except.ok.inj (Prod.mk.inj asks).1
    rintro (queued | ⟨other, among, concerns⟩)
    · exact Or.inl (by simp [queued])
    · rw [pending, List.mem_append, List.mem_cons] at among
      rcases among with among | rfl | among
      · exact Or.inr ⟨other, List.mem_append_left _ among, concerns⟩
      · exact Or.inl (by simp [(concerned key).mpr concerns])
      · exact Or.inr ⟨other, List.mem_append_right _ among, concerns⟩

section Programs

variable {α : Type} {key : ObjectKey}

/-- From an alert on, nothing is asked of a program but what an alert gives. -/
theorem safe_alerted {program : Prog α} {post : Except Failure α → Watch → Prop} {watch : Watch}
    (ends : ∀ outcome later, later.Alerted key → post outcome later)
    (alerted : watch.Alerted key) :
    program.Safe (watched key) (watchRules reorders key) post watch := by
  induction program generalizing watch with
  | done outcome => exact fun later moves _ => ends outcome later (moves.alert alerted)
  | call request next ih =>
    rintro later moves - reply after ⟨api, cluster, rfl, -⟩
    exact ⟨trivial, trivial, ih reply ((moves.alert alerted).commit cluster)⟩

/-- What a program ensures, it ensures among changes. -/
theorem safe_ensures {program : Prog α} {allowed : Call → Prop} {returns : α → Prop}
    (ensures : program.Ensures allowed returns) (watch : Watch) :
    program.Safe (watched key) (watchRules reorders key)
      (fun outcome _ => ∀ value, outcome = .ok value → returns value) watch := by
  induction program generalizing watch with
  | done outcome =>
    rintro later - - value rfl
    exact ensures
  | call request next ih =>
    intro later moves _ reply after answered
    exact ⟨trivial, trivial, ih reply (ensures.2 reply) after⟩

/-- A read is answered by what is stored, or fails. -/
theorem watched_read {request : Call} (reads : request.kind = .read) {watch after : Watch}
    {reply : Reply request} (answered : watched key request watch reply after) :
    after = watch ∧ ((∀ api, reply = (serve api request watch.cluster).1) ∨
      ∃ failure, failure.reason ≠ .notFound ∧ reply = .error failure) := by
  obtain ⟨api, cluster, rfl, served | ⟨failure, reason, replied, effect⟩⟩ := answered
  · have replied : reply = (serve api request watch.cluster).1 := congrArg Prod.fst served
    have stays : cluster = (serve api request watch.cluster).2 := congrArg Prod.snd served
    rw [serve_read api request watch.cluster reads] at stays
    rw [stays, Watch.commit_self]
    refine ⟨rfl, Or.inl fun other => ?_⟩
    rw [replied]
    exact serve_read_reply api other request watch.cluster reads
  · have stays : cluster = watch.cluster := by
      rcases effect with same | effect
      · exact same
      · rw [effect, serve_read api request watch.cluster reads]
    rw [stays, Watch.commit_self]
    exact ⟨rfl, Or.inr ⟨failure, reason, replied⟩⟩

/-- A program that starts with a read. -/
theorem safe_read {request : Call} (reads : request.kind = .read)
    {next : Reply request → Prog α} {post : Except Failure α → Watch → Prop} {watch : Watch}
    (continues : ∀ later, watch.Tolerated reorders key later → ∀ reply,
      ((∀ api, reply = (serve api request later.cluster).1) ∨
        ∃ failure, failure.reason ≠ .notFound ∧ reply = .error failure) →
      (next reply).Safe (watched key) (watchRules reorders key) post later) :
    (Program.call request next).Safe (watched key) (watchRules reorders key) post watch := by
  intro later moves _ reply after answered
  obtain ⟨rfl, replied⟩ := watched_read reads answered
  exact ⟨trivial, trivial, continues after moves reply replied⟩

/-- A program of reads does nothing that is not tolerated. -/
theorem safe_reads {program : Prog α} {returns : α → Prop}
    (ensures : program.Ensures (fun request => request.kind = .read) returns) (start : Watch) :
    program.Safe (watched key) (watchRules reorders key) (fun outcome later =>
      start.Tolerated reorders key later ∧ ∀ value, outcome = .ok value → returns value) start := by
  suffices rest : ∀ watch, start.Tolerated reorders key watch →
      program.Safe (watched key) (watchRules reorders key) (fun outcome later =>
        start.Tolerated reorders key later ∧ ∀ value, outcome = .ok value → returns value) watch from
    rest start ((watchRules reorders key).rely_refl start)
  induction program with
  | done outcome =>
    intro watch moved later moves _
    refine ⟨moved.trans moves, ?_⟩
    rintro value rfl
    exact ensures
  | call request next ih =>
    intro watch moved
    exact safe_read ensures.1 fun later moves reply _ =>
      ih reply (ensures.2 reply) later (moved.trans moves)

/-- A program that starts with a read and returns its error. -/
theorem safe_ask {request : Call} (reads : request.kind = .read)
    {rest : Value request → Prog α} {post : Except Failure α → Watch → Prop} {watch : Watch}
    (fails : ∀ failure later, watch.Tolerated reorders key later → post (.error failure) later)
    (continues : ∀ later, watch.Tolerated reorders key later → ∀ value,
      (∀ api, (serve api request later.cluster).1 = .ok value) →
        (rest value).Safe (watched key) (watchRules reorders key) post later) :
    (ask request >>= rest).Safe (watched key) (watchRules reorders key) post watch := by
  refine safe_read reads fun later moves reply replied => ?_
  cases reply with
  | ok value =>
    refine continues later moves value fun api => ?_
    rcases replied with served | ⟨failure, -, impossible⟩
    · exact (served api).symm
    · cases impossible
  | error failure =>
    exact fun last onward _ => fails _ last (moves.trans onward)

/-- A value that was read is the one that the API server gives. -/
theorem served_of_replied (api : ApiServer) {request : Call} {cluster : Cluster}
    {value : Value request}
    (replied : (∀ api, (.ok value : Reply request) = (serve api request cluster).1) ∨
      ∃ failure : CallError, failure.reason ≠ .notFound ∧
        (.ok value : Reply request) = .error failure) :
    (serve api request cluster).1 = .ok value := by
  rcases replied with served | ⟨failure, -, impossible⟩
  · exact (served api).symm
  · cases impossible

/-- A Service that is read has the key it was asked for. -/
def Returned : (request : Call) → Value request → Prop
  | .getService key, service => service.metadata.key = key
  | _, _ => True

/-- The API server returns what it was asked for. -/
theorem serve_returned {api : ApiServer} {request : Call} {cluster : Cluster}
    {value : Value request} (served : (serve api request cluster).1 = .ok value) :
    Returned request value := by
  cases request with
  | getService key => exact cluster.services.keyed (found_eq_ok.mp served)
  | _ => trivial

/-- A program of reads that returns the error of a read that fails. -/
def Strict (allowed : Call → Prop) : Prog α → Prop
  | .done _ => True
  | .call request next => allowed request ∧ request.kind = .read ∧
    (∀ failure, ∃ returned, next (.error failure) = .done (.error returned)) ∧
      ∀ value, Returned request value → Strict allowed (next (.ok value))

/-- A read followed by a strict program. -/
theorem strict_ask {allowed : Call → Prop} {request : Call} (allows : allowed request)
    (reads : request.kind = .read) {rest : Value request → Prog α}
    (continues : ∀ value, Returned request value → Strict allowed (rest value)) :
    Strict allowed (ask request >>= rest) :=
  ⟨allows, reads, fun _ => ⟨_, rfl⟩, continues⟩

/-- A sequence fails if its first part does. -/
theorem fails_bind {β : Type} {program : Prog α} {rest : α → Prog β}
    (fails : ∃ returned, program = .done (.error returned)) :
    ∃ returned, program >>= rest = .done (.error returned) := by
  obtain ⟨returned, rfl⟩ := fails
  exact ⟨returned, rfl⟩

/-- A sequence of strict programs is strict. -/
theorem Strict.bind {β : Type} {allowed : Call → Prop} {program : Prog α} {rest : α → Prog β}
    (first : Strict allowed program) (second : ∀ value, Strict allowed (rest value)) :
    Strict allowed (program >>= rest) := by
  induction program with
  | done outcome =>
    cases outcome with
    | ok value => exact second value
    | error failure => trivial
  | call request next ih =>
    obtain ⟨allows, reads, fails, continues⟩ := first
    exact ⟨allows, reads, fun failure => fails_bind (fails failure),
      fun value answers => ih _ (continues value answers)⟩

/-- Among changes the rest of a strict program fails, meets an alert, or returns what it returns on a
cluster, as long as without an alert the allowed reads are answered as on that cluster. -/
theorem safe_strict (api : ApiServer) {allowed : Call → Prop} {program : Prog α}
    (strict : Strict allowed program) {start watch : Watch} {cluster : Cluster}
    {result : Except Failure α} (moved : start.Tolerated reorders key watch)
    (agrees : ∀ later, start.Tolerated reorders key later → later.Alerted key ∨ ∀ request,
      allowed request → (serve api request later.cluster).1 = (serve api request cluster).1)
    (follows : watch.Alerted key ∨ (program.run (serve api) cluster).1 = result) :
    program.Safe (watched key) (watchRules reorders key) (fun outcome later =>
      start.Tolerated reorders key later ∧ ((∃ failure, outcome = .error failure) ∨
        later.Alerted key ∨ result = outcome)) watch := by
  induction program generalizing watch with
  | done outcome =>
    intro later moves _
    exact ⟨moved.trans moves, Or.inr (follows.imp moves.alert Eq.symm)⟩
  | call request next ih =>
    obtain ⟨allows, reads, fails, continues⟩ := strict
    refine safe_read reads fun later moves reply replied => ?_
    have onward := moved.trans moves
    cases reply with
    | error failure =>
      obtain ⟨returned, ends⟩ := fails failure
      rw [ends]
      exact fun last further _ => ⟨onward.trans further, Or.inl ⟨returned, rfl⟩⟩
    | ok value =>
      have served := served_of_replied api replied
      refine ih (.ok value) (continues value (serve_returned served)) onward ?_
      rcases follows with alerted | same
      · exact Or.inl (moves.alert alerted)
      · refine (agrees later onward).imp_right fun agree => ?_
        rw [← same, Program.run_call, ← agree request allows, served,
          serve_read api request cluster reads]

/-- A strict program, but for one other read. -/
def StrictOnce (allowed other : Call → Prop) : Prog α → Prop
  | .done _ => True
  | .call request next => request.kind = .read ∧
    (∀ failure, ∃ returned, next (.error failure) = .done (.error returned)) ∧
      ((allowed request ∧ ∀ value, Returned request value →
          StrictOnce allowed other (next (.ok value))) ∨
        other request ∧ ∀ value, Strict allowed (next (.ok value)))

/-- A strict program makes no other read. -/
theorem Strict.once {allowed other : Call → Prop} {program : Prog α}
    (strict : Strict allowed program) : StrictOnce allowed other program := by
  induction program with
  | done outcome => trivial
  | call request next ih =>
    obtain ⟨allows, reads, fails, continues⟩ := strict
    exact ⟨reads, fails, Or.inl ⟨allows, fun value answers => ih _ (continues value answers)⟩⟩

/-- A read followed by a program that is strict but for one other read. -/
theorem strictOnce_ask {allowed other : Call → Prop} {request : Call} (allows : allowed request)
    (reads : request.kind = .read) {rest : Value request → Prog α}
    (continues : ∀ value, Returned request value → StrictOnce allowed other (rest value)) :
    StrictOnce allowed other (ask request >>= rest) :=
  ⟨reads, fun _ => ⟨_, rfl⟩, Or.inl ⟨allows, continues⟩⟩

/-- The other read may be made in the second part of a sequence. -/
theorem Strict.bind_once {β : Type} {allowed other : Call → Prop} {program : Prog α}
    {rest : α → Prog β} (first : Strict allowed program)
    (second : ∀ value, StrictOnce allowed other (rest value)) :
    StrictOnce allowed other (program >>= rest) := by
  induction program with
  | done outcome =>
    cases outcome with
    | ok value => exact second value
    | error failure => trivial
  | call request next ih =>
    obtain ⟨allows, reads, fails, continues⟩ := first
    exact ⟨reads, fun failure => fails_bind (fails failure), Or.inl ⟨allows, fun value answers =>
      ih _ (continues value answers)⟩⟩

/-- The other read may be made in the first part of a sequence. -/
theorem StrictOnce.bind {β : Type} {allowed other : Call → Prop} {program : Prog α}
    {rest : α → Prog β} (first : StrictOnce allowed other program)
    (second : ∀ value, Strict allowed (rest value)) :
    StrictOnce allowed other (program >>= rest) := by
  induction program with
  | done outcome =>
    cases outcome with
    | ok value => exact (second value).once
    | error failure => trivial
  | call request next ih =>
    obtain ⟨reads, fails, continues⟩ := first
    refine ⟨reads, fun failure => fails_bind (fails failure), continues.imp ?_ ?_⟩
    · exact fun known => ⟨known.1, fun value answers => ih _ (known.2 value answers)⟩
    · exact fun known => ⟨known.1, fun value => (known.2 value).bind second⟩

/-- Among changes the rest of a program that is strict but for one other read fails, meets an alert,
or returns what it returns on one of some clusters, as long as without an alert the allowed reads are
answered as on all of these clusters, and the other read as on one of them. -/
theorem safe_strictOnce (api : ApiServer) {allowed other : Call → Prop} {program : Prog α}
    (strict : StrictOnce allowed other program) {start watch : Watch} {possible : Cluster → Prop}
    {result : Cluster → Except Failure α} (some : ∃ cluster, possible cluster)
    (moved : start.Tolerated reorders key watch)
    (agrees : ∀ later, start.Tolerated reorders key later → later.Alerted key ∨
      (∀ request, allowed request → ∀ cluster, possible cluster →
        (serve api request later.cluster).1 = (serve api request cluster).1) ∧
      ∀ request, other request → ∃ cluster, possible cluster ∧
        (serve api request later.cluster).1 = (serve api request cluster).1)
    (follows : watch.Alerted key ∨ ∀ cluster, possible cluster →
      (program.run (serve api) cluster).1 = result cluster) :
    program.Safe (watched key) (watchRules reorders key) (fun outcome later =>
      start.Tolerated reorders key later ∧ ((∃ failure, outcome = .error failure) ∨
        later.Alerted key ∨ ∃ cluster, possible cluster ∧ result cluster = outcome)) watch := by
  -- Up to the other read the rest of the program is followed on all the clusters.
  obtain ⟨any, anyPossible⟩ := some
  induction program generalizing watch with
  | done outcome =>
    intro later moves _
    refine ⟨moved.trans moves, Or.inr (follows.imp moves.alert fun same => ?_)⟩
    exact ⟨any, anyPossible, (same any anyPossible).symm⟩
  | call request next ih =>
    obtain ⟨reads, fails, continues⟩ := strict
    refine safe_read reads fun later moves reply replied => ?_
    have onward := moved.trans moves
    cases reply with
    | error failure =>
      obtain ⟨returned, ends⟩ := fails failure
      rw [ends]
      exact fun last further _ => ⟨onward.trans further, Or.inl ⟨returned, rfl⟩⟩
    | ok value =>
      have served := served_of_replied api replied
      have runs : ∀ cluster, (serve api request later.cluster).1 = (serve api request cluster).1 →
          ((next (.ok value)).run (serve api) cluster).1 =
            ((Program.call request next).run (serve api) cluster).1 := by
        intro cluster answered
        rw [Program.run_call, ← answered, served, serve_read api request cluster reads]
      rcases continues with ⟨allows, continues⟩ | ⟨lists, continues⟩
      · refine ih (.ok value) (continues value (serve_returned served)) onward ?_
        rcases follows with alerted | same
        · exact Or.inl (moves.alert alerted)
        · exact (agrees later onward).imp_right fun agree cluster among =>
            (runs cluster (agree.1 request allows cluster among)).trans (same cluster among)
      · -- from here on the cluster is the one on which the other read is answered so
        have chosen : ∃ cluster, possible cluster ∧ (later.Alerted key ∨
            ((next (.ok value)).run (serve api) cluster).1 = result cluster) := by
          rcases follows with alerted | same
          · exact ⟨any, anyPossible, Or.inl (moves.alert alerted)⟩
          · rcases agrees later onward with alerted | ⟨-, agree⟩
            · exact ⟨any, anyPossible, Or.inl alerted⟩
            · obtain ⟨cluster, among, answered⟩ := agree request lists
              exact ⟨cluster, among, Or.inr ((runs cluster answered).trans (same cluster among))⟩
        obtain ⟨cluster, among, onwards⟩ := chosen
        have alike : ∀ last, start.Tolerated reorders key last → last.Alerted key ∨ ∀ request,
            allowed request → (serve api request last.cluster).1 = (serve api request cluster).1 :=
          fun last further => (agrees last further).imp_right
            fun agree request allows => agree.1 request allows cluster among
        refine (safe_strict api (continues value) onward alike onwards).mono ?_
        rintro outcome last - ⟨further, ends⟩
        exact ⟨further, ends.imp_right (Or.imp_right fun returned => ⟨cluster, among, returned⟩)⟩

end Programs

/-- The stored Service is the one that a Listener and its class ask for: an update finds nothing
to change. -/
structure Cluster.Provides (runtime : ControllerRuntime) (cluster : Cluster) (listener : Listener)
    (listenerClass : ListenerClass) (desired service : Service) : Prop where
  wants : cluster.Wants listener listenerClass desired
  described : cluster.services.get listener.metadata.key = some service
  settled : mutateService runtime listener desired service = .ok service

/-- A status is computed from the Service, the nodes and the slices of the Service in some order. -/
def Cluster.Derives (reorders : Prop) (key : ObjectKey) (cluster : Cluster) (listener : Listener)
    (listenerClass : ListenerClass) (service : Service) (status : ListenerStatus) : Prop :=
  ∃ slices, Relisted reorders (cluster.slicesOf key.ns key.name) slices ∧
    (listenerClass.preferredType >>=
      { cluster with endpointSlices := slices }.statusFor listener service) = .ok status

/-- The computation of a status with the slices in some order. -/
theorem listenerStatus_relisted (api : ApiServer) {cluster : Cluster} {listener : Listener}
    {service : Service} {listenerClass : ListenerClass}
    (described : cluster.services.get listener.metadata.key = some service)
    (classed : cluster.listenerClasses.get listener.spec.className = some listenerClass)
    (slices : List EndpointSlice) :
    ((listenerStatus listener).run (serve api) { cluster with endpointSlices := slices }).1 =
      (listenerClass.preferredType >>=
        { cluster with endpointSlices := slices }.statusFor listener service) := by
  have same : { cluster with endpointSlices := slices }.services.get listener.metadata.key =
      some service := described
  rw [listenerStatus_run api same classed]

/-- A computed status names the Service. -/
theorem Cluster.Derives.serviceName {key : ObjectKey} {cluster : Cluster} {listener : Listener}
    {listenerClass : ListenerClass} {service : Service} {status : ListenerStatus}
    (derives : cluster.Derives reorders key listener listenerClass service status) :
    status.serviceName = listener.metadata.name := by
  obtain ⟨slices, -, computed⟩ := derives
  obtain ⟨preferred, -, found⟩ := bind_eq_ok.mp computed
  exact Cluster.statusFor_serviceName found

/-- The Service of a stored Listener is the one it asks for, and its status is the one computed
from the Service. -/
def Cluster.UpToDate (reorders : Prop) (runtime : ControllerRuntime) (key : ObjectKey)
    (cluster : Cluster) : Prop :=
  ∀ listener, cluster.listeners.get key = some listener →
    ∃ listenerClass desired service,
      cluster.Provides runtime listener listenerClass desired service ∧
        cluster.Derives reorders key listener listenerClass service listener.status

section Stable

variable {runtime : ControllerRuntime} {key : ObjectKey} {before after : Cluster}
  {listener : Listener} {listenerClass : ListenerClass} {desired service : Service}
  {status : ListenerStatus}

/-- A Service that is asked for stays so while nothing changes. -/
theorem Cluster.SameFor.provides (same : before.SameFor reorders key after)
    (stored : before.listeners.get key = some listener)
    (provides : before.Provides runtime listener listenerClass desired service) :
    after.Provides runtime listener listenerClass desired service := by
  have keyed : listener.metadata.key = key := before.listeners.keyed stored
  obtain ⟨⟨classed, ported, wanted⟩, described, settled⟩ := provides
  refine ⟨⟨?_, ported, wanted⟩, ?_, settled⟩
  · rw [same.listenerClass listener stored, classed]
  · rw [keyed, same.service, ← keyed, described]

/-- A status of a Listener whose status names the Service is computed alike while nothing changes. -/
theorem Cluster.SameFor.derives (same : before.SameFor reorders key after)
    (nodes : after.nodes = before.nodes) (stored : before.listeners.get key = some listener)
    (named : listener.status.serviceName = listener.metadata.name)
    (derives : before.Derives reorders key listener listenerClass service status) :
    after.Derives reorders key listener listenerClass service status := by
  obtain ⟨slices, listed, computed⟩ := derives
  have keyed : listener.metadata.key = key := before.listeners.keyed stored
  have name : listener.metadata.name = key.name := congrArg ObjectKey.name keyed
  have relisted := same.slices listener stored (named.trans name)
  have addresses : { after with endpointSlices := slices }.priorAddress =
      { before with endpointSlices := slices }.priorAddress := by
    funext nodeName
    rw [Cluster.priorAddress, Cluster.priorAddress, nodes]
  have alike : { after with endpointSlices := slices }.statusFor listener service =
      { before with endpointSlices := slices }.statusFor listener service := by
    funext preferred
    simp only [Cluster.statusFor, addresses]
    rfl
  refine ⟨slices, relisted.symm.trans listed, ?_⟩
  rw [alike]
  exact computed

/-- A Listener that is up to date stays so while nothing changes. -/
theorem Cluster.SameFor.upToDate (same : before.SameFor reorders key after)
    (nodes : after.nodes = before.nodes) (current : before.UpToDate reorders runtime key) :
    after.UpToDate reorders runtime key := by
  intro listener storedAfter
  have stored : before.listeners.get key = some listener := same.listener.symm.trans storedAfter
  obtain ⟨listenerClass, desired, service, provides, derives⟩ := current listener stored
  exact ⟨listenerClass, desired, service, same.provides stored provides,
    same.derives nodes stored derives.serviceName derives⟩

end Stable

/-- An alert is there, or a fact about the cluster holds. -/
def Watch.Knows (key : ObjectKey) (fact : Cluster → Prop) (watch : Watch) : Prop :=
  watch.Alerted key ∨ fact watch.cluster

/-- A fact that stays while nothing changes is known until an alert. -/
theorem Watch.Knows.later {key : ObjectKey} {fact : Cluster → Prop} {before after : Watch}
    (knows : before.Knows key fact) (moves : before.Tolerated reorders key after)
    (stays : before.cluster.SameFor reorders key after.cluster →
      after.cluster.nodes = before.cluster.nodes → fact before.cluster → fact after.cluster) :
    after.Knows key fact := by
  rcases knows with alerted | holds
  · exact Or.inl (moves.alert alerted)
  · exact moves.same.imp_right fun same => stays same moves.nodes holds

section Reconcile

variable {runtime : ControllerRuntime} {key : ObjectKey} {listener : Listener}

/-- The Listener is stored and its Service is the one it asks for. -/
def Cluster.Prepared (runtime : ControllerRuntime) (key : ObjectKey) (listener : Listener)
    (cluster : Cluster) : Prop :=
  cluster.listeners.get key = some listener ∧ ∃ listenerClass desired service,
    cluster.Provides runtime listener listenerClass desired service

/-- A prepared Listener stays so until an alert. -/
theorem Watch.Knows.prepared {before after : Watch}
    (knows : before.Knows key (Cluster.Prepared runtime key listener))
    (moves : before.Tolerated reorders key after) :
    after.Knows key (Cluster.Prepared runtime key listener) :=
  knows.later moves fun same _ ⟨stored, listenerClass, desired, service, provides⟩ =>
    ⟨same.listener.trans stored, listenerClass, desired, service, same.provides stored provides⟩

/-- A Listener that is up to date stays so until an alert. -/
theorem Watch.Knows.upToDate {before after : Watch}
    (knows : before.Knows key (Cluster.UpToDate reorders runtime key))
    (moves : before.Tolerated reorders key after) :
    after.Knows key (Cluster.UpToDate reorders runtime key) :=
  knows.later moves fun same nodes => same.upToDate nodes

/-- A run of `createService` that asks for no other run leaves the Service as it is asked for. -/
theorem createService_safe (api : ApiServer) {watch : Watch}
    (stored : watch.Knows key fun cluster => cluster.listeners.get key = some listener)
    (keyed : listener.metadata.key = key) :
    (createService runtime listener).Safe (watched key) (watchRules reorders key)
      (fun outcome later => ∀ result, outcome = .ok result → result.isZero = true →
        later.Knows key (Cluster.Prepared runtime key listener)) watch := by
  have failed : ∀ (failure : Failure) (later : Watch), ∀ result : Result,
      (Except.error failure : Except Failure Result) = .ok result → result.isZero = true →
        later.Knows key (Cluster.Prepared runtime key listener) := by
    intro failure later result impossible
    cases impossible
  have again : ∀ {program : Prog OperationResult} (later : Watch),
      program.Ensures (fun _ => True) (fun operation => operation ≠ .none) →
      (program >>= fun operation =>
        if operation ≠ .none then return { requeue := true } else return {} : Prog Result).Safe
        (watched key) (watchRules reorders key) (fun outcome later => ∀ result,
          outcome = .ok result → result.isZero = true → later.Knows key (Cluster.Prepared runtime key listener)) later := by
    intro program later ensures
    have requeued : (program >>= fun operation =>
        if operation ≠ .none then return { requeue := true } else return {} : Prog Result).Ensures
        (fun _ => True) (fun result => result.isZero = false) :=
      ensures.bind fun operation changed => by
        rw [if_pos changed]
        rfl
    refine (safe_ensures requeued later).mono fun outcome last _ returns result same zero => ?_
    rw [returns result same] at zero
    cases zero
  refine safe_ask rfl (fun failure later _ => failed failure later)
    fun second moves listenerClass classRead => ?_
  have there := stored.later moves fun same _ holds => same.listener.trans holds
  have classed : second.cluster.listenerClasses.get listener.spec.className =
      some listenerClass := found_eq_ok.mp (classRead api)
  by_cases ported : servicePorts listener = []
  · rw [if_pos ported]
    exact fun later _ _ => failed _ later
  rw [if_neg ported]
  cases wanted : desiredService listener listenerClass with
  | error failure => exact fun later _ _ => failed _ later
  | ok desired =>
    refine safe_read rfl fun third further reply replied => ?_
    cases reply with
    | error failure =>
      by_cases absent : failure.reason = .notFound
      · simp only [absent, ↓reduceIte]
        cases mutateService runtime listener desired desired with
        | error refused => exact fun later _ _ => failed _ later
        | ok mutated =>
          have created : ((ask (.createService mutated)) >>= fun _ =>
              pure OperationResult.created : Prog OperationResult).Ensures
              (fun _ => True) (fun operation => operation ≠ .none) :=
            (ensures_ask trivial).bind fun _ _ => by simp [Program.Ensures]
          exact again third created
      · simp only [absent, ↓reduceIte]
        exact fun later _ _ => failed _ later
    | ok existing =>
      dsimp only
      cases mutation : mutateService runtime listener desired existing with
      | error refused => exact fun later _ _ => failed _ later
      | ok mutated =>
        by_cases same : mutated = existing
        · subst same
          simp only [Program.lift_eq, Program.done_ok_bind, ↓reduceIte]
          have described : third.cluster.services.get key = some mutated := by
            rcases replied with served | ⟨failure, -, impossible⟩
            · rw [← keyed, ← desiredService_key wanted]
              exact found_eq_ok.mp (served api).symm
            · cases impossible
          have prepared : third.Knows key (Cluster.Prepared runtime key listener) := by
            rcases there with alerted | holds
            · exact Or.inl (further.alert alerted)
            · refine further.same.imp_right fun unchanged => ⟨unchanged.listener.trans holds,
                listenerClass, desired, mutated, ⟨?_, ported, wanted⟩, ?_, mutation⟩
              · rw [unchanged.listenerClass listener holds, classed]
              · rw [keyed, described]
          exact fun later onward _ _ _ _ => prepared.prepared onward
        · simp only [Program.lift_eq, Program.done_ok_bind, same, ↓reduceIte]
          have updated : ((ask (.updateService mutated)) >>= fun _ =>
              pure OperationResult.updated : Prog OperationResult).Ensures
              (fun _ => True) (fun operation => operation ≠ .none) :=
            (ensures_ask trivial).bind fun _ _ => by simp [Program.Ensures]
          exact again third updated

/-- The reads of the status computation that are no listing. -/
def StatusReads (listener : Listener) : Call → Prop
  | .getService key => key = listener.metadata.key
  | .getListenerClass key => key.name = listener.spec.className
  | .getNode _ => True
  | _ => False

/-- The listing of the status computation. -/
def StatusLists (listener : Listener) : Call → Prop
  | .listEndpointSlices ns serviceName =>
    ns = listener.metadata.ns ∧ serviceName = listener.metadata.name
  | _ => False

/-- The addresses of nodes are computed by reads of nodes. -/
theorem nodeAddresses_strict (listener : Listener) (nodeNames : List String) :
    Strict (StatusReads listener) (nodeAddresses nodeNames) := by
  induction nodeNames with
  | nil => trivial
  | cons nodeName nodeNames ih =>
    refine strict_ask trivial rfl fun node _ => ?_
    have lifted : Strict (StatusReads listener) (Program.lift (getPriorNodeAddress node)) := trivial
    exact lifted.bind fun address => ih.bind fun addresses => trivial

/-- The status is computed by reads of the Service, the class and the nodes, and at most one listing
of the slices. -/
theorem listenerStatus_strict (listener : Listener) :
    StrictOnce (StatusReads listener) (StatusLists listener) (listenerStatus listener) := by
  have ownService : StatusReads listener (.getService listener.metadata.key) := rfl
  have ownClass : StatusReads listener (.getListenerClass { name := listener.spec.className }) :=
    rfl
  refine strictOnce_ask ownService rfl fun service keyed => ?_
  have classed : Strict (StatusReads listener) (preferredAddressType listener) :=
    strict_ask ownClass rfl fun _ _ => trivial
  have lifted : ∀ {β : Type} {outcome : Except Failure β},
      Strict (StatusReads listener) (Program.lift outcome : Prog β) := trivial
  refine classed.bind_once fun preferred => ?_
  split
  · have names : StrictOnce (StatusReads listener) (StatusLists listener)
        (getNodeNames service) := by
      refine ⟨rfl, fun failure => ⟨_, rfl⟩, Or.inr ⟨?_, fun _ => trivial⟩⟩
      exact ⟨congrArg ObjectKey.ns keyed, congrArg ObjectKey.name keyed⟩
    refine lifted.bind_once fun ports => ?_
    refine (names.bind fun nodeNames => nodeAddresses_strict listener nodeNames).bind
      fun addresses => ?_
    exact lifted.bind fun entries => trivial
  · exact Strict.once (lifted.bind fun addresses => lifted.bind fun entries => trivial)
  · split
    · exact Strict.once (lifted.bind fun addresses => lifted.bind fun entries => trivial)
    · trivial
  · trivial

/-- The reads of the status computation are answered alike while nothing changes, in whatever order
the slices are. -/
theorem Cluster.SameFor.statusReads {before after : Cluster} (api : ApiServer)
    (same : before.SameFor reorders key after) (nodes : after.nodes = before.nodes)
    (stored : before.listeners.get key = some listener) {request : Call}
    (reads : StatusReads listener request) (slices : List EndpointSlice) :
    (serve api request after).1 =
      (serve api request { before with endpointSlices := slices }).1 := by
  have keyed : listener.metadata.key = key := before.listeners.keyed stored
  cases request with
  | getService asked =>
    obtain rfl : asked = listener.metadata.key := reads
    simp only [serve, keyed, same.service]
  | getListenerClass asked =>
    have className : asked.name = listener.spec.className := reads
    simp only [serve, className, same.listenerClass listener stored]
  | getNode asked => simp only [serve, nodes]
  | _ => cases reads

/-- The slices are listed in some order while nothing changes, if the status names the Service. -/
theorem Cluster.SameFor.statusLists {before after : Cluster} (api : ApiServer)
    (same : before.SameFor reorders key after) (stored : before.listeners.get key = some listener)
    (named : listener.status.serviceName = listener.metadata.name) {request : Call}
    (lists : StatusLists listener request) :
    ∃ slices, Relisted reorders (before.slicesOf key.ns key.name) slices ∧
      (serve api request after).1 =
        (serve api request { before with endpointSlices := slices }).1 := by
  have keyed : listener.metadata.key = key := before.listeners.keyed stored
  have name : listener.metadata.name = key.name := congrArg ObjectKey.name keyed
  have ns : listener.metadata.ns = key.ns := congrArg ObjectKey.ns keyed
  cases request with
  | listEndpointSlices asked serviceName =>
    obtain ⟨rfl, rfl⟩ := lists
    refine ⟨after.slicesOf key.ns key.name, same.slices listener stored (named.trans name), ?_⟩
    simp only [serve, ns, name]
    rw [after.slicesOf_slicesOf before]
  | _ => cases lists

/-- A computed status is that of the cluster, if the stored one names the Service; if it does not,
the computed one differs from it. -/
def Cluster.Ready (reorders : Prop) (runtime : ControllerRuntime) (key : ObjectKey)
    (listener : Listener) (status : ListenerStatus) (cluster : Cluster) : Prop :=
  cluster.listeners.get key = some listener ∧ status.serviceName = listener.metadata.name ∧
    ∃ listenerClass desired service,
      cluster.Provides runtime listener listenerClass desired service ∧
        (listener.status.serviceName = listener.metadata.name →
          cluster.Derives reorders key listener listenerClass service status)

/-- A computed status stays so until an alert. -/
theorem Watch.Knows.ready {status : ListenerStatus} {before after : Watch}
    (knows : before.Knows key (Cluster.Ready reorders runtime key listener status))
    (moves : before.Tolerated reorders key after) :
    after.Knows key (Cluster.Ready reorders runtime key listener status) := by
  refine knows.later moves fun same nodes ⟨stored, names, listenerClass, desired, service,
    provides, derives⟩ => ⟨same.listener.trans stored, names, listenerClass, desired, service,
      same.provides stored provides, fun named => ?_⟩
  exact same.derives nodes stored named (derives named)

/-- The status computation returns a status that is ready to be written. -/
theorem listenerStatus_safe (api : ApiServer) {watch : Watch}
    (prepared : watch.Knows key (Cluster.Prepared runtime key listener)) :
    (listenerStatus listener).Safe (watched key) (watchRules reorders key) (fun outcome later =>
      ∀ status, outcome = .ok status →
        later.Knows key (Cluster.Ready reorders runtime key listener status)) watch := by
  rcases prepared with alerted | ⟨stored, listenerClass, desired, service, provides⟩
  · exact safe_alerted (fun outcome later alerted status _ => Or.inl alerted) alerted
  by_cases named : listener.status.serviceName = listener.metadata.name
  · -- the clusters on which the status may be computed: the slices of the Service in some order
    let possible (cluster : Cluster) : Prop := ∃ slices,
      Relisted reorders (watch.cluster.slicesOf key.ns key.name) slices ∧
        cluster = { watch.cluster with endpointSlices := slices }
    have some : ∃ cluster, possible cluster := ⟨_, _, .refl _, rfl⟩
    have agrees : ∀ later, watch.Tolerated reorders key later → later.Alerted key ∨
        (∀ request, StatusReads listener request → ∀ cluster, possible cluster →
          (serve api request later.cluster).1 = (serve api request cluster).1) ∧
        ∀ request, StatusLists listener request → ∃ cluster, possible cluster ∧
          (serve api request later.cluster).1 = (serve api request cluster).1 := by
      intro later moves
      refine moves.same.imp_right fun same => ⟨?_, fun request lists => ?_⟩
      · rintro request reads _ ⟨slices, -, rfl⟩
        exact same.statusReads api moves.nodes stored reads slices
      · obtain ⟨slices, listed, answered⟩ := same.statusLists api stored named lists
        exact ⟨_, ⟨slices, listed, rfl⟩, answered⟩
    have unmoved := (watchRules reorders key).rely_refl watch
    refine (safe_strictOnce api (listenerStatus_strict listener) some unmoved agrees
      (Or.inr fun _ _ => rfl)).mono ?_
    rintro outcome later - ⟨moves, ⟨failure, rfl⟩ | alerted | ⟨_, ⟨slices, listed, rfl⟩, returned⟩⟩
      status same
    · cases same
    · exact Or.inl alerted
    · rw [listenerStatus_relisted api provides.described provides.wants.classed] at returned
      have derives : watch.cluster.Derives reorders key listener listenerClass service status :=
        ⟨slices, listed, returned.trans same⟩
      have ready : watch.Knows key (Cluster.Ready reorders runtime key listener status) :=
        Or.inr ⟨stored, derives.serviceName, listenerClass, desired, service, provides,
          fun _ => derives⟩
      exact ready.ready moves
  · refine (safe_reads (listenerStatus_ensures listener) watch).mono ?_
    rintro outcome later - ⟨moves, names⟩ status same
    have ready : watch.Knows key (Cluster.Ready reorders runtime key listener status) :=
      Or.inr ⟨stored, names status same, listenerClass, desired, service, provides,
        fun other => absurd other named⟩
    exact ready.ready moves

/-- A status write leaves the cluster as it is or changes the Listener; if it succeeds without a
change, the status was stored already. -/
theorem serve_updateListenerStatus (api : ApiServer) (cluster : Cluster) (written : Listener) :
    ((serve api (.updateListenerStatus written) cluster).2 = cluster ∧
      ∀ value, (serve api (.updateListenerStatus written) cluster).1 = .ok value →
        ∃ current, cluster.listeners.get written.metadata.key = some current ∧
          current.status = written.status) ∨
    (serve api (.updateListenerStatus written) cluster).2.listeners.get written.metadata.key ≠
      cluster.listeners.get written.metadata.key := by
  cases stored : cluster.listeners.get written.metadata.key with
  | none =>
    refine Or.inl ⟨by simp only [serve, stored], fun value impossible => ?_⟩
    simp only [serve, stored] at impossible
    cases impossible
  | some current =>
    by_cases version : current.metadata.resourceVersion = written.metadata.resourceVersion
    · simp only [serve, stored, version, ne_eq, not_true_eq_false, ↓reduceIte]
      by_cases same : current.status = written.status
      · refine Or.inl ⟨by rw [Cluster.storeStatus, if_pos same], fun value _ => ?_⟩
        exact ⟨current, rfl, same⟩
      · have keyed : current.metadata.key = written.metadata.key := cluster.listeners.keyed stored
        obtain ⟨after, found, status, -⟩ := cluster.storeStatus_get current written.status
          (keyed ▸ stored)
        refine Or.inr ?_
        rw [← keyed, found]
        rintro changed
        rw [Option.some.inj changed] at status
        exact same status
    · refine Or.inl ⟨by simp only [serve, stored, ne_eq, version, not_false_eq_true, ↓reduceIte],
        fun value impossible => ?_⟩
      simp only [serve, stored, ne_eq, version, not_false_eq_true, ↓reduceIte] at impossible
      cases impossible

/-- A status write that succeeds leaves the Listener up to date, and one that fails can be
repeated. -/
theorem writeStatus_safe (api : ApiServer) {status : ListenerStatus} {watch : Watch}
    (ready : watch.Knows key (Cluster.Ready reorders runtime key listener status))
    (keyed : listener.metadata.key = key) :
    (writeStatus listener status).Safe (watched key) (watchRules reorders key) (fun outcome later =>
      match outcome with
      | .ok _ => later.Knows key (Cluster.UpToDate reorders runtime key)
      | .error _ => later.Knows key (Cluster.Ready reorders runtime key listener status)) watch := by
  refine safe_ask rfl (fun failure later moves => ready.ready moves)
    fun second moves current read => ?_
  have currentKey : current.metadata.key = key := by
    rw [second.cluster.listeners.keyed (found_eq_ok.mp (read api)), keyed]
  have again := ready.ready moves
  rintro third further - reply after ⟨server, cluster, rfl, answer⟩
  refine ⟨trivial, trivial, ?_⟩
  have here := again.ready further
  have inverts := serve_updateListenerStatus server third.cluster { current with status }
  rw [show ({ current with status } : Listener).metadata.key = key from currentKey] at inverts
  have effect : cluster = third.cluster ∧ (∀ value, reply = .ok value →
      ∃ stored, third.cluster.listeners.get key = some stored ∧ stored.status = status) ∨
      cluster.listeners.get key ≠ third.cluster.listeners.get key := by
    rcases answer with served | ⟨failure, -, rfl, same | effect⟩
    · have replied : reply = (serve server (.updateListenerStatus { current with status })
          third.cluster).1 := congrArg Prod.fst served
      have left : cluster = (serve server (.updateListenerStatus { current with status })
          third.cluster).2 := congrArg Prod.snd served
      rw [replied, left]
      exact inverts
    · exact Or.inl ⟨same, fun value impossible => by cases impossible⟩
    · rw [effect]
      exact inverts.imp_left fun same => ⟨same.1, fun value impossible => by cases impossible⟩
  rcases effect with ⟨rfl, already⟩ | changed
  · rw [Watch.commit_self]
    cases reply with
    | error failure => exact fun last onward _ => here.ready onward
    | ok value =>
      obtain ⟨stored, found, same⟩ := already value rfl
      have current : third.Knows key (Cluster.UpToDate reorders runtime key) := by
        refine here.imp_right fun ⟨held, names, listenerClass, desired, service, provides,
          derives⟩ other otherStored => ?_
        obtain rfl := Option.some.inj (held.symm.trans otherStored)
        obtain rfl := Option.some.inj (held.symm.trans found)
        rw [← same] at names derives
        exact ⟨listenerClass, desired, service, provides, derives names⟩
      exact fun last onward _ => current.upToDate onward
  · refine safe_alerted (fun outcome last alerted => ?_) (Watch.alerted_of_changed changed)
    cases outcome <;> exact Or.inl alerted

/-- Repeated status writes that end in success leave the Listener up to date. -/
theorem retryOnConflict_safe (api : ApiServer) {status : ListenerStatus} {watch : Watch}
    (ready : watch.Knows key (Cluster.Ready reorders runtime key listener status))
    (keyed : listener.metadata.key = key) (retries : Nat) :
    (retryOnConflict (writeStatus listener status) retries).Safe (watched key)
      (watchRules reorders key) (fun outcome later => outcome = .ok () →
        later.Knows key (Cluster.UpToDate reorders runtime key)) watch := by
  induction retries generalizing watch with
  | zero =>
    refine (writeStatus_safe api ready keyed).mono ?_
    rintro outcome later - current rfl
    exact current
  | succ retries ih =>
    refine Program.Safe.bind (Program.Safe.attempt
      ((writeStatus_safe api ready keyed).mono ?_))
    intro outcome later _ holds
    cases outcome with
    | ok value => exact fun last onward _ _ => Watch.Knows.upToDate holds onward
    | error failure =>
      dsimp only
      split
      · exact ih holds
      · exact fun last _ _ impossible => by cases impossible

/-- An update of the status that ends in success leaves the Listener up to date. -/
theorem updateListenerStatus_safe (api : ApiServer) {watch : Watch}
    (prepared : watch.Knows key (Cluster.Prepared runtime key listener))
    (keyed : listener.metadata.key = key) :
    (updateListenerStatus listener).Safe (watched key) (watchRules reorders key)
      (fun outcome later => outcome = .ok () →
        later.Knows key (Cluster.UpToDate reorders runtime key)) watch := by
  refine Program.Safe.bind ((listenerStatus_safe api prepared).mono ?_)
  intro outcome later _ ready
  cases outcome with
  | ok status => exact retryOnConflict_safe api (ready status rfl) keyed defaultRetries
  | error failure => exact fun impossible => by cases impossible

/-- A reconciliation ends in a request to be run again, or with the Listener up to date, or with
an alert. -/
theorem reconcile_safe (api : ApiServer) (watch : Watch) :
    (reconcile runtime key).Safe (watched key) (watchRules reorders key) (fun outcome later =>
      requeues outcome = false → later.Knows key (Cluster.UpToDate reorders runtime key)) watch := by
  refine safe_read rfl fun second moves reply replied => ?_
  cases reply with
  | error failure =>
    by_cases absent : failure.reason = .notFound
    · simp only [absent, ↓reduceIte]
      have gone : second.Knows key (Cluster.UpToDate reorders runtime key) := by
        refine Or.inr fun listener stored => ?_
        rcases replied with served | ⟨other, reason, same⟩
        · have found := served api
          simp only [serve, stored, found_some] at found
          cases found
        · obtain rfl := Except.error.inj same
          exact absurd absent reason
      exact fun last onward _ _ => gone.upToDate onward
    · simp only [absent, ↓reduceIte]
      exact fun last _ _ impossible => by cases impossible
  | ok listener =>
    have stored : second.cluster.listeners.get key = some listener := by
      rcases replied with served | ⟨other, -, impossible⟩
      · exact found_eq_ok.mp (served api).symm
      · cases impossible
    have keyed : listener.metadata.key = key := second.cluster.listeners.keyed stored
    refine Program.Safe.bind ((createService_safe api (Or.inr stored) keyed).mono ?_)
    intro outcome later _ created
    cases outcome with
    | error failure => exact fun impossible => by cases impossible
    | ok result =>
      dsimp only
      by_cases zero : result.isZero = true
      · simp only [zero, Bool.not_true, Bool.false_eq_true, ↓reduceIte]
        refine Program.Safe.bind
          ((updateListenerStatus_safe api (created result rfl zero) keyed).mono ?_)
        intro ended last _ current
        cases ended with
        | ok value => exact fun final onward _ _ => (current rfl).upToDate onward
        | error failure => exact fun impossible => by cases impossible
      · rw [Bool.not_eq_true] at zero
        simp only [zero, Bool.not_false, ↓reduceIte]
        intro last _ _ impossible
        simp [requeues, zero] at impossible

end Reconcile

section Controller

variable {runtime : ControllerRuntime} {key : ObjectKey}

/-- Between reconciliations the Listener is up to date until an alert, and a reconciliation that
is under way will leave it so. -/
def Controller.Sound (reorders : Prop) (runtime : ControllerRuntime) (key : ObjectKey)
    (controller : Controller) : Prop :=
  match controller.working with
  | none => controller.watch.Knows key (Cluster.UpToDate reorders runtime key)
  | some program => program.Safe (watched key) (watchRules reorders key) (fun outcome later =>
      requeues outcome = false → later.Knows key (Cluster.UpToDate reorders runtime key))
      controller.watch

/-- A step keeps the controller sound. -/
theorem Controller.Sound.step (api : ApiServer) {before after : Controller}
    (sound : before.Sound reorders runtime key) (step : before.Step reorders runtime key after) :
    after.Sound reorders runtime key := by
  cases step with
  | change watch changes =>
    have moves := changes.tolerated
    cases idle : before.working with
    | none =>
      simp only [Controller.Sound, idle] at sound ⊢
      exact sound.upToDate moves
    | some program =>
      simp only [Controller.Sound, idle] at sound ⊢
      exact sound.stable moves
  | start queued idle => exact reconcile_safe api _
  | call request next reply watch waiting answered =>
    simp only [Controller.Sound, waiting] at sound
    have moves := (watchRules reorders key).rely_refl before.watch
    exact (sound before.watch moves trivial reply watch answered).2.2
  | finish outcome ended =>
    simp only [Controller.Sound, ended] at sound
    have holds := sound before.watch ((watchRules reorders key).rely_refl _) trivial
    cases requeued : requeues outcome with
    | true => exact Or.inl (Or.inl (by simp))
    | false =>
      simp only [Controller.Sound, Bool.or_false]
      exact holds requeued

/-- The controller stays sound. -/
theorem Controller.Sound.reaches (api : ApiServer) {before after : Controller}
    (sound : before.Sound reorders runtime key)
    (reached : before.Reaches reorders runtime key after) :
    after.Sound reorders runtime key := by
  induction reached with
  | refl => exact sound
  | tail _ step ih => exact ih.step api step

/-- A Service that an update leaves as it is carries the desired fields. -/
theorem Cluster.Provides.carries {cluster : Cluster} {listener : Listener}
    {listenerClass : ListenerClass} {desired service : Service}
    (provides : cluster.Provides runtime listener listenerClass desired service) :
    service.Carries desired :=
  Service.carries_of_fixed provides.wants.wanted provides.settled

/-- A Listener that is neither queued nor being reconciled, with all events handled, has a Service
with the desired fields and the status that an update would write now: for the slices in the order
in which they are listed, or in some order if slices are reordered without an event. -/
theorem quiescent_upToDate (api : ApiServer) {start state : Controller}
    (idleStart : start.working = none)
    (pending : start.watch.queued = true ∨ start.watch.cluster.listeners.get key = none)
    (reached : start.Reaches reorders runtime key state)
    (idle : state.working = none) (unqueued : state.watch.queued = false)
    (handled : state.watch.events = []) {listener : Listener}
    (stored : state.watch.cluster.listeners.get key = some listener) :
    ∃ listenerClass desired service slices,
      state.watch.cluster.Wants listener listenerClass desired ∧
      state.watch.cluster.services.get key = some service ∧ service.Carries desired ∧
      slices.Perm state.watch.cluster.endpointSlices ∧
      (¬ reorders → slices = state.watch.cluster.endpointSlices) ∧
      ((listenerStatus listener).run (serve api)
        { state.watch.cluster with endpointSlices := slices }).1 = .ok listener.status := by
  have begins : start.Sound reorders runtime key := by
    simp only [Controller.Sound, idleStart]
    refine pending.imp Or.inl fun absent other impossible => ?_
    rw [absent] at impossible
    cases impossible
  have sound := begins.reaches api reached
  simp only [Controller.Sound, idle] at sound
  have calm : ¬ state.watch.Alerted key := by
    rintro (queued | ⟨event, listed, -⟩)
    · rw [unqueued] at queued
      cases queued
    · rw [handled] at listed
      cases listed
  have keyed : listener.metadata.key = key := state.watch.cluster.listeners.keyed stored
  obtain ⟨listenerClass, desired, service, provides, slices, listed, computed⟩ :=
    (sound.resolve_left calm) listener stored
  obtain ⟨whole, ⟨same, ordered⟩, own⟩ := listed.exists_whole
  have serviceKey : service.metadata.key = key := by
    rw [state.watch.cluster.services.keyed provides.described, keyed]
  have alike : { state.watch.cluster with endpointSlices := whole }.statusFor listener service =
      { state.watch.cluster with endpointSlices := slices }.statusFor listener service := by
    have endpoints : { state.watch.cluster with endpointSlices := whole }.endpointNodes service =
        { state.watch.cluster with endpointSlices := slices }.endpointNodes service := by
      rw [← serviceKey] at own
      exact congrArg sliceNodeNames own
    funext preferred
    simp only [Cluster.statusFor, endpoints]
    rfl
  refine ⟨listenerClass, desired, service, whole, provides.wants, ?_, provides.carries, same,
    ordered, ?_⟩
  · rw [← keyed, provides.described]
  · rw [listenerStatus_relisted api provides.described provides.wants.classed, alike, computed]

/-- The answer to a call of a reconciliation when nothing fails. -/
def serveWatch (key : ObjectKey) (api : ApiServer) (request : Call) (watch : Watch) :
    Reply request × Watch :=
  ((serve api request watch.cluster).1, watch.commit key (serve api request watch.cluster).2)

/-- A reconciliation can run to its end without other changes. -/
theorem Controller.reaches_run (api : ApiServer) (program : Prog Result) (watch : Watch) :
    Controller.Reaches reorders runtime key { watch, working := some program }
      { watch := (program.run (serveWatch key api) watch).2
        working := some (.done (program.run (serveWatch key api) watch).1) } := by
  induction program generalizing watch with
  | done outcome => exact .refl
  | call request next ih =>
    exact .head (.call request next _ _ rfl ⟨api, _, rfl, Or.inl rfl⟩) (ih _ _)

/-- Calls of a reconciliation leave the events. -/
theorem serveWatch_events (api : ApiServer) (program : Prog Result) (watch : Watch) :
    (program.run (serveWatch key api) watch).2.events = watch.events := by
  induction program generalizing watch with
  | done outcome => rfl
  | call request next ih => exact ih _ _

/-- What is watched after a reconciliation without other changes. -/
def Watch.round (runtime : ControllerRuntime) (key : ObjectKey) (api : ApiServer) (watch : Watch) :
    Watch :=
  let ran := (reconcile runtime key).run (serveWatch key api) { watch with queued := false }
  { ran.2 with queued := ran.2.queued || requeues ran.1 }

/-- A queued Listener can be reconciled without other changes. -/
theorem Controller.reaches_round (api : ApiServer) {watch : Watch} (queued : watch.queued = true) :
    Controller.Reaches reorders runtime key { watch } { watch := watch.round runtime key api } :=
  .head (.start queued rfl) ((Controller.reaches_run api _ _).tail (.finish _ rfl))

end Controller

/-- A second slice of the Service of `webListener`, with an endpoint on another node. -/
def secondSlice : EndpointSlice := { webSlice with
  metadata := { webSlice.metadata with name := "web-2" }
  endpoints := [{ nodeName := some "second" }] }

/-- The node of `secondSlice`. -/
def secondNode : Node where
  name := "second"
  addresses := [{ type := .hostName, address := "second.example" }]

/-- A new NodePort Listener after a number of reconciliations. -/
def webWatch : Nat → Watch
  | 0 => {
      cluster := { webCluster .nodePort .hostnameConservative with
        services := ∅
        endpointSlices := [webSlice, secondSlice]
        nodes := .ofList [webNode, secondNode] }
      queued := true }
  | rounds + 1 => (webWatch rounds).round .standard webListener.metadata.key (.filling "")

/-- The events of the Listener are handled. -/
theorem webWatch_events (rounds : Nat) : (webWatch rounds).events = [] := by
  induction rounds with
  | zero => rfl
  | succ rounds ih => exact (serveWatch_events _ _ _).trans ih

/-- The slices after three reconciliations are listed in the other order. -/
def reorderedWatch : Watch := { webWatch 3 with
  cluster := { (webWatch 3).cluster with
    endpointSlices := (webWatch 3).cluster.endpointSlices.reverse } }

/-- After the Service is created and the status is written, the Listener is up to date. When the
slices are listed in the other order then, it is so for the slices in the old order. -/
theorem webWatch_upToDate :
    ∃ listener, (webWatch 3).cluster.listeners.get webListener.metadata.key = some listener ∧
      ((listenerStatus listener).run (serve (.filling "")) (webWatch 3).cluster).1 =
        .ok listener.status ∧
      ((listenerStatus listener).run (serve (.filling "")) reorderedWatch.cluster).1 ≠
        .ok listener.status ∧
      ∃ slices, slices.Perm reorderedWatch.cluster.endpointSlices ∧
        ((listenerStatus listener).run (serve (.filling ""))
          { reorderedWatch.cluster with endpointSlices := slices }).1 = .ok listener.status := by
  have reached : ∀ reorders : Prop, Controller.Reaches reorders .standard webListener.metadata.key
      { watch := webWatch 0 } { watch := webWatch 3 } := fun reorders =>
    ((Controller.reaches_round _ rfl).trans (Controller.reaches_round _ (by decide +kernel))).trans
      (Controller.reaches_round _ (by decide +kernel))
  have onward := (reached True).tail (.change reorderedWatch
    (.reordered _ trivial (List.reverse_perm _)))
  have differs : ((webWatch 3).cluster.listeners.get webListener.metadata.key).map (fun listener =>
      decide (((listenerStatus listener).run (serve (.filling "")) reorderedWatch.cluster).1 =
        .ok listener.status)) = some false := by decide +kernel
  obtain ⟨listener, stored, other⟩ := Option.map_eq_some_iff.mp differs
  have unqueued : (webWatch 3).queued = false := by decide +kernel
  obtain ⟨-, -, -, slices, -, -, -, -, ordered, computed⟩ := quiescent_upToDate (.filling "") rfl
    (Or.inl rfl) (reached False) rfl unqueued (webWatch_events 3) stored
  obtain ⟨-, -, -, permuted, -, -, -, same, -, recomputed⟩ := quiescent_upToDate (.filling "") rfl
    (Or.inl rfl) onward rfl unqueued (webWatch_events 3) stored
  rw [ordered not_false] at computed
  exact ⟨listener, stored, computed, of_decide_eq_false other, permuted, same, recomputed⟩

end ListenerOperator
