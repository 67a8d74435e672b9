import ListenerOperator.Cache
import ListenerOperator.Verif.Instances
import ListenerOperator.Verif.Server

/-!
# Calls through a cache

What one call can do when reads go through the cache: a call is a write that the API server
served, or it changes nothing. What a program has been told stays true of the history, since no
version and no served write is forgotten.
-/

namespace ListenerOperator

open Interaction Versioned

/-- A call took effect: it is a write that the API server served, and a value in its reply is
the one that the server gave. -/
structure Effective (request : Call) (before : History) (reply : Reply request)
    (after : History) : Prop where
  kind : request.kind = .write
  served : ∃ (api : ApiServer) (value : Value request), Fresh before api.uid ∧
    (serve api request before.current).1 = .ok value ∧
      after = before.record request (serve api request before.current).2 ∧
        ∀ replied, reply = .ok replied → replied = value

/-- A value in a reply that is no answer to a write comes from a version. -/
structure Idle (request : Call) (before : History) (reply : Reply request) (after : History) :
    Prop where
  unchanged : after = before
  value : ∀ value, reply = .ok value → request.kind = .file ∨ request.kind = .read ∧
    ∃ version api, before.Has version ∧ (serve api request version).1 = .ok value

/-- A call is a served write or changes nothing. -/
theorem cached_cases {request : Call} {before after : History} {reply : Reply request}
    (answered : cached request before reply after) :
    Idle request before reply after ∨ Effective request before reply after := by
  cases kind : request.kind with
  | file =>
    simp only [cached, kind] at answered
    exact Or.inl ⟨answered, fun _ _ => Or.inl kind⟩
  | read =>
    simp only [cached, kind] at answered
    refine Or.inl ⟨answered.1, ?_⟩
    rintro value rfl
    rcases answered.2 with ⟨failure, impossible⟩ | ⟨version, api, had, replied⟩
    · cases impossible
    · exact Or.inr ⟨kind, version, api, had, replied.symm⟩
  | write =>
    simp only [cached, kind] at answered
    rcases answered with ⟨⟨failure, rfl⟩, same⟩ | ⟨api, fresh, rfl, replied⟩
    · exact Or.inl ⟨same, fun _ impossible => by cases impossible⟩
    · cases outcome : (serve api request before.current).1 with
      | ok value =>
        refine Or.inr ⟨kind, api, value, fresh, outcome, ?_, ?_⟩
        · simp only [served, outcome]
        · rintro given rfl
          rcases replied with ⟨failure, impossible⟩ | same
          · cases impossible
          · exact Except.ok.inj (same.trans outcome)
      | error failure =>
        refine Or.inl ⟨?_, ?_⟩
        · simp only [served, outcome]
        · rintro given rfl
          rcases replied with ⟨other, impossible⟩ | same
          · cases impossible
          · cases same.trans outcome

/-- The object in the reply of a call is the stored one. -/
def Cluster.Holds (cluster : Cluster) : (request : Call) → Value request → Prop
  | .getListener key, listener => cluster.listeners.get key = some listener
  | .createListener sent, listener => cluster.listeners.get sent.metadata.key = some listener
  | .getPod key, pod => cluster.pods.get key = some pod
  | .patchPod _ modified, pod => cluster.pods.get modified.metadata.key = some pod
  | .getPV key, pv => cluster.pvs.get key.name = some pv
  | .patchPV _ modified, pv => cluster.pvs.get modified.metadata.name = some pv
  | .getPVC key, pvc => cluster.pvcs.get key = some pvc
  | .getPodListeners key, podListeners => cluster.podListeners.get key = some podListeners
  | .getService key, service => cluster.services.get key = some service
  | _, _ => True

/-- What the API server replies is stored. -/
theorem serve_holds {api : ApiServer} {request : Call} {cluster : Cluster} {value : Value request}
    (replied : (serve api request cluster).1 = .ok value) :
    (serve api request cluster).2.Holds request value := by
  cases request with
  | getListener key => exact found_eq_ok.mp replied
  | getPod key => exact found_eq_ok.mp replied
  | getPV key => exact found_eq_ok.mp replied
  | getPVC key => exact found_eq_ok.mp replied
  | getPodListeners key => exact found_eq_ok.mp replied
  | getService key => exact found_eq_ok.mp replied
  | createListener sent =>
    cases held : cluster.listeners.get sent.metadata.key with
    | some other => simp [serve, held] at replied
    | none =>
      simp only [serve, held, Except.ok.injEq] at replied
      subst replied
      simp only [Cluster.Holds, serve, held]
      exact Keyed.Store.get_insert_self _ _
  | patchPod original modified =>
    cases held : cluster.pods.get modified.metadata.key with
    | none => simp [serve, held] at replied
    | some current =>
      simp only [serve, held, Except.ok.injEq] at replied
      subst replied
      simp only [Cluster.Holds, serve, held]
      rw [Keyed.Store.get_insert, if_pos]
      simp [cluster.pods.keyed held]
  | patchPV original modified =>
    cases held : cluster.pvs.get modified.metadata.name with
    | none => simp [serve, held] at replied
    | some current =>
      simp only [serve, held, Except.ok.injEq] at replied
      subst replied
      simp only [Cluster.Holds, serve, held]
      rw [Keyed.Store.get_insert, if_pos]
      rw [Cluster.relabel_frame]
      exact (cluster.pvs.keyed held).symm
  | _ => trivial

/-- The history has what a transcript tells: the object of each reply was stored, and each
answered write was served. -/
structure Recalls (transcript : Transcript) (history : History) : Prop where
  stored : ∀ request value, Answered transcript request value → request.kind ≠ .file →
    ∃ version, history.Has version ∧ version.Holds request value
  logged : ∀ request value, Answered transcript request value → request.kind = .write →
    request ∈ history.log

/-- An empty transcript tells nothing. -/
theorem Recalls.nil (history : History) : Recalls [] history :=
  ⟨fun _ _ answered => absurd answered List.not_mem_nil,
    fun _ _ answered => absurd answered List.not_mem_nil⟩

/-- What is recalled stays so. -/
theorem Recalls.mono {transcript : Transcript} {before after : History}
    (recalls : Recalls transcript before) (extended : before.Extends after) :
    Recalls transcript after := by
  refine ⟨fun request value answered objects => ?_, fun request value answered writes =>
    extended.log _ (recalls.logged request value answered writes)⟩
  obtain ⟨version, had, holds⟩ := recalls.stored request value answered objects
  exact ⟨version, extended.versions version had, holds⟩

/-- A call loses no version. -/
theorem cached_extends {request : Call} {before after : History} {reply : Reply request}
    (answered : cached request before reply after) : before.Extends after := by
  rcases cached_cases answered with idle | ⟨kind, api, value, -, -, rfl, -⟩
  · rw [idle.unchanged]
    exact .refl before
  · exact before.extends_record _ _

/-- The history recalls one more call. -/
theorem Recalls.call {transcript : Transcript} {request : Call}
    {before after : History} {reply : Reply request} (recalls : Recalls transcript before)
    (answered : cached request before reply after) :
    Recalls (⟨request, reply⟩ :: transcript) after := by
  have kept := recalls.mono (cached_extends answered)
  constructor
  · intro other value told objects
    rcases List.mem_cons.mp told with same | earlier
    · cases same
      rcases cached_cases answered with idle | ⟨-, api, given, -, replied, rfl, same⟩
      · rcases idle.value value rfl with file | ⟨reads, version, api, had, replied⟩
        · exact absurd file objects
        · have holds := serve_holds replied
          rw [serve_read api _ version reads] at holds
          exact ⟨version, idle.unchanged ▸ had, holds⟩
      · rw [same value rfl]
        exact ⟨_, Or.inl rfl, serve_holds replied⟩
    · exact kept.stored other value earlier objects
  · intro other value told writes
    rcases List.mem_cons.mp told with same | earlier
    · cases same
      rcases cached_cases answered with idle | ⟨-, api, given, -, -, rfl, -⟩
      · rcases idle.value value rfl with file | ⟨reads, -⟩
        · rw [writes] at file
          cases file
        · rw [writes] at reads
          cases reads
      · exact List.mem_cons_self
    · exact kept.logged other value earlier writes

/-- A Listener stays known. -/
theorem Known.mono {before after : History} {listener : Listener} (known : Known before listener)
    (extended : before.Extends after) : Known after listener := by
  obtain ⟨version, had, stored⟩ := known
  exact ⟨version, extended.versions version had, stored⟩

/-- A Listener of the current version is known. -/
theorem known_current {history : History} {key : ObjectKey} {listener : Listener}
    (stored : history.current.listeners.get key = some listener) : Known history listener :=
  ⟨_, history.has_current, by rw [history.current.listeners.keyed stored]; exact stored⟩

/-- A Listener is known after a served write if it is stored by it or was known. -/
theorem known_record {history : History} {request : Call} {next : Cluster} {listener : Listener} :
    Known (history.record request next) listener ↔
      next.listeners.get listener.metadata.key = some listener ∨ Known history listener := by
  simp [Known]

/-- A server of files on which every call succeeds. -/
def fileReply : (request : Call) → Reply request
  | .pathExists _ => .ok false
  | .mkdirAll _ | .mount _ | .unmount _ | .writeFile _ _ | .symlink _ _ | .removeAll _ => .ok ()
  | _ => .error (serverError .other "not a call on files")

/-- A server that answers from the current version and creates no Listener. -/
def prompt (uid : String) (request : Call) (history : History) : Reply request × History :=
  match request.kind with
  | .read => ((serve (.filling uid) request history.current).1, history)
  | .file => (fileReply request, history)
  | .write =>
    if request.part = some .listeners then
      (.error (serverError .other "not served"), history)
    else ((serve (.filling uid) request history.current).1, served (.filling uid) request history)

/-- The answers of that server are among the possible ones, and leave an identifier unused. -/
theorem cached_prompt {uid : String} (request : Call) (history : History)
    (fresh : Fresh history uid) :
    cached request history (prompt uid request history).1 (prompt uid request history).2 ∧
      Fresh (prompt uid request history).2 uid := by
  cases kind : request.kind with
  | read =>
    simp only [cached, prompt, kind]
    exact ⟨⟨trivial, Or.inr ⟨_, _, history.has_current, rfl⟩⟩, fresh⟩
  | file =>
    simp only [cached, prompt, kind]
    exact ⟨trivial, fresh⟩
  | write =>
    simp only [cached, prompt, kind]
    by_cases part : request.part = some .listeners
    · simp only [part, ↓reduceIte]
      exact ⟨Or.inl ⟨⟨_, rfl⟩, trivial⟩, fresh⟩
    · simp only [part, ↓reduceIte]
      refine ⟨Or.inr ⟨.filling uid, fresh, rfl, Or.inr rfl⟩, fresh.1, ?_⟩
      intro listener known
      refine fresh.2 listener ?_
      rw [served] at known
      split at known
      · rw [known_record, (serve_sameBut _ request history.current).listeners part] at known
        rcases known with stored | earlier
        · exact known_current stored
        · exact earlier
      · exact known

/-- A server that is not late and creates no Listener adds a version with the Listeners and classes
of the current one, or none. -/
theorem has_prompt {uid : String} {request : Call} {history : History} {version : Cluster}
    (had : (prompt uid request history).2.Has version) :
    history.Has version ∨ version.listeners = history.current.listeners ∧
      version.listenerClasses = history.current.listenerClasses := by
  cases kind : request.kind with
  | read =>
    simp only [prompt, kind] at had
    exact Or.inl had
  | file =>
    simp only [prompt, kind] at had
    exact Or.inl had
  | write =>
    simp only [prompt, kind] at had
    split at had
    · exact Or.inl had
    · rename_i part
      simp only [served] at had
      split at had
      · rcases (history.has_record request _ version).mp had with rfl | past
        · have same := serve_sameBut (.filling uid) request history.current
          exact Or.inr ⟨same.listeners part, same.others.1⟩
        · exact Or.inl past
      · exact Or.inl had

/-- A history of a cluster in which no Listener and no class was written, and an identifier that no
Listener has. -/
structure Undisturbed (start : Cluster) (uid : String) (history : History) : Prop where
  fresh : Fresh history uid
  listeners : ∀ version, history.Has version → version.listeners = start.listeners
  classes : ∀ version, history.Has version → version.listenerClasses = start.listenerClasses

/-- At first nothing was written. -/
theorem Undisturbed.start {start : Cluster} {uid : String} (canonical : Uuid.Canonical uid)
    (unused : ∀ key listener, start.listeners.get key = some listener →
      listener.metadata.uid ≠ uid) :
    Undisturbed start uid { current := start } := by
  have only : ∀ version, (⟨start, [], []⟩ : History).Has version → version = start := by
    rintro version (rfl | past)
    · rfl
    · cases past
  refine ⟨⟨canonical, ?_⟩, fun version had => by rw [only version had],
    fun version had => by rw [only version had]⟩
  rintro listener ⟨version, had, stored⟩
  rw [only version had] at stored
  exact unused _ listener stored

/-- The answers of that server leave it so. -/
theorem Undisturbed.prompt {start : Cluster} {uid : String} (request : Call) (history : History)
    (undisturbed : Undisturbed start uid history) :
    cached request history (prompt uid request history).1 (prompt uid request history).2 ∧
      Undisturbed start uid (ListenerOperator.prompt uid request history).2 := by
  obtain ⟨answered, fresh⟩ := cached_prompt request history undisturbed.fresh
  refine ⟨answered, fresh, ?_, ?_⟩
  · intro version had
    rcases has_prompt had with past | ⟨same, -⟩
    · exact undisturbed.listeners version past
    · exact same.trans (undisturbed.listeners _ history.has_current)
  · intro version had
    rcases has_prompt had with past | ⟨-, same⟩
    · exact undisturbed.classes version past
    · exact same.trans (undisturbed.classes _ history.has_current)

end ListenerOperator
