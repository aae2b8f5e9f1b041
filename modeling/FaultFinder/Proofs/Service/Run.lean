import FaultFinder.Proofs.History.Run
import FaultFinder.Proofs.Service.Diagnosis

/-!
# Runs of the service

A server is the service with its history file.  It is called with one request
after the other.  An accepted request for a diagnosis asks the history to record
the session, a request to remove the history asks it to be cleared, and no other
request touches it.  So the history of a server goes through the run that the
calls ask for, and what is stored follows from what has been saved and removed.
-/

namespace FaultFinder

/-! ## Routes with a fixed path -/

namespace Service.Route

/-- A path that names anything but a session is the fixed path of its route. -/
theorem mem_fixed_or_session_of_ofPath?
    {path : List Char}
    {route : Route}
    (isRoute : ofPath? path = some route) :
    (∃ known, (known, route) ∈ fixed ∧ path = known.toList) ∨ ∃ id, route = .session id := by
  unfold ofPath? at isRoute
  split at isRoute
  · next known named found =>
      cases isRoute
      refine .inl ⟨known, List.mem_of_find?_eq_some found, ?_⟩
      have same := List.find?_some found
      exact (of_decide_eq_true same).symm
  · right
    unfold ofSessionPath? at isRoute
    simp only at isRoute
    split at isRoute
    · cases isRoute
      exact ⟨_, rfl⟩
    · cases isRoute

theorem path_eq_of_ofPath?_diagnosis
    {path : List Char}
    (isRoute : ofPath? path = some .diagnosis) :
    path = "/api/v1/diagnose".toList := by
  rcases mem_fixed_or_session_of_ofPath? isRoute with ⟨known, member, rfl⟩ | ⟨id, absurdity⟩
  · simp only [fixed, List.mem_cons, Prod.mk.injEq, reduceCtorEq, and_false, and_true,
      List.not_mem_nil, or_false, false_or] at member
    rw [member]
  · cases absurdity

theorem path_eq_of_ofPath?_history
    {path : List Char}
    (isRoute : ofPath? path = some .history) :
    path = historyPath.toList := by
  rcases mem_fixed_or_session_of_ofPath? isRoute with ⟨known, member, rfl⟩ | ⟨id, absurdity⟩
  · simp only [fixed, List.mem_cons, Prod.mk.injEq, reduceCtorEq, and_false, and_true,
      List.not_mem_nil, or_false, false_or] at member
    rw [member]
  · cases absurdity

theorem ofPath?_historyPath : ofPath? historyPath.toList = some .history := by
  decide

end Service.Route

instance File.decidableIsWritable :
    (file : File) → (permission : Permission) → Decidable (file.IsWritable permission)
  | .missing, .granted => isTrue trivial
  | .content _, .granted => isTrue trivial
  | .unreachable, .granted => isFalse id
  | .directory, .granted => isFalse id
  | .missing, .refused => isFalse id
  | .unreachable, .refused => isFalse id
  | .directory, .refused => isFalse id
  | .content _, .refused => isFalse id

namespace Service

/-! ## Calls -/

/-- A request and what it meets with. -/
structure Call where
  /-- The request. -/
  request : Request
  /-- What the service does not decide itself. -/
  circumstances : Circumstances

namespace Call

/-- The request is one for a diagnosis. -/
def IsPost (call : Call) : Prop :=
  call.request.method = .post ∧ call.request.path = "/api/v1/diagnose".toList

instance (call : Call) : Decidable call.IsPost :=
  inferInstanceAs (Decidable (_ ∧ _))

/-- The request is one to remove all sessions. -/
def IsRemoval (call : Call) : Prop :=
  call.request.method = .delete ∧ call.request.path = Route.historyPath.toList

instance (call : Call) : Decidable call.IsRemoval :=
  inferInstanceAs (Decidable (_ ∧ _))

/-- The session that an accepted request for a diagnosis makes. -/
def posted? (engine : Engine) (call : Call) : Option Session :=
  if call.IsPost then
    match submittedSymptoms call.request with
    | .ok symptoms => some (sessionOf engine symptoms call.circumstances)
    | .error _ => none
  else none

end Call

/-- The service with its history file. -/
structure Server where
  /-- The service. -/
  service : Service
  /-- What the path of the history file names. -/
  file : File

namespace Server

/-- The history with its file. -/
def store (server : Server) : History.Store :=
  ⟨server.service.history, server.file⟩

/-- The stored sessions. -/
def sessions (server : Server) : List Session :=
  server.service.history.sessions

/-- What a call leads to. -/
def exchange (server : Server) (call : Call) : Exchange :=
  server.service.handle call.request call.circumstances server.file

/-- The answer to a call. -/
def reply (server : Server) (call : Call) : Reply :=
  (server.exchange call).reply

/-- The server after a call. -/
def step (server : Server) (call : Call) : Server :=
  ⟨(server.exchange call).service, (server.exchange call).file⟩

/-- The server after some calls. -/
def after (server : Server) (calls : List Call) : Server :=
  calls.foldl step server

/-- The history can be changed: it has no file, or the file can be written. -/
def CanWrite (server : Server) (call : Call) : Prop :=
  server.store.CanReplace call.circumstances.permission

instance (server : Server) (call : Call) : Decidable (server.CanWrite call) :=
  inferInstanceAs (Decidable (_ → _))

variable
    (server : Server)
    {call : Call}

/-! ## One call -/

theorem exchange_of_posted?
    {session : Session}
    (posted : call.posted? server.service.engine = some session) :
    ∃ symptoms,
      submittedSymptoms call.request = .ok symptoms ∧
        session = sessionOf server.service.engine symptoms call.circumstances ∧
        server.exchange call =
          server.service.diagnose symptoms call.circumstances server.file := by
  unfold Call.posted? at posted
  split at posted
  · next isPost =>
      have handled :=
        handle_diagnosis server.service isPost.1 isPost.2 call.circumstances server.file
      split at posted
      · next symptoms submitted =>
          cases posted
          rw [submitted] at handled
          exact ⟨symptoms, submitted, rfl, handled⟩
      · cases posted
  · cases posted

theorem exchange_of_isRemoval
    (isRemoval : call.IsRemoval) :
    server.exchange call = server.service.clearHistory call.circumstances server.file := by
  have isRoute : Route.ofPath? call.request.path = some .history := by
    rw [isRemoval.2]
    exact Route.ofPath?_historyPath
  rw [exchange, handle, isRoute]
  simp only [isRemoval.1, Route.allows, Bool.not_true, Bool.false_eq_true, if_false]

/-- Only accepted requests for a diagnosis and requests for removal get beyond reading. -/
theorem step_of_posted?_eq_none
    (notPosted : call.posted? server.service.engine = none)
    (notRemoval : ¬call.IsRemoval) :
    server.step call = server := by
  have unchanged :
      (server.exchange call).service = server.service ∧
        (server.exchange call).file = server.file := by
    unfold exchange handle
    split
    · exact ⟨rfl, rfl⟩
    · next route isRoute =>
        split
        · exact ⟨rfl, rfl⟩
        · next allowed =>
            split
            · next isPost =>
                have isDiagnosis : route = .diagnosis := by
                  cases route <;> simp [isPost, Route.allows] at allowed ⊢
                have isPath := Route.path_eq_of_ofPath?_diagnosis (isDiagnosis ▸ isRoute)
                rw [Call.posted?, if_pos ⟨isPost, isPath⟩] at notPosted
                split
                · exact ⟨rfl, rfl⟩
                · next symptoms submitted =>
                    rw [submitted] at notPosted
                    cases notPosted
            · next isDelete =>
                have isHistory : route = .history := by
                  cases route <;> simp [isDelete, Route.allows] at allowed ⊢
                have isPath := Route.path_eq_of_ofPath?_history (isHistory ▸ isRoute)
                exact absurd ⟨isDelete, isPath⟩ notRemoval
            · exact ⟨rfl, rfl⟩
            · exact ⟨rfl, rfl⟩
  rw [step, unchanged.1, unchanged.2]

/--
A call records the session that it makes, or it removes the sessions, or it
changes nothing; recording and removing leave the engine as it is.
-/
theorem step_cases (call : Call) :
    (∃ session,
      call.posted? server.service.engine = some session ∧
        (server.step call).service.engine = server.service.engine ∧
        (server.step call).store =
          server.store.step (.record session call.circumstances.permission)) ∨
    (call.IsRemoval ∧
      call.posted? server.service.engine = none ∧
        (server.step call).service.engine = server.service.engine ∧
        (server.step call).store =
          server.store.step (.clear call.circumstances.permission)) ∨
    (call.posted? server.service.engine = none ∧ ¬call.IsRemoval ∧ server.step call = server) := by
  cases posted : call.posted? server.service.engine with
  | some session =>
      obtain ⟨symptoms, _, rfl, exchanged⟩ := server.exchange_of_posted? posted
      refine .inl ⟨_, rfl, ?_⟩
      rw [step, exchanged]
      exact ⟨rfl, rfl⟩
  | none =>
      right
      by_cases isRemoval : call.IsRemoval
      · refine .inl ⟨isRemoval, rfl, ?_⟩
        rw [step, server.exchange_of_isRemoval isRemoval]
        exact ⟨rfl, rfl⟩
      · exact .inr ⟨rfl, isRemoval, server.step_of_posted?_eq_none posted isRemoval⟩

theorem engine_step (call : Call) :
    (server.step call).service.engine = server.service.engine := by
  rcases server.step_cases call with ⟨_, _, same, _⟩ | ⟨_, _, same, _⟩ | ⟨_, _, unchanged⟩
  · exact same
  · exact same
  · rw [unchanged]

/-- A call asks the history for one thing at most. -/
theorem store_step (call : Call) :
    (∃ event, (server.step call).store = server.store.step event) ∨
      (server.step call).store = server.store := by
  rcases server.step_cases call with
    ⟨_, _, _, stepped⟩ | ⟨_, _, _, stepped⟩ | ⟨_, _, unchanged⟩
  · exact .inl ⟨_, stepped⟩
  · exact .inl ⟨_, stepped⟩
  · exact .inr (congrArg store unchanged)

theorem capacity_step (call : Call) :
    (server.step call).service.history.capacity = server.service.history.capacity := by
  change (server.step call).store.history.capacity = server.store.history.capacity
  rcases server.store_step call with ⟨event, stepped⟩ | unchanged
  · rw [stepped, History.Store.capacity_step]
  · rw [unchanged]

theorem hasFile_step (call : Call) :
    (server.step call).service.history.hasFile = server.service.history.hasFile := by
  change (server.step call).store.history.hasFile = server.store.history.hasFile
  rcases server.store_step call with ⟨event, stepped⟩ | unchanged
  · rw [stepped, History.Store.hasFile_step]
  · rw [unchanged]

/-- The session that a call makes and records. -/
def saved? (server : Server) (call : Call) : Option Session :=
  if server.CanWrite call then call.posted? server.service.engine else none

/-- The call removes all sessions. -/
def Removes (server : Server) (call : Call) : Prop :=
  call.IsRemoval ∧ server.CanWrite call

instance (server : Server) (call : Call) : Decidable (server.Removes call) :=
  inferInstanceAs (Decidable (_ ∧ _))

theorem not_isRemoval_of_posted?
    {engine : Engine}
    {session : Session}
    (posted : call.posted? engine = some session) :
    ¬call.IsRemoval := by
  rintro ⟨isDelete, _⟩
  unfold Call.posted? at posted
  split at posted
  · next isPost =>
      rw [isPost.1] at isDelete
      cases isDelete
  · cases posted

theorem saved?_eq_none_of_removes
    (removes : server.Removes call) :
    server.saved? call = none := by
  cases posted : call.posted? server.service.engine with
  | none => rw [saved?, posted, ite_self]
  | some session => exact absurd removes.1 (not_isRemoval_of_posted? posted)

/-- A call adds the session that it saves to those that are remembered, or removes them all. -/
def remember (server : Server) (past : List Session) (call : Call) : List Session :=
  if server.Removes call then [] else (server.saved? call).toList ++ past

/-- After a call the first sessions that are remembered are stored. -/
theorem sessions_step
    {past : List Session}
    (isPast : server.sessions = past.take server.service.history.capacity)
    (call : Call) :
    (server.step call).sessions =
      (server.remember past call).take server.service.history.capacity := by
  have asked (event : History.Event) :
      (server.store.step event).sessions =
        (History.remember past (event, server.store.answer event)).take
          server.service.history.capacity := by
    rw [History.Store.sessions_step]
    change (History.remember server.sessions _).take _ = _
    rw [isPast]
    exact History.take_remember_take _ _ _
  rcases server.step_cases call with
    ⟨session, posted, _, stepped⟩ | ⟨isRemoval, _, _, stepped⟩ | ⟨notPosted, notRemoval, unchanged⟩
  · have notRemoves : ¬server.Removes call := fun removes =>
      not_isRemoval_of_posted? posted removes.1
    change (server.step call).store.sessions = _
    rw [stepped, asked, remember, if_neg notRemoves, saved?, posted]
    by_cases allowed : server.CanWrite call
    · rw [if_pos allowed, History.Store.answer,
        History.Store.handle_record_of_canReplace _ allowed]
      rfl
    · obtain ⟨cause, handled⟩ := History.Store.handle_record_of_not_canReplace _ allowed session
      rw [if_neg allowed, History.Store.answer, handled]
      rfl
  · change (server.step call).store.sessions = _
    rw [stepped, asked, remember]
    by_cases allowed : server.CanWrite call
    · rw [if_pos ⟨isRemoval, allowed⟩, History.Store.answer,
        History.Store.handle_clear_of_canReplace _ allowed]
      rfl
    · have notRemoves : ¬server.Removes call := fun removes => allowed removes.2
      obtain ⟨cause, handled⟩ := History.Store.handle_clear_of_not_canReplace _ allowed
      rw [if_neg notRemoves, saved?, if_neg allowed, History.Store.answer, handled]
      rfl
  · have notRemoves : ¬server.Removes call := fun removes => notRemoval removes.1
    rw [unchanged, remember, if_neg notRemoves, saved?, notPosted, ite_self, isPast]
    rfl

/-! ## Runs -/

theorem engine_after (calls : List Call) :
    (server.after calls).service.engine = server.service.engine := by
  refine List.foldlRecOn (motive := fun later : Server =>
    later.service.engine = server.service.engine) calls step rfl ?_
  intro later same call _
  rw [engine_step, same]

theorem capacity_after (calls : List Call) :
    (server.after calls).service.history.capacity = server.service.history.capacity := by
  refine List.foldlRecOn (motive := fun later : Server =>
    later.service.history.capacity = server.service.history.capacity) calls step rfl ?_
  intro later same call _
  rw [capacity_step, same]

/-- The sessions of the accepted requests for a diagnosis, in the order of the requests. -/
def posted (server : Server) (calls : List Call) : List Session :=
  calls.filterMap (Call.posted? server.service.engine)

/-- The sessions that calls make and record, in the order of the calls. -/
def saved (server : Server) : List Call → List Session
  | [] => []
  | call :: calls => (server.saved? call).toList ++ (server.step call).saved calls

/-- One of the calls removes all sessions. -/
def Removed (server : Server) : List Call → Prop
  | [] => False
  | call :: calls => server.Removes call ∨ (server.step call).Removed calls

instance decidableRemoved (server : Server) : (calls : List Call) → Decidable (server.Removed calls)
  | [] => inferInstanceAs (Decidable False)
  | call :: calls =>
      have := decidableRemoved (server.step call) calls
      inferInstanceAs (Decidable (_ ∨ _))

/-- The sessions that were recorded since all were last removed, the newest first. -/
def kept (server : Server) : List Call → List Session
  | [] => []
  | call :: calls =>
      (server.step call).kept calls ++
        if (server.step call).Removed calls then [] else (server.saved? call).toList

/-- After some calls the first sessions that were kept, or loaded and never removed, are stored. -/
theorem sessions_after
    {loaded : List Session}
    (isLoaded : server.sessions = loaded.take server.service.history.capacity)
    (calls : List Call) :
    (server.after calls).sessions =
      (server.kept calls ++ if server.Removed calls then [] else loaded).take
        server.service.history.capacity := by
  -- The run goes on from what is remembered after its first call.
  induction calls generalizing server loaded with
  | nil =>
      change server.sessions = _
      simpa [kept, Removed] using isLoaded
  | cons call calls inductionHypothesis =>
      have stepped := server.sessions_step isLoaded call
      rw [← server.capacity_step call] at stepped
      have run := inductionHypothesis (server.step call) stepped
      rw [capacity_step] at run
      change ((server.step call).after calls).sessions = _
      rw [run, kept, remember, List.append_assoc]
      by_cases later : (server.step call).Removed calls
      · simp [Removed, later]
      · by_cases now : server.Removes call
        · have notSaved : server.saved? call = none := server.saved?_eq_none_of_removes now
          simp [Removed, later, now, notSaved]
        · simp [Removed, later, now]

end Server
end Service
end FaultFinder
