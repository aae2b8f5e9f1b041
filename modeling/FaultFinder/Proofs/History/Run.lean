import FaultFinder.Proofs.History.Replace
import Mathlib.Data.List.DropRight

/-!
# Runs of a history

A store is a history with its file.  It is called in any order, writing the
file may succeed or fail each time, and something else may change the file in
between.  A transcript holds what happened and how it was answered.  It
determines the sessions: they are the first ones of all that the transcript
asks to remember.
-/

namespace FaultFinder
namespace History

/-- What happens to a history or to its file. -/
inductive Event where
  /-- A session is to be recorded. -/
  | record (session : Session) (permission : Permission)
  /-- The sessions are to be removed. -/
  | clear (permission : Permission)
  /-- The newest sessions are asked for. -/
  | list (limit : Nat)
  /-- The session with an identifier is asked for. -/
  | get (id : Uuid)
  /-- Something else changes what the path of the file names. -/
  | edit (file : File)

/-- How an event is answered. -/
inductive Answer where
  /-- A session was recorded, or could not be. -/
  | recorded (outcome : Except StorageError Unit)
  /-- So many sessions were removed, or none could be. -/
  | cleared (outcome : Except StorageError Nat)
  /-- The newest sessions. -/
  | listed (sessions : List Session)
  /-- The session that was asked for, if there is one. -/
  | got (session : Option Session)
  /-- There is no answer. -/
  | silent

/-- A history and its file. -/
structure Store where
  /-- The history. -/
  history : History
  /-- What the path of the file names. -/
  file : File

namespace Store

/-- The sessions that are stored. -/
def sessions (store : Store) : List Session :=
  store.history.sessions

/-- The answer to an event, and the store after it. -/
def handle (store : Store) : Event → Answer × Store
  | .record session permission =>
      let update := store.history.record session store.file permission
      (.recorded update.answer, ⟨update.history, update.file⟩)
  | .clear permission =>
      let update := store.history.clear store.file permission
      (.cleared update.answer, ⟨update.history, update.file⟩)
  | .list limit => (.listed (store.history.newest limit), store)
  | .get id => (.got (store.history.find? id), store)
  | .edit file => (.silent, { store with file := file })

/-- The answer to an event. -/
def answer (store : Store) (event : Event) : Answer :=
  (store.handle event).1

/-- The store after an event. -/
def step (store : Store) (event : Event) : Store :=
  (store.handle event).2

/-- The store after some events. -/
def after (store : Store) (events : List Event) : Store :=
  events.foldl step store

/-- Some events and their answers. -/
def transcript (store : Store) : List Event → List (Event × Answer)
  | [] => []
  | event :: events => (event, store.answer event) :: (store.step event).transcript events

/-- A store is opened: without a file, or with one that lists the given sessions. -/
inductive Opened (capacity : Nat) : List Session → Store → Prop where
  /-- A store without a file is empty, whatever there is in the file system. -/
  | inMemory (file : File) : Opened capacity [] ⟨History.inMemory capacity, file⟩
  /-- A store with a file starts with the sessions that the file lists. -/
  | withFile
      {file : File}
      {loaded : List Session}
      {history : History}
      (isLoaded : load file = .ok loaded)
      (isOpened : openFile file capacity = .ok history) :
      Opened capacity loaded ⟨history, file⟩

/-- Writing succeeds, or is not needed. -/
def CanReplace (store : Store) (permission : Permission) : Prop :=
  store.history.CanReplace store.file permission

end Store

/-! ## What is to be remembered -/

/-- The session that was recorded with success. -/
def recorded? : Event × Answer → Option Session
  | (.record session _, .recorded (.ok ())) => some session
  | _ => none

/-- The sessions were removed with success. -/
def isCleared : Event × Answer → Bool
  | (_, .cleared (.ok _)) => true
  | _ => false

/--
The sessions that were recorded since they were last removed, the newest first;
those that were loaded follow if none were ever removed.
-/
def remembered (loaded : List Session) (transcript : List (Event × Answer)) : List Session :=
  ((transcript.rtakeWhile (!isCleared ·)).filterMap recorded?).reverse ++
    if transcript.any isCleared then [] else loaded

/-- What is to be remembered after one more event. -/
def remember (past : List Session) (entry : Event × Answer) : List Session :=
  if isCleared entry then [] else (recorded? entry).toList ++ past

theorem remember_of_neither
    {entry : Event × Answer}
    (notRecorded : recorded? entry = none)
    (notCleared : isCleared entry = false)
    (past : List Session) :
    remember past entry = past := by
  rw [remember, notCleared, notRecorded, if_neg Bool.false_ne_true]
  rfl

theorem remembered_concat
    (loaded : List Session)
    (transcript : List (Event × Answer))
    (last : Event × Answer) :
    remembered loaded (transcript ++ [last]) = remember (remembered loaded transcript) last := by
  cases cleared : isCleared last with
  | true =>
      have anyCleared : (transcript ++ [last]).any isCleared = true := by
        rw [List.any_append, List.any_cons, cleared, Bool.true_or, Bool.or_true]
      rw [remembered, remember, anyCleared, if_pos rfl, if_pos cleared, List.append_nil,
        List.rtakeWhile_concat_neg _ _ _ (by simp [cleared])]
      rfl
  | false =>
      have anyCleared : (transcript ++ [last]).any isCleared = transcript.any isCleared := by
        rw [List.any_append, List.any_cons, cleared, List.any_nil, Bool.false_or, Bool.or_false]
      rw [remembered, remembered, remember, anyCleared, cleared, if_neg Bool.false_ne_true,
        List.rtakeWhile_concat_pos _ _ _ (by simp [cleared]), List.filterMap_append,
        List.reverse_append, List.append_assoc]
      cases isRecorded : recorded? last with
      | none => simp [isRecorded]
      | some session => simp [isRecorded]

/-- What is to be remembered can be found out event by event. -/
theorem remembered_eq_foldl
    (loaded : List Session)
    (transcript : List (Event × Answer)) :
    remembered loaded transcript = transcript.foldl remember loaded := by
  induction transcript using List.reverseRecOn with
  | nil => rfl
  | append_singleton transcript last inductionHypothesis =>
      rw [remembered_concat, inductionHypothesis, List.foldl_append]
      rfl

theorem remembered_cons
    (loaded : List Session)
    (first : Event × Answer)
    (rest : List (Event × Answer)) :
    remembered loaded (first :: rest) = remembered (remember loaded first) rest := by
  simp only [remembered_eq_foldl, List.foldl_cons]

theorem take_remember_take
    (past : List Session)
    (entry : Event × Answer)
    (count : Nat) :
    (remember (past.take count) entry).take count = (remember past entry).take count := by
  cases cleared : isCleared entry with
  | true => simp [remember, cleared]
  | false =>
      cases isRecorded : recorded? entry with
      | none => simp [remember_of_neither isRecorded cleared, List.take_take]
      | some session =>
          cases count with
          | zero => simp
          | succ count => simp [remember, cleared, isRecorded, List.take_take]

/-! ## Steps -/

namespace Store

/-- The store whose sessions have been replaced. -/
def replaced (store : Store) (sessions : List Session) : Store :=
  { history := ofSessions sessions store.history.capacity store.history.hasFile
    file :=
      if store.history.hasFile then fileOf (sessions.take store.history.capacity) else store.file }

variable (store : Store)

theorem handle_record_of_canReplace
    {permission : Permission}
    (allowed : store.CanReplace permission)
    (session : Session) :
    store.handle (.record session permission) =
      (.recorded (.ok ()), store.replaced (session :: store.sessions)) := by
  have updated := replace_of_canReplace allowed (session :: store.history.sessions) ()
  simp only [handle, record, updated]
  rfl

theorem handle_record_of_not_canReplace
    {permission : Permission}
    (refused : ¬store.CanReplace permission)
    (session : Session) :
    ∃ cause, store.handle (.record session permission) = (.recorded (.error cause), store) := by
  obtain ⟨cause, updated⟩ :=
    replace_of_not_canReplace refused (session :: store.history.sessions) ()
  refine ⟨cause, ?_⟩
  simp only [handle, record, updated]

theorem handle_clear_of_canReplace
    {permission : Permission}
    (allowed : store.CanReplace permission) :
    store.handle (.clear permission) =
      (.cleared (.ok store.sessions.length), store.replaced []) := by
  have updated := replace_of_canReplace allowed [] store.history.size
  simp only [handle, clear, updated]
  rfl

theorem handle_clear_of_not_canReplace
    {permission : Permission}
    (refused : ¬store.CanReplace permission) :
    ∃ cause, store.handle (.clear permission) = (.cleared (.error cause), store) := by
  obtain ⟨cause, updated⟩ := replace_of_not_canReplace refused [] store.history.size
  refine ⟨cause, ?_⟩
  simp only [handle, clear, updated]

/--
An event that neither records nor removes sessions leaves the history as it is;
any other one replaces the sessions by what is to be remembered then.
-/
theorem step_cases (event : Event) :
    ((store.step event).history = store.history ∧
      ((store.step event).file = store.file ∨ ∃ file, event = .edit file) ∧
      recorded? (event, store.answer event) = none ∧
      isCleared (event, store.answer event) = false) ∨
    store.step event = store.replaced (remember store.sessions (event, store.answer event)) := by
  cases event with
  | record session permission =>
      by_cases allowed : store.CanReplace permission
      · right
        rw [step, answer, handle_record_of_canReplace store allowed]
        rfl
      · left
        obtain ⟨cause, handled⟩ := handle_record_of_not_canReplace store allowed session
        rw [step, answer, handled]
        exact ⟨rfl, .inl rfl, rfl, rfl⟩
  | clear permission =>
      by_cases allowed : store.CanReplace permission
      · right
        rw [step, answer, handle_clear_of_canReplace store allowed]
        rfl
      · left
        obtain ⟨cause, handled⟩ := handle_clear_of_not_canReplace store allowed
        rw [step, answer, handled]
        exact ⟨rfl, .inl rfl, rfl, rfl⟩
  | list limit => exact .inl ⟨rfl, .inl rfl, rfl, rfl⟩
  | get id => exact .inl ⟨rfl, .inl rfl, rfl, rfl⟩
  | edit file => exact .inl ⟨rfl, .inr ⟨file, rfl⟩, rfl, rfl⟩

theorem length_sessions_le : store.sessions.length ≤ store.history.capacity :=
  store.history.bounded

theorem take_sessions : store.sessions.take store.history.capacity = store.sessions :=
  List.take_of_length_le store.length_sessions_le

theorem capacity_step (event : Event) :
    (store.step event).history.capacity = store.history.capacity := by
  rcases store.step_cases event with ⟨unchanged, _, _⟩ | changed
  · rw [unchanged]
  · rw [changed]
    exact max_capacity store.history

theorem hasFile_step (event : Event) :
    (store.step event).history.hasFile = store.history.hasFile := by
  rcases store.step_cases event with ⟨unchanged, _, _⟩ | changed
  · rw [unchanged]
  · rw [changed]
    rfl

/-- After an event the first sessions that are remembered are stored. -/
theorem sessions_step (event : Event) :
    (store.step event).sessions =
      (remember store.sessions (event, store.answer event)).take store.history.capacity := by
  rcases store.step_cases event with ⟨unchanged, _, notRecorded, notCleared⟩ | changed
  · rw [remember_of_neither notRecorded notCleared, take_sessions, sessions, unchanged]
    rfl
  · rw [changed, sessions, replaced, sessions_ofSessions, max_capacity]

/-! ## Runs -/

theorem capacity_after (events : List Event) :
    (store.after events).history.capacity = store.history.capacity := by
  refine List.foldlRecOn (motive := fun later : Store =>
    later.history.capacity = store.history.capacity) events step rfl ?_
  intro later same event _
  rw [capacity_step, same]

/-- After some events the first sessions that are remembered are stored. -/
theorem sessions_after
    {loaded : List Session}
    (isLoaded : store.sessions = loaded.take store.history.capacity)
    (events : List Event) :
    (store.after events).sessions =
      (remembered loaded (store.transcript events)).take store.history.capacity := by
  -- After the first event the run goes on from what is remembered then, which need not be cut.
  induction events generalizing store loaded with
  | nil => simpa [remembered, after, transcript] using isLoaded
  | cons event events inductionHypothesis =>
      have stepped :
          (store.step event).sessions =
            (remember loaded (event, store.answer event)).take
              (store.step event).history.capacity := by
        rw [sessions_step, isLoaded, take_remember_take, capacity_step]
      have run := inductionHypothesis (store.step event) stepped
      rw [capacity_step] at run
      rw [transcript, remembered_cons, ← run]
      rfl

/-- What is remembered was remembered before, or it has been recorded. -/
theorem mem_remembered
    {past : List Session}
    {entries : List (Event × Answer)}
    {session : Session}
    (member : session ∈ remembered past entries) :
    session ∈ past ∨ ∃ entry ∈ entries, recorded? entry = some session := by
  rw [remembered, List.mem_append, List.mem_reverse, List.mem_filterMap] at member
  rcases member with ⟨entry, inSuffix, isRecorded⟩ | inPast
  · have inEntries : entry ∈ entries := (List.rtakeWhile_suffix _ _).subset inSuffix
    exact .inr ⟨entry, inEntries, isRecorded⟩
  · left
    split at inPast
    · cases inPast
    · exact inPast

theorem opened_spec
    {capacity : Nat}
    {loaded : List Session}
    {store : Store}
    (opened : Opened capacity loaded store) :
    store.history.capacity = max capacity 1 ∧ store.sessions = loaded.take (max capacity 1) := by
  cases opened with
  | inMemory file => exact ⟨rfl, rfl⟩
  | withFile isLoaded isOpened =>
      rw [openFile, isLoaded] at isOpened
      cases isOpened
      exact ⟨rfl, rfl⟩

/--
A store holds the first sessions of a past, it answers accordingly, and what it
holds later comes from these sessions and from what is recorded in between.
-/
structure Follows (kept : Nat) (past : List Session) (store : Store) : Prop where
  /-- The first sessions of the past are stored. -/
  stored : store.sessions = past.take kept
  /-- The capacity stays the same. -/
  capacity : store.history.capacity = kept
  /-- The size is the number of stored sessions. -/
  size : store.history.size = store.sessions.length
  /-- No more sessions are stored than there is room for. -/
  bounded : store.history.size ≤ store.history.capacity
  /-- The newest sessions are the first ones, as many as are asked for and stored. -/
  listed (limit : Nat) :
    store.answer (.list limit) =
      .listed (store.sessions.take (min limit store.sessions.length))
  /-- A session is found when it is the newest one with its identifier. -/
  found (id : Uuid) (session : Session) :
    store.answer (.get id) = .got (some session) ↔
      ∃ newer older, store.sessions = newer ++ session :: older ∧ session.id = id ∧
        ∀ other ∈ newer, other.id ≠ id
  /-- No session is found when none has the identifier. -/
  notFound (id : Uuid) :
    store.answer (.get id) = .got none ↔ ∀ session ∈ store.sessions, session.id ≠ id
  /-- Clearing tells how many sessions were stored, if the file can be written. -/
  cleared (permission : Permission) (allowed : store.CanReplace permission) :
    store.answer (.clear permission) = .cleared (.ok store.sessions.length)
  /-- Clearing fails if the file cannot be written. -/
  notCleared (permission : Permission) (refused : ¬store.CanReplace permission) :
    ∃ cause, store.answer (.clear permission) = .cleared (.error cause)
  /-- What is stored later follows from what is stored now. -/
  continues (later : List Event) :
    (store.after later).sessions =
      (remembered store.sessions (store.transcript later)).take kept
  /-- A session that is not stored now is not stored later unless it is recorded. -/
  forgotten (later : List Event) (session : Session) (absent : session ∉ store.sessions)
    (present : session ∈ (store.after later).sessions) :
    ∃ entry ∈ store.transcript later, recorded? entry = some session

theorem answer_get (id : Uuid) :
    store.answer (.get id) = .got (store.sessions.find? (·.id = id)) := rfl

theorem answer_get_eq_some_iff
    (id : Uuid)
    (session : Session) :
    store.answer (.get id) = .got (some session) ↔
      ∃ newer older, store.sessions = newer ++ session :: older ∧ session.id = id ∧
        ∀ other ∈ newer, other.id ≠ id := by
  rw [answer_get, Answer.got.injEq, List.find?_eq_some_iff_append]
  constructor
  · rintro ⟨same, newer, older, split, others⟩
    refine ⟨newer, older, split, of_decide_eq_true same, ?_⟩
    intro other member
    simpa using others other member
  · rintro ⟨newer, older, split, same, others⟩
    refine ⟨decide_eq_true same, newer, older, split, ?_⟩
    intro other member
    simpa using others other member

theorem answer_get_eq_none_iff (id : Uuid) :
    store.answer (.get id) = .got none ↔ ∀ session ∈ store.sessions, session.id ≠ id := by
  rw [answer_get, Answer.got.injEq, List.find?_eq_none]
  simp only [decide_eq_true_eq]

/-- A store that holds the first sessions of a past follows this past. -/
theorem follows_of_sessions_eq_take
    {kept : Nat}
    {past : List Session}
    (stored : store.sessions = past.take kept)
    (capacity : store.history.capacity = kept) :
    Follows kept past store := by
  have continues (later : List Event) :
      (store.after later).sessions =
        (remembered store.sessions (store.transcript later)).take kept := by
    rw [← capacity]
    exact sessions_after store store.take_sessions.symm later
  refine
    { stored
      capacity
      size := rfl
      bounded := store.history.bounded
      listed := ?listed
      found := answer_get_eq_some_iff store
      notFound := answer_get_eq_none_iff store
      cleared := ?cleared
      notCleared := ?notCleared
      continues
      forgotten := ?forgotten }
  case listed =>
      intro limit
      have trimmed :
          store.sessions.take (min limit store.sessions.length) = store.sessions.take limit := by
        rw [← List.take_take, List.take_length]
      rw [trimmed]
      rfl
  case cleared =>
      intro permission allowed
      rw [answer, handle_clear_of_canReplace store allowed]
  case notCleared =>
      intro permission refused
      obtain ⟨cause, handled⟩ := handle_clear_of_not_canReplace store refused
      exact ⟨cause, congrArg Prod.fst handled⟩
  case forgotten =>
      intro later session absent present
      rw [continues] at present
      exact (mem_remembered (List.mem_of_mem_take present)).resolve_left absent

/--
At every point of every run, the store follows the sessions that were recorded
since they were last removed and those that were loaded.
-/
theorem after_follows_remembered
    {capacity : Nat}
    {loaded : List Session}
    {store : Store}
    (opened : Opened capacity loaded store)
    (events : List Event) :
    Follows (max capacity 1) (remembered loaded (store.transcript events))
      (store.after events) := by
  obtain ⟨sameCapacity, isLoaded⟩ := opened_spec opened
  have run := sessions_after store (sameCapacity ▸ isLoaded) events
  have kept := (store.capacity_after events).trans sameCapacity
  rw [sameCapacity] at run
  exact follows_of_sessions_eq_take (store.after events) run kept

/-- A session in which one symptom was reported. -/
def reported (symptom : String) : Session :=
  { id := ⟨.replicate 32 ⟨0, by decide⟩⟩
    timestamp := ⟨⟨2024, 2, 29, by decide⟩, 0, 0, by decide⟩
    observedSymptoms := [symptom]
    findings := [] }

/-- A listed session gives way to one that is recorded; failing calls change nothing. -/
theorem after_follows_remembered_reported :
    ∃ store, Opened 2 [reported "a", reported "b", reported "c"] store ∧
      (store.after
        [ .record (reported "d") .refused, .record (reported "e") .granted, .edit .directory,
          .clear .granted, .list 1 ]).sessions =
        [reported "e", reported "a"] := by
  have fit : ∀ session ∈ [reported "a", reported "b", reported "c"], session.CountsFit := by
    decide
  have isLoaded := load_fileOf fit
  have isOpened :
      openFile (fileOf [reported "a", reported "b", reported "c"]) 2 =
        .ok (ofSessions [reported "a", reported "b", reported "c"] 2 true) := by
    rw [openFile, isLoaded]
    rfl
  have opened := Opened.withFile isLoaded isOpened
  refine ⟨_, opened, ?_⟩
  exact (after_follows_remembered opened _).stored.trans rfl

end Store

end History
end FaultFinder
