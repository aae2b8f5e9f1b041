import FaultFinder.Proofs.History.Run

/-!
# The file of a history

As long as nothing else changes the file, its first sessions are those that are
stored, so a history that is opened with this file starts with the same
sessions.  Whatever the file was before, it lists the stored sessions after
every call that records a session or removes all of them.
-/

namespace FaultFinder
namespace History

theorem countsFit_of_load
    {file : File}
    {sessions : List Session}
    (isLoaded : load file = .ok sessions) :
    ∀ session ∈ sessions, session.CountsFit := by
  cases file with
  | missing =>
      cases isLoaded
      intro session member
      cases member
  | unreachable => cases isLoaded
  | directory => cases isLoaded
  | content bytes =>
      rw [load] at isLoaded
      split at isLoaded
      · next listed isRead =>
          cases isLoaded
          exact Session.countsFit_of_readList isRead
      · cases isLoaded

theorem openFile_of_load
    {file : File}
    {loaded : List Session}
    (isLoaded : load file = .ok loaded)
    (capacity : Nat) :
    openFile file capacity = .ok (ofSessions loaded capacity true) := by
  rw [openFile, isLoaded]
  rfl

theorem exists_load_of_openFile
    {file : File}
    {capacity : Nat}
    {history : History}
    (isOpened : openFile file capacity = .ok history) :
    ∃ loaded, load file = .ok loaded ∧ history = ofSessions loaded capacity true := by
  cases isLoaded : load file with
  | error cause =>
      rw [openFile, isLoaded] at isOpened
      cases isOpened
  | ok loaded =>
      rw [openFile_of_load isLoaded] at isOpened
      cases isOpened
      exact ⟨loaded, rfl, rfl⟩

/-- A history is determined by its sessions, its capacity and whether it has a file. -/
theorem ofSessions_eq
    {history : History}
    {sessions : List Session}
    {capacity : Nat}
    {hasFile : Bool}
    (sameSessions : sessions.take (max capacity 1) = history.sessions)
    (sameCapacity : max capacity 1 = history.capacity)
    (sameFile : hasFile = history.hasFile) :
    ofSessions sessions capacity hasFile = history := by
  obtain ⟨stored, kept, mirrored, positive, bounded⟩ := history
  simp only at sameSessions sameCapacity sameFile
  subst sameSessions sameCapacity sameFile
  rfl

/-- The counts in a session that is to be recorded have sixty-four bits. -/
def Event.CountsFit : Event → Prop
  | .record session _ => session.CountsFit
  | _ => True

/-- The event is a call, not a change of the file by something else. -/
def Event.IsCall : Event → Prop
  | .edit _ => False
  | _ => True

/-- A session was recorded, or all sessions were removed. -/
def Replaces (entry : Event × Answer) : Prop :=
  (recorded? entry).isSome = true ∨ isCleared entry = true

theorem countsFit_of_recorded?
    {event : Event}
    (fits : event.CountsFit)
    {answer : Answer}
    {session : Session}
    (isRecorded : recorded? (event, answer) = some session) :
    session.CountsFit := by
  unfold recorded? at isRecorded
  split at isRecorded
  · next same =>
      cases same
      cases isRecorded
      exact fits
  · cases isRecorded

theorem countsFit_of_mem_remember
    {past : List Session}
    (fit : ∀ session ∈ past, session.CountsFit)
    {event : Event}
    (fits : event.CountsFit)
    (answer : Answer) :
    ∀ session ∈ remember past (event, answer), session.CountsFit := by
  intro session member
  unfold remember at member
  split at member
  · cases member
  · rcases List.mem_append.1 member with isRecorded | inPast
    · exact countsFit_of_recorded? fits (Option.mem_toList.1 isRecorded)
    · exact fit session inPast

namespace Store

/-- The sessions are stored with a file, and their counts have sixty-four bits. -/
structure IsListable (store : Store) : Prop where
  /-- The history has a file. -/
  hasFile : store.history.hasFile = true
  /-- The sessions can be written to it. -/
  fit : ∀ session ∈ store.sessions, session.CountsFit

/-- The first sessions that the file lists are stored. -/
structure IsMirrored (store : Store) : Prop extends IsListable store where
  /-- The file lists the stored sessions first. -/
  listed :
    (load store.file).map (·.take store.history.capacity) = .ok store.sessions

variable {store : Store}

theorem isListable_step
    (listable : store.IsListable)
    {event : Event}
    (fits : event.CountsFit) :
    (store.step event).IsListable := by
  refine ⟨(store.hasFile_step event).trans listable.hasFile, ?_⟩
  intro session member
  rw [sessions_step] at member
  exact countsFit_of_mem_remember listable.fit fits _ session (List.mem_of_mem_take member)

/-- The file of a store whose sessions were replaced lists them. -/
theorem load_replaced
    (hasFile : store.history.hasFile = true)
    {sessions : List Session}
    (fit : ∀ session ∈ sessions, session.CountsFit) :
    load (store.replaced sessions).file = .ok (store.replaced sessions).sessions := by
  have kept : (store.replaced sessions).sessions = sessions.take store.history.capacity := by
    rw [Store.sessions, replaced, sessions_ofSessions, max_capacity]
  have fitKept : ∀ session ∈ sessions.take store.history.capacity, session.CountsFit := by
    intro session member
    exact fit session (List.mem_of_mem_take member)
  rw [kept, replaced, if_pos hasFile]
  exact load_fileOf fitKept

/-- A call that records or removes sessions leaves a file that lists the stored ones. -/
theorem load_step_of_replaces
    (listable : store.IsListable)
    {event : Event}
    (fits : event.CountsFit)
    (succeeded : Replaces (event, store.answer event)) :
    load (store.step event).file = .ok (store.step event).sessions := by
  rcases store.step_cases event with ⟨_, _, notRecorded, notCleared⟩ | changed
  · rw [Replaces, notRecorded, notCleared] at succeeded
    rcases succeeded with recorded | cleared
    · cases recorded
    · cases cleared
  · rw [changed]
    exact load_replaced listable.hasFile (countsFit_of_mem_remember listable.fit fits _)

theorem isMirrored_step
    (mirrored : store.IsMirrored)
    {event : Event}
    (fits : event.CountsFit)
    (call : event.IsCall) :
    (store.step event).IsMirrored := by
  refine ⟨isListable_step mirrored.toIsListable fits, ?_⟩
  rcases store.step_cases event with ⟨sameHistory, sameFile | edited, _, _⟩ | changed
  · rw [sessions, sameHistory, sameFile]
    exact mirrored.listed
  · obtain ⟨file, rfl⟩ := edited
    exact call.elim
  · have isLoaded := load_replaced mirrored.hasFile
      (countsFit_of_mem_remember mirrored.fit fits (store.answer event))
    rw [← changed] at isLoaded
    rw [isLoaded]
    apply congrArg Except.ok
    exact take_sessions _

theorem isListable_of_openFile
    {file : File}
    {capacity : Nat}
    {history : History}
    (isOpened : openFile file capacity = .ok history) :
    IsListable ⟨history, file⟩ := by
  obtain ⟨loaded, isLoaded, rfl⟩ := exists_load_of_openFile isOpened
  refine ⟨rfl, ?_⟩
  intro session member
  exact countsFit_of_load isLoaded session (List.mem_of_mem_take member)

theorem isMirrored_of_openFile
    {file : File}
    {capacity : Nat}
    {history : History}
    (isOpened : openFile file capacity = .ok history) :
    IsMirrored ⟨history, file⟩ := by
  refine ⟨isListable_of_openFile isOpened, ?_⟩
  obtain ⟨loaded, isLoaded, rfl⟩ := exists_load_of_openFile isOpened
  rw [isLoaded]
  rfl

theorem isListable_after
    (listable : store.IsListable)
    {events : List Event}
    (fit : ∀ event ∈ events, event.CountsFit) :
    (store.after events).IsListable := by
  apply List.foldlRecOn events step listable
  intro later listableLater event member
  exact isListable_step listableLater (fit event member)

theorem isMirrored_after
    (mirrored : store.IsMirrored)
    {events : List Event}
    (fit : ∀ event ∈ events, event.CountsFit)
    (calls : ∀ event ∈ events, event.IsCall) :
    (store.after events).IsMirrored := by
  apply List.foldlRecOn events step mirrored
  intro later mirroredLater event member
  exact isMirrored_step mirroredLater (fit event member) (calls event member)

/-- What is read from the file of a store agrees with what the store holds. -/
structure ReadsBack (capacity : Nat) (store : Store) : Prop where
  /-- The file lists the stored sessions first. -/
  listed : (load store.file).map (·.take (max capacity 1)) = .ok store.sessions
  /-- Opening the file again gives the same history. -/
  reopened : openFile store.file capacity = .ok store.history
  /-- Opening the file with less room gives the first of the stored sessions. -/
  shrunk (smaller : Nat) (fewer : smaller ≤ capacity) :
    (openFile store.file smaller).map (·.sessions) =
      .ok (store.sessions.take (max smaller 1))

theorem readsBack_of_isMirrored
    {capacity : Nat}
    (mirrored : store.IsMirrored)
    (sameCapacity : store.history.capacity = max capacity 1) :
    ReadsBack capacity store := by
  have listed := mirrored.listed
  rw [sameCapacity] at listed
  cases isLoaded : load store.file with
  | error cause =>
      rw [isLoaded] at listed
      cases listed
  | ok loaded =>
      have stored : loaded.take (max capacity 1) = store.sessions := by
        rw [isLoaded] at listed
        exact Except.ok.inj listed
      refine { listed, reopened := ?reopened, shrunk := ?shrunk }
      case reopened =>
          rw [openFile_of_load isLoaded]
          apply congrArg Except.ok
          exact ofSessions_eq stored sameCapacity.symm mirrored.hasFile.symm
      case shrunk =>
          intro smaller fewer
          have fewerKept : min (max smaller 1) (max capacity 1) = max smaller 1 := by omega
          rw [openFile_of_load isLoaded, ← stored, List.take_take, fewerKept]
          rfl

/--
Reading the file of a history gives the stored sessions at every point of every
run of calls.  After any other run, it does so after every call that records a
session or removes all of them.
-/
theorem file_agrees_after
    {file : File}
    {capacity : Nat}
    {history : History}
    (isOpened : openFile file capacity = .ok history)
    {events : List Event}
    (fit : ∀ event ∈ events, event.CountsFit) :
    ((∀ event ∈ events, event.IsCall) →
      ReadsBack capacity (after ⟨history, file⟩ events)) ∧
    ∀ event, event.CountsFit →
      Replaces (event, (after ⟨history, file⟩ events).answer event) →
        load ((after ⟨history, file⟩ events).step event).file =
          .ok ((after ⟨history, file⟩ events).step event).sessions := by
  constructor
  · intro calls
    have mirrored := isMirrored_after (isMirrored_of_openFile isOpened) fit calls
    obtain ⟨loaded, _, rfl⟩ := exists_load_of_openFile isOpened
    exact readsBack_of_isMirrored mirrored (capacity_after _ events)
  · intro event fits succeeded
    have listable := isListable_after (isListable_of_openFile isOpened) fit
    exact load_step_of_replaces listable fits succeeded

/-- A trimmed file, a refused write and a new session; then the file is lost and made again. -/
theorem file_agrees_after_reported :
    ∃ history, openFile (fileOf [reported "a", reported "b"]) 0 = .ok history ∧
      ReadsBack 0
        (after ⟨history, fileOf [reported "a", reported "b"]⟩
          [.record Session.extreme .refused, .list 3, .record Session.extreme .granted]) ∧
      load
        ((after ⟨history, fileOf [reported "a", reported "b"]⟩ [.edit .missing]).step
          (.record Session.extreme .granted)).file = .ok [Session.extreme] := by
  have fit : ∀ session ∈ [reported "a", reported "b"], session.CountsFit := by decide
  have fits : Session.extreme.CountsFit := by decide
  have isOpened := openFile_of_load (load_fileOf fit) 0
  refine ⟨_, isOpened, ?calls, ?edited⟩
  case calls =>
      refine (file_agrees_after isOpened ?_).1 ?_
      · simpa [Event.CountsFit] using fits
      · simp [Event.IsCall]
  case edited =>
      refine (file_agrees_after isOpened ?_).2 (.record Session.extreme .granted) fits (.inl rfl)
      simp [Event.CountsFit]

end Store

end History
end FaultFinder
