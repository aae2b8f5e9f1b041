import FaultFinder.Proofs.Startup

/-!
# Failing calls of a history

A call that records or removes sessions fails exactly when the history has a
file that cannot be written, and then it changes neither history nor file.  So
the runs with and without failing calls end with the same history and the same
file, and all other calls are answered in the same way.

Opening the file of a history fails as well when it cannot be used.  Whether it
fails or not, what there is in the file system stays.
-/

namespace FaultFinder
namespace History

/-- The answer tells that a call failed. -/
def Answer.isFailure : Answer → Bool
  | .recorded (.error _) => true
  | .cleared (.error _) => true
  | _ => false

namespace Store

/-- The events of a run without the calls that fail in it. -/
def withoutFailures (store : Store) (events : List Event) : List Event :=
  ((store.transcript events).filter (!·.2.isFailure)).map (·.1)

/-! ## A call -/

section Calls

variable
    {store : Store}

theorem not_canReplace_iff
    {permission : Permission}
    (text : String) :
    ¬store.CanReplace permission ↔
      store.history.hasFile = true ∧ store.file.write? permission text = none := by
  rw [CanReplace, History.CanReplace, Classical.not_imp]
  apply and_congr_right
  intro _
  constructor
  · intro notWritable
    exact File.write?_of_not_isWritable notWritable text
  · intro refused writable
    rw [File.write?_of_isWritable writable] at refused
    cases refused

/-- A call that fails leaves the history and the file as they are. -/
theorem step_of_isFailure
    {event : Event}
    (failed : (store.answer event).isFailure = true) :
    store.step event = store := by
  cases event with
  | record session permission =>
      by_cases allowed : store.CanReplace permission
      · rw [answer, handle_record_of_canReplace store allowed] at failed
        cases failed
      · obtain ⟨cause, handled⟩ := handle_record_of_not_canReplace store allowed session
        exact congrArg Prod.snd handled
  | clear permission =>
      by_cases allowed : store.CanReplace permission
      · rw [answer, handle_clear_of_canReplace store allowed] at failed
        cases failed
      · obtain ⟨cause, handled⟩ := handle_clear_of_not_canReplace store allowed
        exact congrArg Prod.snd handled
  | list limit => cases failed
  | get id => cases failed
  | edit file => cases failed

/-- Without a file no call fails. -/
theorem isFailure_of_not_hasFile
    (noFile : store.history.hasFile = false)
    (event : Event) :
    (store.answer event).isFailure = false := by
  have allowed (permission : Permission) : store.CanReplace permission := by
    intro hasFile
    rw [noFile] at hasFile
    cases hasFile
  cases event with
  | record session permission =>
      rw [answer, handle_record_of_canReplace store (allowed permission)]
      rfl
  | clear permission =>
      rw [answer, handle_clear_of_canReplace store (allowed permission)]
      rfl
  | list limit => rfl
  | get id => rfl
  | edit file => rfl

end Calls

/-! ## A run -/

section Runs

variable
    (store : Store)

theorem after_cons (event : Event) (events : List Event) :
    store.after (event :: events) = (store.step event).after events := rfl

theorem transcript_cons (event : Event) (events : List Event) :
    store.transcript (event :: events) =
      (event, store.answer event) :: (store.step event).transcript events := rfl

theorem after_append (earlier later : List Event) :
    store.after (earlier ++ later) = (store.after earlier).after later :=
  List.foldl_append

theorem transcript_append (earlier later : List Event) :
    store.transcript (earlier ++ later) =
      store.transcript earlier ++ (store.after earlier).transcript later := by
  induction earlier generalizing store with
  | nil => rfl
  | cons event earlier inductionHypothesis =>
      rw [List.cons_append, transcript_cons, inductionHypothesis, transcript_cons, after_cons,
        List.cons_append]

theorem length_transcript (events : List Event) :
    (store.transcript events).length = events.length := by
  induction events generalizing store with
  | nil => rfl
  | cons event events inductionHypothesis =>
      rw [transcript_cons, List.length_cons, List.length_cons, inductionHypothesis]

/-- Leaving out one failing call of a run changes nothing but its own answer. -/
theorem leave_out
    (earlier : List Event)
    {call : Event}
    (failed : ((store.after earlier).answer call).isFailure = true)
    (later : List Event) :
    store.after (earlier ++ later) = store.after (earlier ++ call :: later) ∧
      store.transcript (earlier ++ later) =
        (store.transcript (earlier ++ call :: later)).eraseIdx earlier.length := by
  have unchanged := step_of_isFailure failed
  constructor
  · rw [after_append, after_append, after_cons, unchanged]
  · have atCall : (store.transcript earlier).length ≤ earlier.length :=
      (store.length_transcript earlier).le
    rw [transcript_append, transcript_append, transcript_cons, unchanged,
      List.eraseIdx_append_of_length_le atCall, length_transcript, Nat.sub_self,
      List.eraseIdx_cons_zero]

/-- Leaving out all failing calls of a run changes nothing but their own answers. -/
theorem leave_out_all (events : List Event) :
    store.after (store.withoutFailures events) = store.after events ∧
      store.transcript (store.withoutFailures events) =
        (store.transcript events).filter (!·.2.isFailure) := by
  -- A failing call is left out by its step; any other event starts both runs in the same way.
  induction events generalizing store with
  | nil => exact ⟨rfl, rfl⟩
  | cons event events inductionHypothesis =>
      cases failed : (store.answer event).isFailure with
      | true =>
          have leftOut :
              store.withoutFailures (event :: events) = store.withoutFailures events := by
            rw [withoutFailures, transcript_cons, step_of_isFailure failed,
              List.filter_cons_of_neg (by simp [failed]), withoutFailures]
          rw [leftOut, after_cons, transcript_cons, step_of_isFailure failed,
            List.filter_cons_of_neg (by simp [failed])]
          exact inductionHypothesis store
      | false =>
          obtain ⟨sameStore, sameAnswers⟩ := inductionHypothesis (store.step event)
          have kept :
              store.withoutFailures (event :: events) =
                event :: (store.step event).withoutFailures events := by
            rw [withoutFailures, transcript_cons, List.filter_cons_of_pos (by simp [failed]),
              List.map_cons, withoutFailures]
          rw [kept]
          refine ⟨sameStore, ?_⟩
          rw [transcript_cons, sameAnswers, transcript_cons,
            List.filter_cons_of_pos (by simp [failed])]

/-- Without a file no call of a run fails. -/
theorem isFailure_of_mem_transcript
    (noFile : store.history.hasFile = false)
    (events : List Event) :
    ∀ entry ∈ store.transcript events, entry.2.isFailure = false := by
  induction events generalizing store with
  | nil =>
      intro entry member
      cases member
  | cons event events inductionHypothesis =>
      intro entry member
      rcases List.mem_cons.1 member with rfl | inRest
      · exact isFailure_of_not_hasFile noFile event
      · exact inductionHypothesis (store.step event) ((store.hasFile_step event).trans noFile)
          entry inRest

end Runs

/-- Calls fail only when the file cannot be written, and a failing call leaves no trace. -/
structure FailsSafely (store : Store) : Prop where
  /-- Recording fails exactly when there is a file and the new list cannot be written to it. -/
  recordFails (session : Session) (permission : Permission) :
    (∃ cause, store.answer (.record session permission) = .recorded (.error cause)) ↔
      store.history.hasFile = true ∧
        store.file.write? permission
          (Session.writeList ((session :: store.sessions).take store.history.capacity)) = none
  /-- Clearing fails exactly when there is a file and no empty list can be written to it. -/
  clearFails (permission : Permission) :
    (∃ cause, store.answer (.clear permission) = .cleared (.error cause)) ↔
      store.history.hasFile = true ∧
        store.file.write? permission (Session.writeList []) = none
  /-- No call of any run fails when there is no file. -/
  inMemory (noFile : store.history.hasFile = false) (events : List Event) :
    ∀ entry ∈ store.transcript events, entry.2.isFailure = false
  /-- A call that fails changes neither the history nor the file. -/
  unchanged (call : Event) (failed : (store.answer call).isFailure = true) :
    store.step call = store
  /-- A run without a failing call ends in the same way, and it has the same other answers. -/
  leftOut (earlier : List Event) (call : Event)
      (failed : ((store.after earlier).answer call).isFailure = true) (later : List Event) :
    store.after (earlier ++ later) = store.after (earlier ++ call :: later) ∧
      store.transcript (earlier ++ later) =
        (store.transcript (earlier ++ call :: later)).eraseIdx earlier.length
  /-- So does a run without all of its failing calls. -/
  allLeftOut (events : List Event) :
    store.after (store.withoutFailures events) = store.after events ∧
      store.transcript (store.withoutFailures events) =
        (store.transcript events).filter (!·.2.isFailure)

theorem failsSafely (store : Store) : store.FailsSafely :=
  { recordFails := by
      intro session permission
      simp only [answer, handle, record, Answer.recorded.injEq, exists_error_replace_iff]
      exact not_canReplace_iff _
    clearFails := by
      intro permission
      simp only [answer, handle, clear, Answer.cleared.injEq, exists_error_replace_iff]
      exact not_canReplace_iff _
    inMemory := store.isFailure_of_mem_transcript
    unchanged := fun _ failed => step_of_isFailure failed
    leftOut := fun earlier _ failed later => store.leave_out earlier failed later
    allLeftOut := store.leave_out_all }

end Store
end History

/-! ## Opening the file -/

namespace Startup

/--
Opening the file of a history fails with an I/O error when the file cannot be
used, and with a serialization error when it lists no sessions.  Otherwise it
succeeds.  In each case what there is in the file system stays.
-/
structure OpensSafely (path : String) (capacity : Nat) (files : String → File) : Prop where
  /-- The path names something that cannot be read, or no file can be made there. -/
  io :
    (∃ detail,
        (openHistory path capacity files).outcome = .error (.badHistory path (.io detail))) ↔
      files path = .directory ∨ files path = .unreachable
  /-- The bytes of the file do not spell a list of sessions. -/
  serialization :
    (∃ detail,
        (openHistory path capacity files).outcome =
          .error (.badHistory path (.serialization detail))) ↔
      ∃ bytes, files path = .content bytes ∧
        Session.readList (Text.symbolsOfBytes bytes) = none
  /-- There is no file yet, or its bytes spell a list of sessions. -/
  opened (history : History) :
    (openHistory path capacity files).outcome = .ok history ↔
      ∃ loaded, history = .ofSessions loaded capacity true ∧
        (files path = .missing ∧ loaded = [] ∨
          ∃ bytes, files path = .content bytes ∧
            Session.readList (Text.symbolsOfBytes bytes) = some loaded)
  /-- There is no other outcome. -/
  complete :
    (∃ history, (openHistory path capacity files).outcome = .ok history) ∨
      (∃ detail,
        (openHistory path capacity files).outcome = .error (.badHistory path (.io detail))) ∨
      ∃ detail,
        (openHistory path capacity files).outcome =
          .error (.badHistory path (.serialization detail))
  /-- What there was stays, and nothing appears in the place of the file. -/
  kept (after : String → File)
      (leadTo : Access.AllLeadTo (openHistory path capacity files).accesses files after) :
    after path = files path ∧ ∀ place, (files place).Exists → after place = files place

section Opening

variable
    (path : String)
    (capacity : Nat)
    (files : String → File)

/-- What opening leads to depends on what the path names and on what the file lists. -/
theorem outcome_openHistory_cases :
    (files path = .missing ∧
      (openHistory path capacity files).outcome = .ok (.ofSessions [] capacity true)) ∨
    ((files path = .directory ∨ files path = .unreachable) ∧
      ∃ detail,
        (openHistory path capacity files).outcome = .error (.badHistory path (.io detail))) ∨
    ∃ bytes, files path = .content bytes ∧
      ((Session.readList (Text.symbolsOfBytes bytes) = none ∧
        ∃ detail,
          (openHistory path capacity files).outcome =
            .error (.badHistory path (.serialization detail))) ∨
      ∃ loaded, Session.readList (Text.symbolsOfBytes bytes) = some loaded ∧
        (openHistory path capacity files).outcome = .ok (.ofSessions loaded capacity true)) := by
  rw [outcome_openHistory, History.openFile]
  cases files path with
  | missing => exact .inl ⟨rfl, rfl⟩
  | unreachable => exact .inr (.inl ⟨.inr rfl, _, rfl⟩)
  | directory => exact .inr (.inl ⟨.inl rfl, _, rfl⟩)
  | content bytes =>
      refine .inr (.inr ⟨bytes, rfl, ?_⟩)
      rw [History.load]
      cases Session.readList (Text.symbolsOfBytes bytes) with
      | none => exact .inl ⟨rfl, _, rfl⟩
      | some loaded => exact .inr ⟨loaded, rfl, rfl⟩

theorem kept_of_allLeadTo
    {after : String → File}
    (leadTo : Access.AllLeadTo (openHistory path capacity files).accesses files after) :
    after path = files path := by
  obtain ⟨access, samePath, notWrite, same⟩ := exists_access_findFile path files
  rw [accesses_openHistory, same] at leadTo
  obtain _ | ⟨first, rest⟩ := leadTo
  cases rest
  exact samePath ▸ Access.eq_at_path_of_leadsTo first notWrite

theorem opensSafely : OpensSafely path capacity files := by
  refine
    { io := ?io
      serialization := ?serialization
      opened := ?opened
      complete := ?complete
      kept := ?kept }
  case kept =>
      intro after leadTo
      refine ⟨kept_of_allLeadTo path capacity files leadTo, ?_⟩
      intro place
      exact Access.eq_of_allLeadTo leadTo (writesNothing_openHistory path capacity)
  all_goals
    rcases outcome_openHistory_cases path capacity files with
      ⟨named, outcome⟩ | ⟨named | named, detail, outcome⟩ |
        ⟨bytes, named, ⟨unread, detail, outcome⟩ | ⟨loaded, isRead, outcome⟩⟩
    all_goals simp [*, eq_comm]

end Opening

end Startup

/--
Recording and removing sessions fails only when there is a file that cannot be
written, and the rest of a run is as if the failing calls had not been made.
Opening a file fails only when it cannot be used or lists no sessions, and it
changes nothing that there was before.
-/
theorem History.failures_leave_no_trace :
    (∀ store : History.Store, store.FailsSafely) ∧
      ∀ path capacity files, Startup.OpensSafely path capacity files :=
  ⟨History.Store.failsSafely, Startup.opensSafely⟩

/--
A session is recorded, and then the disk is full for one call, which fails and
leaves the session there.  Elsewhere a directory is in the place of the file.
-/
theorem History.failures_leave_no_trace_reported :
    ∃ store : History.Store, History.Store.Opened 1 [] store ∧
      let recorded := store.after [.record (History.Store.reported "a") .granted]
      let refused := History.Event.record (History.Store.reported "b") .refused
      recorded.sessions = [History.Store.reported "a"] ∧
      (∃ cause, recorded.answer refused = .recorded (.error cause)) ∧
      recorded.step refused = recorded ∧
      store.transcript
          ([.record (History.Store.reported "a") .granted] ++ [.clear .granted, .list 2]) =
        (store.transcript
          ([.record (History.Store.reported "a") .granted] ++
            refused :: [.clear .granted, .list 2])).eraseIdx 1 ∧
      ∃ detail,
        (Startup.openHistory "sessions" 1 fun _ => .directory).outcome =
          .error (.badHistory "sessions" (.io detail)) := by
  obtain ⟨failsSafely, opensSafely⟩ := History.failures_leave_no_trace
  refine ⟨⟨.ofSessions [] 1 true, .missing⟩, .withFile rfl rfl, rfl, ?fails, ?unchanged,
    ?leftOut, ?directory⟩
  case fails => exact ((failsSafely _).recordFails _ _).2 ⟨rfl, rfl⟩
  case unchanged => exact (failsSafely _).unchanged _ rfl
  case leftOut =>
      exact ((failsSafely _).leftOut [.record (History.Store.reported "a") .granted]
        (.record (History.Store.reported "b") .refused) rfl [.clear .granted, .list 2]).2
  case directory => exact (opensSafely "sessions" 1 _).io.2 (.inl rfl)

end FaultFinder
