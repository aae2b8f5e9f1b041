import FaultFinder.History
import FaultFinder.Proofs.Session

/-!
# Replacing the sessions of a history

Recording and clearing replace the sessions.  This succeeds exactly when the
history has no file or its file can be written; then the file, if there is one,
lists the sessions that are kept, and they are read back from it.  Otherwise
neither history nor file changes.
-/

namespace FaultFinder

namespace File

/-- Writing to the file succeeds. -/
def IsWritable : File → Permission → Prop
  | .missing, .granted => True
  | .content _, .granted => True
  | _, _ => False

theorem write?_of_isWritable
    {file : File}
    {permission : Permission}
    (writable : file.IsWritable permission)
    (text : String) :
    file.write? permission text = some (.content text.toUTF8) := by
  cases permission with
  | refused => cases file <;> exact writable.elim
  | granted =>
      cases file with
      | missing => rfl
      | content bytes => rfl
      | unreachable => exact writable.elim
      | directory => exact writable.elim

theorem write?_of_not_isWritable
    {file : File}
    {permission : Permission}
    (refused : ¬file.IsWritable permission)
    (text : String) :
    file.write? permission text = none := by
  cases permission with
  | refused => cases file <;> rfl
  | granted =>
      cases file with
      | missing => exact absurd trivial refused
      | content bytes => exact absurd trivial refused
      | unreachable => rfl
      | directory => rfl

end File

namespace History

/-- Replacing the sessions of a history succeeds. -/
def CanReplace (history : History) (file : File) (permission : Permission) : Prop :=
  history.hasFile = true → file.IsWritable permission

/-- The file that lists sessions. -/
def fileOf (sessions : List Session) : File :=
  .content (Session.writeList sessions).toUTF8

theorem load_fileOf
    {sessions : List Session}
    (fit : ∀ session ∈ sessions, session.CountsFit) :
    load (fileOf sessions) = .ok sessions := by
  have inLayouts : Json.indented ∈ Json.layouts := List.mem_cons_of_mem _ List.mem_cons_self
  have isRead :
      Session.readList (Text.symbolsOfBytes (Session.writeList sessions).toUTF8) = some sessions :=
    (Session.isTextOfList_layout inLayouts fit).2
  rw [fileOf, load, isRead]

@[simp] theorem max_capacity (history : History) : max history.capacity 1 = history.capacity :=
  Nat.max_eq_left history.positive

@[simp] theorem sessions_ofSessions
    (sessions : List Session)
    (capacity : Nat)
    (hasFile : Bool) :
    (ofSessions sessions capacity hasFile).sessions = sessions.take (max capacity 1) := rfl

section Replace

variable
    {α : Type}
    {history : History}
    {file : File}
    {permission : Permission}

theorem replace_of_canReplace
    (allowed : history.CanReplace file permission)
    (sessions : List Session)
    (answer : α) :
    history.replace sessions answer file permission =
      { answer := .ok answer
        history := ofSessions sessions history.capacity history.hasFile
        file := if history.hasFile then fileOf (sessions.take history.capacity) else file } := by
  cases mirrored : history.hasFile with
  | false => simp only [replace, mirrored, Bool.false_eq_true, if_false]
  | true =>
      have kept :
          (ofSessions sessions history.capacity true).sessions =
            sessions.take history.capacity := by
        rw [sessions_ofSessions, max_capacity]
      have written := File.write?_of_isWritable (allowed mirrored)
        (Session.writeList (sessions.take history.capacity))
      simp only [replace, mirrored, kept, written, if_true, fileOf]

theorem replace_of_not_canReplace
    (refused : ¬history.CanReplace file permission)
    (sessions : List Session)
    (answer : α) :
    ∃ cause,
      history.replace sessions answer file permission =
        { answer := .error cause, history := history, file := file } := by
  obtain ⟨mirrored, notWritable⟩ := Classical.not_imp.1 refused
  refine ⟨.io "the file cannot be written", ?_⟩
  rw [replace, if_pos mirrored, File.write?_of_not_isWritable notWritable]

theorem exists_error_replace_iff
    {sessions : List Session}
    {answer : α} :
    (∃ cause, (history.replace sessions answer file permission).answer = .error cause) ↔
      ¬history.CanReplace file permission := by
  constructor
  · rintro ⟨cause, failed⟩ allowed
    rw [replace_of_canReplace allowed] at failed
    cases failed
  · intro refused
    obtain ⟨cause, updated⟩ := replace_of_not_canReplace refused sessions answer
    exact ⟨cause, congrArg Update.answer updated⟩

end Replace

end History
end FaultFinder
