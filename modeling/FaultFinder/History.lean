import FaultFinder.File
import FaultFinder.Session.Json

/-!
# The history of sessions

A history keeps the newest sessions, up to its capacity, the newest first.  It
may have a file that lists the same sessions.  The file is written before the
history changes, so an operation whose write fails changes nothing.

Memory for as many sessions as the capacity is assumed to be available when a
history is made or opened.
-/

namespace FaultFinder

/-- Why an operation on a history fails. -/
inductive StorageError where
  /-- The file cannot be read or written. -/
  | io (detail : String)
  /-- The file does not list sessions. -/
  | serialization (detail : String)
  /-- The history cannot be reached. -/
  | lock (detail : String)
  deriving DecidableEq

/-- The message about a failed operation. -/
def StorageError.message : StorageError → String
  | .io detail => s!"I/O error: {detail}"
  | .serialization detail => s!"Serialization error: {detail}"
  | .lock detail => s!"Lock error: {detail}"

/-- The newest sessions. -/
structure History where
  /-- The sessions, the newest first. -/
  sessions : List Session
  /-- How many sessions are kept. -/
  capacity : Nat
  /-- Whether a file lists the same sessions. -/
  hasFile : Bool
  /-- At least one session is kept. -/
  positive : 0 < capacity
  /-- There are no more sessions than are kept. -/
  bounded : sessions.length ≤ capacity

/-- What an operation that may write the file leads to. -/
structure Update (α : Type) where
  /-- The answer. -/
  answer : Except StorageError α
  /-- The history afterwards. -/
  history : History
  /-- The file afterwards. -/
  file : File

namespace History

/-- The capacity of a history unless another one is chosen. -/
def usualCapacity : Nat := 10

/-- The history of the first sessions of a list; a capacity of zero counts as one. -/
def ofSessions (sessions : List Session) (capacity : Nat) (hasFile : Bool) : History :=
  { sessions := sessions.take (max capacity 1)
    capacity := max capacity 1
    hasFile
    positive := by omega
    bounded := List.length_take_le _ _ }

/-- An empty history without a file. -/
def inMemory (capacity : Nat) : History :=
  ofSessions [] capacity false

/-- An empty history without a file and with the usual capacity. -/
def usual : History :=
  inMemory usualCapacity

/-- The sessions that a file lists; a missing file lists none. -/
def load : File → Except StorageError (List Session)
  | .missing => .ok []
  | .unreachable => .error (.io "no file can be made there")
  | .directory => .error (.io "a directory is not a file")
  | .content bytes =>
    match Session.readList (Text.symbolsOfBytes bytes) with
    | some sessions => .ok sessions
    | none => .error (.serialization "the file is not a list of sessions")

/-- The history whose sessions a file lists; memory for its capacity is assumed to be available. -/
def openFile (file : File) (capacity : Nat) : Except StorageError History :=
  (load file).map fun sessions => ofSessions sessions capacity true

/-- The number of sessions. -/
def size (history : History) : Nat :=
  history.sessions.length

/-- Whether there are no sessions. -/
def isEmpty (history : History) : Bool :=
  history.sessions.isEmpty

/-- The newest sessions, at most `limit` of them. -/
def newest (history : History) (limit : Nat) : List Session :=
  history.sessions.take limit

/-- The newest session with the given identifier. -/
def find? (history : History) (id : Uuid) : Option Session :=
  history.sessions.find? (·.id = id)

/-- Replace the sessions, first in the file and then in the history. -/
def replace
    {α : Type}
    (history : History)
    (sessions : List Session)
    (answer : α)
    (file : File)
    (permission : Permission) :
    Update α :=
  let replaced := ofSessions sessions history.capacity history.hasFile
  if history.hasFile then
    match file.write? permission (Session.writeList replaced.sessions) with
    | some written => ⟨.ok answer, replaced, written⟩
    | none => ⟨.error (.io "the file cannot be written"), history, file⟩
  else ⟨.ok answer, replaced, file⟩

/-- Add the newest session; the oldest one gives way when there are too many. -/
def record
    (history : History)
    (session : Session)
    (file : File)
    (permission : Permission) :
    Update Unit :=
  history.replace (session :: history.sessions) () file permission

/-- Remove every session, and tell how many there were. -/
def clear (history : History) (file : File) (permission : Permission) : Update Nat :=
  history.replace [] history.size file permission

end History
end FaultFinder
