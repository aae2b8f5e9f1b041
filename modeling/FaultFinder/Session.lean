import FaultFinder.Finding
import FaultFinder.Timestamp
import FaultFinder.Uuid

/-!
# Diagnosis sessions

A session is one diagnosis that was made: when it was made, for which reported
symptoms, and what was found.
-/

namespace FaultFinder

/-- A diagnosis that was made. -/
structure Session where
  /-- The identifier of the session. -/
  id : Uuid
  /-- When the diagnosis was made. -/
  timestamp : Timestamp
  /-- The symptoms as they were reported, in their order and with repetitions. -/
  observedSymptoms : List String
  /-- What was found. -/
  findings : List Finding
  deriving DecidableEq

end FaultFinder
