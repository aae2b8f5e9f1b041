import FaultFinder.Finding.Json
import FaultFinder.Session
import FaultFinder.Timestamp.Text

/-!
# Sessions as JSON records

A session is a record of its identifier, its timestamp, the reported symptoms
and the findings.
-/

namespace FaultFinder
namespace Session

/-- The names of the fields of a session. -/
def fieldNames : List String :=
  ["id", "timestamp", "observed_symptoms", "results"]

/-- The session that a value is. -/
def ofJson? (value : Json) : Option Session := do
  match ← value.fields? fieldNames with
  | [id, timestamp, observedSymptoms, findings] =>
    return {
      id := ← Uuid.read (← id.string?).toList
      timestamp := ← Timestamp.read (← timestamp.string?).toList
      observedSymptoms := ← observedSymptoms.list? Json.string?
      findings := ← findings.list? Finding.ofJson? }
  | _ => none

/-- The value of a session. -/
def toJson (session : Session) : Json :=
  .ofMembers
    [ ("id", .ofString (String.ofList session.id.text)),
      ("timestamp", .ofString (String.ofList session.timestamp.text)),
      ("observed_symptoms", .ofList Json.ofString session.observedSymptoms),
      ("results", .ofList Finding.toJson session.findings) ]

/-- The session that a text spells. -/
def read (text : List Text.Symbol) : Option Session :=
  (Json.read text).bind ofJson?

/-- The sessions that a text lists. -/
def readList (text : List Text.Symbol) : Option (List Session) :=
  (Json.read text).bind (Json.list? ofJson?)

/-- The text that lists sessions, with one item or member a line. -/
def writeList (sessions : List Session) : String :=
  (Json.ofList toJson sessions).indented

end Session
end FaultFinder
