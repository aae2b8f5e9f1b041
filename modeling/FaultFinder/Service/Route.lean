import FaultFinder.Service.Request

/-!
# Routes

What the paths of requests name.  Paths are compared character by character, so
case, empty parts and a slash at the end all matter.
-/

namespace FaultFinder
namespace Service

/-- What a path names. -/
inductive Route where
  /-- The state of the service. -/
  | health
  /-- The names of all symptoms. -/
  | symptoms
  /-- The rules of the knowledge base. -/
  | rules
  /-- The making of a diagnosis. -/
  | diagnosis
  /-- The recorded sessions. -/
  | history
  /-- One recorded session, by its percent-encoded identifier. -/
  | session (id : List Char)
  /-- The counters. -/
  | metrics
  deriving DecidableEq

namespace Route

/-- The path of the recorded sessions. -/
def historyPath : String := "/api/v1/history"

/-- The routes with a fixed path. -/
def fixed : List (String × Route) :=
  [ ("/api/v1/health", .health), ("/api/v1/symptoms", .symptoms), ("/api/v1/rules", .rules),
    ("/api/v1/diagnose", .diagnosis), (historyPath, .history), ("/metrics", .metrics) ]

/-- The route of a session: its identifier is the part of the path after that of the history. -/
def ofSessionPath? (path : List Char) : Option Route :=
  let beginning := (historyPath ++ "/").toList
  let id := path.drop beginning.length
  if beginning.isPrefixOf path && !id.isEmpty && !id.contains '/' then some (.session id) else none

/-- The route that a path names. -/
def ofPath? (path : List Char) : Option Route :=
  match fixed.find? fun (known, _) => known.toList = path with
  | some (_, route) => some route
  | none => ofSessionPath? path

/-- Whether a route answers a method. -/
def allows (route : Route) (method : Method) : Bool :=
  match route, method with
  | .diagnosis, .post => true
  | .diagnosis, _ => false
  | .history, .delete => true
  | _, .get => true
  | _, .head => true
  | _, _ => false

end Route
end Service
end FaultFinder
