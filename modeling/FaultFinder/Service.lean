import FaultFinder.Diagnosis
import FaultFinder.Rule.Json
import FaultFinder.Service.Body
import FaultFinder.Service.MediaType
import FaultFinder.Service.Metrics
import FaultFinder.Service.Query
import FaultFinder.Service.Reply
import FaultFinder.Service.Route

/-!
# The diagnosis service

The service answers requests one after the other.  A request for a diagnosis
and the removal of the history change its state; all other requests only read
it.  A diagnosis is answered even if it cannot be recorded.

What the service does not decide itself is given with each request: the next
fresh identifier, the time, whether the history file can be written, and how
counters are shown.
-/

namespace FaultFinder

/-- The state of the service. -/
structure Service where
  /-- The engine that makes the diagnoses. -/
  engine : Engine
  /-- The recorded sessions. -/
  history : History
  /-- The counters. -/
  metrics : Service.Metrics
  /-- Whether the counters can be read. -/
  showsMetrics : Bool

namespace Service

/-- What a request meets with. -/
structure Circumstances where
  /-- An identifier that is not used yet. -/
  freshId : Uuid
  /-- The time. -/
  now : Timestamp
  /-- The time in seconds since the start of 1970. -/
  clock : Nat
  /-- The seconds since the start of the service. -/
  uptime : Nat
  /-- Whether the history file can be written. -/
  permission : Permission
  /-- How the counters are shown. -/
  exposition : Metrics.Exposition := .plain

/-- What a request leads to. -/
structure Exchange where
  /-- The answer. -/
  reply : Reply
  /-- The state of the service afterwards. -/
  service : Service
  /-- The history file afterwards. -/
  file : File

/-- The service with a new set of counters. -/
def ofParts (engine : Engine) (history : History) : Service :=
  { engine, history, metrics := .zero, showsMetrics := false }

/-- The service with the standard knowledge base and the usual settings. -/
def usual : Service :=
  ofParts (.ofKnowledgeBase .standard) .usual

/-- The version of the service. -/
def version : String := "0.1.0"

/-- A part of the service that works. -/
def workingPart : Json :=
  .ofMembers [("status", .ofString "ok")]

/-- The state of the service and the sizes of what it holds. -/
def healthJson (service : Service) (circumstances : Circumstances) : Json :=
  let knowledgeBase := service.engine.knowledgeBase
  .ofMembers
    [ ("status", .ofString "healthy"),
      ("timestamp", .ofNat circumstances.clock),
      ("version", .ofString version),
      ("uptime_seconds", .ofNat circumstances.uptime),
      ("components", .ofMembers
        [ ("knowledge_base", workingPart), ("inference", workingPart), ("history", workingPart) ]),
      ("metrics", .ofMembers
        [ ("rule_count", .ofNat knowledgeBase.size),
          ("symptom_count", .ofNat knowledgeBase.symptomNames.length),
          ("history_count", .ofNat service.history.size) ]) ]

/-- A list and its length. -/
def listJson {α : Type} (ofElement : α → Json) (elements : List α) : Json :=
  .ofMembers [("data", .ofList ofElement elements), ("count", .ofNat elements.length)]

/-- The newest sessions, as many as the query asks for. -/
def historyReply (service : Service) (query : List Char) : Reply :=
  match limit? query with
  | .error _ => .refusal 400
  | .ok limit =>
    let capacity := service.history.capacity
    .ok (listJson Session.toJson (service.history.newest (min (limit.getD capacity) capacity)))

/-- The session with a percent-encoded identifier. -/
def sessionReply (service : Service) (encodedId : List Char) : Reply :=
  match ((Text.percentSymbols encodedId).mapM id).bind Uuid.read with
  | none => .refusal 400
  | some id =>
    match service.history.find? id with
    | some session => .ok session.toJson
    | none => .ofError (.notFound s!"session {String.ofList id.text} not found")

/-- The text that shows the counters. -/
def metricsReply (service : Service) (circumstances : Circumstances) : Reply :=
  if service.showsMetrics then
    ⟨200, .text (String.intercalate "\n" (circumstances.exposition.write service.metrics))⟩
  else ⟨404, .text "metrics exporter not installed"⟩

/-- The answer to a request that reads what a route names. -/
def readReply
    (service : Service)
    (route : Route)
    (query : List Char)
    (circumstances : Circumstances) :
    Reply :=
  match route with
  | .health => .ok (service.healthJson circumstances)
  | .symptoms => .ok (listJson Json.ofString service.engine.knowledgeBase.symptomNames)
  | .rules => .ok (listJson Rule.toJson service.engine.knowledgeBase.rules)
  | .history => service.historyReply query
  | .session id => service.sessionReply id
  | .metrics => service.metricsReply circumstances
  | .diagnosis => .refusal 405

/-- One bar of the chart of a diagnosis. -/
def chartEntryJson (finding : Finding) : Json :=
  .ofMembers
    [ ("rule_name", .ofString finding.ruleName),
      ("confidence_percent", .ofNat finding.confidencePercent.toNat) ]

/-- A session and its chart. -/
def diagnosisJson (session : Session) : Json :=
  .ofMembers
    [ ("session", session.toJson), ("chart", .ofList chartEntryJson session.findings) ]

/-- Make a diagnosis of at least one symptom, and record it if that is possible. -/
def diagnose
    (service : Service)
    (symptoms : List String)
    (circumstances : Circumstances)
    (file : File) :
    Exchange :=
  let session : Session :=
    { id := circumstances.freshId
      timestamp := circumstances.now
      observedSymptoms := symptoms
      findings := service.engine.diagnose (.ofList symptoms) }
  let update := service.history.record session file circumstances.permission
  { reply := .ok (diagnosisJson session)
    service :=
      { service with
        history := update.history
        metrics := service.metrics.observe session.findings.length }
    file := update.file }

/-- The symptoms that a request submits, or the reply that refuses it. -/
def submittedSymptoms (request : Request) : Except Reply (List String) :=
  if !(request.contentType.bind MediaType.read).any (·.isJson) then .error (.refusal 415)
  else if request.isTooLarge then .error (.refusal 413)
  else
    match Body.read request.body with
    | .error .malformed => .error (.refusal 400)
    | .error .misshapen => .error (.refusal 422)
    | .ok [] => .error (.ofError (.badRequest "select at least one symptom"))
    | .ok symptoms => .ok symptoms

/-- Remove all sessions. -/
def clearHistory (service : Service) (circumstances : Circumstances) (file : File) : Exchange :=
  let update := service.history.clear file circumstances.permission
  let reply :=
    match update.answer with
    | .ok count => .ok (.ofMembers [("cleared", .ofNat count)])
    | .error error => .ofError (.storage error)
  { reply, service := { service with history := update.history }, file := update.file }

/-- Answer a request. -/
def handle
    (service : Service)
    (request : Request)
    (circumstances : Circumstances)
    (file : File) :
    Exchange :=
  match Route.ofPath? request.path with
  | none => ⟨.refusal 404, service, file⟩
  | some route =>
    if !route.allows request.method then ⟨.refusal 405, service, file⟩
    else
      match request.method with
      | .post =>
        match submittedSymptoms request with
        | .error reply => ⟨reply, service, file⟩
        | .ok symptoms => service.diagnose symptoms circumstances file
      | .delete => service.clearHistory circumstances file
      | .head =>
        ⟨(service.readReply route request.query circumstances).withoutBody, service, file⟩
      | _ => ⟨service.readReply route request.query circumstances, service, file⟩

end Service
end FaultFinder
