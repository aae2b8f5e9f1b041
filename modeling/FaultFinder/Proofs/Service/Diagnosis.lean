import FaultFinder.Proofs.History.Replace
import FaultFinder.Proofs.Service.Body
import FaultFinder.Proofs.SymptomSet
import FaultFinder.Service

/-!
# Requests for a diagnosis

A request for a diagnosis is refused, and then nothing changes, or it submits
symptoms.  Their diagnosis is answered whether it can be recorded or not.  If it
can, the recorded session is the one that is answered, and the file lists it;
if it cannot, history and file stay as they were.
-/

namespace FaultFinder

namespace Service

/--
The request submits a list of symptoms: it says that its body is a JSON text,
the body is not too great, and it asks for these symptoms.
-/
structure Request.Submits (request : Request) (symptoms : List String) : Prop where
  /-- The media type is one of JSON texts. -/
  isJson : (request.contentType.bind MediaType.read).any (·.isJson) = true
  /-- The body is not too great. -/
  isSmall : request.body.size ≤ Request.greatestBodySize
  /-- The body starts with a value that asks for the symptoms. -/
  asks : ∃ value rest,
    Json.tokens (Text.symbolsOfBytes request.body) = Json.toTokens value ++ rest ∧
      Asks value symptoms

/-- The exchange changes neither the service nor the history file. -/
structure Exchange.Unchanged (exchange : Exchange) (service : Service) (file : File) : Prop where
  /-- The service is as before. -/
  service : exchange.service = service
  /-- The history file is as before. -/
  file : exchange.file = file

/-- The exchange makes the diagnosis of symptoms in a session. -/
structure Exchange.Diagnoses
    (exchange : Exchange)
    (service : Service)
    (symptoms : List String)
    (circumstances : Circumstances)
    (file : File)
    (session : Session) : Prop where
  /-- The session has the fresh identifier. -/
  id : session.id = circumstances.freshId
  /-- The session was made now. -/
  timestamp : session.timestamp = circumstances.now
  /-- The symptoms are those submitted, in their order and with repetitions. -/
  observedSymptoms : session.observedSymptoms = symptoms
  /-- The findings are the diagnosis of the set of these symptoms. -/
  findings : ∃ observed : SymptomSet,
    (∀ symptom, symptom ∈ observed.toList ↔ symptom ∈ symptoms) ∧
      session.findings = service.engine.diagnose observed
  /-- The answer is the session and a chart with one bar for each finding. -/
  reply : exchange.reply =
    .ok (.ofMembers
      [ ("session", session.toJson),
        ("chart", .array (session.findings.map fun finding => .ofMembers
          [ ("rule_name", .ofString finding.ruleName),
            ("confidence_percent", .ofNat finding.confidencePercent.toNat) ])) ])
  /-- The engine does not change. -/
  engine : exchange.service.engine = service.engine
  /-- The diagnosis is counted. -/
  metrics : exchange.service.metrics = service.metrics.observe session.findings.length
  /-- If the session can be recorded, it is the newest one that is kept. -/
  recorded : service.history.CanReplace file circumstances.permission →
    exchange.service.history =
        .ofSessions (session :: service.history.sessions) service.history.capacity
          service.history.hasFile ∧
      exchange.service.history.sessions =
        (session :: service.history.sessions).take service.history.capacity ∧
      (service.history.hasFile = false → exchange.file = file) ∧
      (service.history.hasFile = true →
        exchange.file = History.fileOf exchange.service.history.sessions ∧
          ((∀ kept ∈ exchange.service.history.sessions, kept.CountsFit) →
            History.load exchange.file = .ok exchange.service.history.sessions))
  /-- Otherwise neither the history nor its file changes. -/
  notRecorded : ¬service.history.CanReplace file circumstances.permission →
    exchange.service.history = service.history ∧ exchange.file = file

variable
    {request : Request}
    {symptoms : List String}

/-! ## Submitted symptoms -/

theorem submittedSymptoms_of_submits
    (submits : request.Submits symptoms) :
    submittedSymptoms request =
      if symptoms = [] then .error (.ofError (.badRequest "select at least one symptom"))
      else .ok symptoms := by
  have small : request.isTooLarge = false := by
    rw [Request.isTooLarge, decide_eq_false_iff_not]
    exact Nat.not_lt.2 submits.isSmall
  have isRead := Body.read_eq_ok_iff.2 submits.asks
  rw [submittedSymptoms, submits.isJson, small, isRead]
  cases symptoms <;> rfl

/-- A request that submits nothing is refused because of its type, its size or its body. -/
theorem submittedSymptoms_of_not_submits
    (refused : ∀ symptoms, ¬request.Submits symptoms) :
    ∃ status ∈ [400, 413, 415, 422], submittedSymptoms request = .error (.refusal status) := by
  unfold submittedSymptoms
  split
  · exact ⟨415, by decide, rfl⟩
  · next isJson =>
      split
      · exact ⟨413, by decide, rfl⟩
      · next isSmall =>
          cases isRead : Body.read request.body with
          | error fault =>
              cases fault with
              | malformed => exact ⟨400, by decide, rfl⟩
              | misshapen => exact ⟨422, by decide, rfl⟩
          | ok symptoms =>
              have submits : request.Submits symptoms :=
                { isJson := by simpa using isJson
                  isSmall := by simpa [Request.isTooLarge] using isSmall
                  asks := Body.read_eq_ok_iff.1 isRead }
              exact absurd submits (refused symptoms)

/-- A request submits one list of symptoms at most. -/
theorem Request.Submits.unique
    {other : List String}
    (submits : request.Submits symptoms)
    (submitsOther : request.Submits other) :
    symptoms = other := by
  have isRead := Body.read_eq_ok_iff.2 submits.asks
  rw [Body.read_eq_ok_iff.2 submitsOther.asks] at isRead
  exact (Except.ok.inj isRead).symm

/-! ## The diagnosis -/

/-- The session of the diagnosis of symptoms. -/
def sessionOf
    (engine : Engine)
    (symptoms : List String)
    (circumstances : Circumstances) :
    Session :=
  { id := circumstances.freshId
    timestamp := circumstances.now
    observedSymptoms := symptoms
    findings := engine.diagnose (.ofList symptoms) }

/-- The service after a session has been made: it is counted, and recorded if that is possible. -/
theorem diagnose_eq
    (service : Service)
    (symptoms : List String)
    (circumstances : Circumstances)
    (file : File) :
    service.diagnose symptoms circumstances file =
      let session := sessionOf service.engine symptoms circumstances
      let update := service.history.record session file circumstances.permission
      { reply := .ok (diagnosisJson session)
        service :=
          { service with
            history := update.history
            metrics := service.metrics.observe session.findings.length }
        file := update.file } :=
  rfl

/-- Symptoms are diagnosed in one session, which is recorded if that is possible. -/
theorem diagnoses_diagnose
    (service : Service)
    (symptoms : List String)
    (circumstances : Circumstances)
    (file : File) :
    (service.diagnose symptoms circumstances file).Diagnoses service symptoms circumstances file
      (sessionOf service.engine symptoms circumstances) := by
  rw [diagnose_eq]
  refine
    { id := rfl
      timestamp := rfl
      observedSymptoms := rfl
      findings := ⟨.ofList symptoms, fun _ => SymptomSet.mem_ofList_iff, rfl⟩
      reply := rfl
      engine := rfl
      metrics := rfl
      recorded := ?recorded
      notRecorded := ?notRecorded }
  case recorded =>
      intro allowed
      have updated := History.replace_of_canReplace allowed
        (sessionOf service.engine symptoms circumstances :: service.history.sessions) ()
      simp only [History.record, updated, History.sessions_ofSessions, History.max_capacity]
      refine ⟨trivial, trivial, ?_, ?_⟩
      · intro inMemory
        rw [inMemory, if_neg Bool.false_ne_true]
      · intro mirrored
        rw [if_pos mirrored]
        exact ⟨rfl, History.load_fileOf⟩
  case notRecorded =>
      intro refused
      obtain ⟨cause, updated⟩ := History.replace_of_not_canReplace refused
        (sessionOf service.engine symptoms circumstances :: service.history.sessions) ()
      simp only [History.record, updated]
      exact ⟨trivial, trivial⟩

/-- How a request for a diagnosis is answered, and what it changes. -/
structure AnswersDiagnosis
    (service : Service)
    (request : Request)
    (circumstances : Circumstances)
    (file : File)
    (exchange : Exchange) : Prop where
  /-- Submitted symptoms are diagnosed. -/
  accepted : ∀ symptoms, symptoms ≠ [] → request.Submits symptoms →
    ∃ session, exchange.Diagnoses service symptoms circumstances file session
  /-- A request that submits no symptoms is refused with a message. -/
  empty : request.Submits [] →
    exchange.reply =
        ⟨400, .json (.ofMembers [("error", .ofString "select at least one symptom")])⟩ ∧
      exchange.Unchanged service file
  /-- A request that does not submit a list is refused. -/
  refused : (∀ symptoms, ¬request.Submits symptoms) →
    (∃ status ∈ [400, 413, 415, 422], exchange.reply = .refusal status) ∧
      exchange.Unchanged service file
  /-- A request does not submit two lists. -/
  unambiguous : ∀ symptoms other, request.Submits symptoms → request.Submits other →
    symptoms = other

theorem handle_diagnosis
    (service : Service)
    {request : Request}
    (isPost : request.method = .post)
    (isPath : request.path = "/api/v1/diagnose".toList)
    (circumstances : Circumstances)
    (file : File) :
    service.handle request circumstances file =
      match submittedSymptoms request with
      | .error reply => ⟨reply, service, file⟩
      | .ok symptoms => service.diagnose symptoms circumstances file := by
  have isRoute : Route.ofPath? request.path = some .diagnosis := by
    rw [isPath]
    decide
  rw [handle, isRoute]
  cases submittedSymptoms request <;> simp [isPost, Route.allows]

/-- Every request for a diagnosis is answered like this, in every state of the service. -/
theorem post_diagnose_answers
    (service : Service)
    (request : Request)
    (isPost : request.method = .post)
    (isPath : request.path = "/api/v1/diagnose".toList)
    (circumstances : Circumstances)
    (file : File) :
    AnswersDiagnosis service request circumstances file
      (service.handle request circumstances file) := by
  have handled := handle_diagnosis service isPost isPath circumstances file
  refine
    { accepted := ?accepted
      empty := ?empty
      refused := ?refused
      unambiguous := fun _ _ => Request.Submits.unique }
  case accepted =>
      intro symptoms nonempty submits
      rw [submittedSymptoms_of_submits submits, if_neg nonempty] at handled
      rw [handled]
      exact ⟨_, diagnoses_diagnose service symptoms circumstances file⟩
  case empty =>
      intro submits
      rw [submittedSymptoms_of_submits submits, if_pos rfl] at handled
      rw [handled]
      exact ⟨rfl, rfl, rfl⟩
  case refused =>
      intro refused
      obtain ⟨status, listed, isRefusal⟩ := submittedSymptoms_of_not_submits refused
      rw [isRefusal] at handled
      rw [handled]
      exact ⟨⟨status, listed, rfl⟩, rfl, rfl⟩

/-- A request to diagnose a click, in the same words twice. -/
def clickRequest : Request :=
  { method := .post
    target := "/api/v1/diagnose?source=test#top"
    contentType := some "application/json; charset=utf-8"
    body :=
      (Json.ofMembers
        [ ("note", .null),
          ("symptoms", symptomsJson ["Bunyi klik", "Bunyi klik"]) ]).compact.toUTF8 }

theorem clickRequest_submits : clickRequest.Submits ["Bunyi klik", "Bunyi klik"] := by
  refine
    { isJson := by decide +kernel
      isSmall := by decide +kernel
      asks := ?_ }
  apply Body.read_eq_ok_iff.1
  apply Body.read_layout List.mem_cons_self
  apply Asks.named
  · decide
  · rfl

/-- The first minute of the service, with an identifier that nothing else has. -/
def firstMinute : Circumstances :=
  { freshId := Session.extreme.id
    now := Session.extreme.timestamp
    clock := 60
    uptime := 60
    permission := .granted }

/-- The click is diagnosed, and the session is recorded. -/
theorem post_diagnose_answers_click :
    clickRequest.method = .post ∧ clickRequest.path = "/api/v1/diagnose".toList ∧
      ∃ session,
        (usual.handle clickRequest firstMinute .missing).Diagnoses usual
          ["Bunyi klik", "Bunyi klik"] firstMinute .missing session := by
  have isPost : clickRequest.method = .post := rfl
  have isPath : clickRequest.path = "/api/v1/diagnose".toList := by decide +kernel
  have answers := post_diagnose_answers usual clickRequest isPost isPath firstMinute .missing
  exact ⟨isPost, isPath, answers.accepted _ (List.cons_ne_nil _ _) clickRequest_submits⟩

end Service
end FaultFinder
