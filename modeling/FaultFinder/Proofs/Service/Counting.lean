import FaultFinder.Proofs.Service.Retrieval
import Mathlib.Algebra.GroupWithZero.Nat

/-!
# What the counters count

The counters are those of the diagnoses that were answered.  An accepted request
for a diagnosis counts once, whether its session can be recorded or not, and no
other call changes a counter.  So after a run the counters follow from the
answers that were sent, and a text that shows the counters has these numbers.
-/

namespace FaultFinder

/-! ## Values in replies -/

namespace Json

/-- The value of the only member of an object with a name. -/
def member? (name : String) : Json → Option Json
  | .object members => onlyMember? members name
  | _ => none

/-- The value that names of members lead to, one object after the other. -/
def at? (value : Json) (path : List String) : Option Json :=
  path.foldlM (fun value name => value.member? name) value

@[simp] theorem at?_nil (value : Json) : value.at? [] = some value := rfl

/-- A path leads on from the value of its first member. -/
theorem at?_ofMembers_cons
    {members : List (String × Json)}
    (distinct : (members.map (·.1)).Nodup)
    {name : String}
    {value : Json}
    (present : (name, value) ∈ members)
    (path : List String) :
    (ofMembers members).at? (name :: path) = value.at? path := by
  have found : (ofMembers members).member? name = some value :=
    onlyMember?_of_mem distinct present
  rw [at?, List.foldlM_cons, found]
  rfl

end Json

namespace Service

/-- The value in the body of a reply that names of members lead to. -/
def Reply.at? (reply : Reply) (path : List String) : Option Json :=
  match reply.body with
  | .json value => value.at? path
  | _ => none

/-- The results of the session in the body of a reply. -/
def Reply.results (reply : Reply) : List Json :=
  match reply.at? ["session", "results"] with
  | some (.array items) => items
  | _ => []

/-- The results in the answer to a request for a diagnosis are the findings of its session. -/
theorem results_ok_diagnosisJson (session : Session) :
    (Reply.ok (diagnosisJson session)).results = session.findings.map Finding.toJson := by
  have found :
      (Reply.ok (diagnosisJson session)).at? ["session", "results"] =
        some (.ofList Finding.toJson session.findings) := by
    calc
      (diagnosisJson session).at? ["session", "results"] =
          session.toJson.at? ["results"] :=
        Json.at?_ofMembers_cons (by simp) List.mem_cons_self _
      _ = (Json.ofList Finding.toJson session.findings).at? [] :=
        Json.at?_ofMembers_cons (by simp) (by simp) _
  rw [Reply.results, found]
  rfl

/-! ## Counting several diagnoses -/

namespace Metrics

/-- The counts after diagnoses with some numbers of findings. -/
def observeAll (metrics : Metrics) (numbers : List Nat) : Metrics :=
  numbers.foldl observe metrics

theorem observeAll_cons (metrics : Metrics) (number : Nat) (numbers : List Nat) :
    metrics.observeAll (number :: numbers) = (metrics.observe number).observeAll numbers :=
  rfl

/-- Every diagnosis is counted once, and its findings are added. -/
theorem observeAll_eq (metrics : Metrics) (numbers : List Nat) :
    metrics.observeAll numbers =
      { diagnoses := metrics.diagnoses + numbers.length
        emptyDiagnoses := metrics.emptyDiagnoses + numbers.count 0
        observations := metrics.observations + numbers.length
        findings := metrics.findings + numbers.sum } := by
  induction numbers generalizing metrics with
  | nil => rfl
  | cons number numbers inductionHypothesis =>
      rw [observeAll_cons, inductionHypothesis]
      by_cases none : number = 0
      · simp only [observe, none, if_true, List.length_cons, List.count_cons_self, List.sum_cons,
          Nat.zero_add, Nat.add_zero, Metrics.mk.injEq, and_true]
        omega
      · simp only [observe, none, if_false, List.length_cons, List.count_cons_of_ne none,
          List.sum_cons, Metrics.mk.injEq]
        omega

/-- The lines about diagnoses and their findings appear with the first diagnosis. -/
theorem lines_eq (diagnoses empty findings : Nat) :
    lines ⟨diagnoses, empty, diagnoses, findings⟩ =
      (if empty = 0 then [] else [s!"diagnoses_empty_total {empty}"]) ++
        if diagnoses = 0 then []
        else
          [ s!"diagnoses_total {diagnoses}",
            s!"diagnosis_result_count_count {diagnoses}",
            s!"diagnosis_result_count_sum {findings}" ] := by
  by_cases none : diagnoses = 0
  · simp only [lines, line, none, if_true, List.append_nil]
    rfl
  · simp only [lines, line, none, if_false, List.append_assoc, List.cons_append, List.nil_append]
    rfl

/-- Diagnoses with findings have at least one finding each. -/
theorem length_le_sum_add_count (numbers : List Nat) :
    numbers.length ≤ numbers.sum + numbers.count 0 := by
  induction numbers with
  | nil => exact Nat.le_refl 0
  | cons number numbers inductionHypothesis =>
      by_cases none : number = 0
      · rw [none, List.length_cons, List.sum_cons, List.count_cons_self]
        omega
      · rw [List.length_cons, List.sum_cons, List.count_cons_of_ne none]
        omega

end Metrics

namespace Server

variable
    (server : Server)
    {call : Call}

/-! ## One call -/

/-- The call is a request for a diagnosis, and it is answered with one. -/
def Accepts (server : Server) (call : Call) : Prop :=
  call.IsPost ∧ (server.reply call).status = 200

instance (server : Server) (call : Call) : Decidable (server.Accepts call) :=
  inferInstanceAs (Decidable (_ ∧ _))

/-- An accepted request for a diagnosis is one that makes a session. -/
theorem accepts_iff :
    server.Accepts call ↔ ∃ session, call.posted? server.service.engine = some session := by
  constructor
  · rintro ⟨isPost, isOk⟩
    have handled :=
      handle_diagnosis server.service isPost.1 isPost.2 call.circumstances server.file
    rw [Call.posted?, if_pos isPost]
    cases submitted : submittedSymptoms call.request with
    | error reply =>
        rw [submitted] at handled
        rw [Server.reply, exchange, handled] at isOk
        exact absurd isOk (status_ne_of_submittedSymptoms_error submitted)
    | ok symptoms => exact ⟨_, rfl⟩
  · rintro ⟨session, posted⟩
    obtain ⟨isPost, replied⟩ := server.posts_iff.2 posted
    refine ⟨isPost, ?_⟩
    rw [replied]
    rfl

/-- A call counts when it makes a session, and then with the findings of this session. -/
theorem metrics_step (call : Call) :
    (server.step call).service.metrics =
      server.service.metrics.observeAll
        ((call.posted? server.service.engine).toList.map (·.findings.length)) := by
  cases posted : call.posted? server.service.engine with
  | some session =>
      obtain ⟨symptoms, _, rfl, exchanged⟩ := server.exchange_of_posted? posted
      rw [step, exchanged]
      rfl
  | none =>
      by_cases isRemoval : call.IsRemoval
      · rw [step, server.exchange_of_isRemoval isRemoval]
        rfl
      · rw [server.step_of_posted?_eq_none posted isRemoval]
        rfl

theorem posted?_eq_none_of_not_accepts
    (refused : ¬server.Accepts call) :
    call.posted? server.service.engine = none := by
  rw [accepts_iff, not_exists] at refused
  exact Option.eq_none_iff_forall_ne_some.2 refused

theorem metrics_step_of_not_accepts
    (refused : ¬server.Accepts call) :
    (server.step call).service.metrics = server.service.metrics := by
  rw [metrics_step, server.posted?_eq_none_of_not_accepts refused]
  rfl

theorem showsMetrics_step (call : Call) :
    (server.step call).service.showsMetrics = server.service.showsMetrics := by
  cases posted : call.posted? server.service.engine with
  | some session =>
      obtain ⟨symptoms, _, _, exchanged⟩ := server.exchange_of_posted? posted
      rw [step, exchanged]
      rfl
  | none =>
      by_cases isRemoval : call.IsRemoval
      · rw [step, server.exchange_of_isRemoval isRemoval]
        rfl
      · rw [server.step_of_posted?_eq_none posted isRemoval]

/-! ## Runs -/

/-- The calls of a run, each with the answer to it. -/
def transcript (server : Server) : List Call → List (Call × Reply)
  | [] => []
  | call :: calls => (call, server.reply call) :: (server.step call).transcript calls

/-- The answers to the requests for a diagnosis that were accepted, in their order. -/
def accepted (server : Server) (calls : List Call) : List Reply :=
  ((server.transcript calls).filter fun (call, reply) =>
    call.IsPost ∧ reply.status = 200).map (·.2)

theorem accepted_cons (call : Call) (calls : List Call) :
    server.accepted (call :: calls) =
      (if server.Accepts call then [server.reply call] else []) ++
        (server.step call).accepted calls := by
  by_cases accepts : server.Accepts call
  · rw [accepted, transcript, List.filter_cons_of_pos, if_pos accepts]
    · rfl
    · exact decide_eq_true accepts
  · rw [accepted, transcript, List.filter_cons_of_neg, if_neg accepts]
    · rfl
    · exact mt of_decide_eq_true accepts

/-- The accepted requests are answered with the sessions that they make. -/
theorem accepted_eq (calls : List Call) :
    server.accepted calls =
      (server.posted calls).map fun session => .ok (diagnosisJson session) := by
  induction calls generalizing server with
  | nil => rfl
  | cons call calls inductionHypothesis =>
      rw [accepted_cons, inductionHypothesis, posted_cons, List.map_append]
      cases posted : call.posted? server.service.engine with
      | some session =>
          have replied := (server.posts_iff.2 posted).2
          rw [if_pos (server.accepts_iff.2 ⟨session, posted⟩), replied]
          rfl
      | none =>
          have refused : ¬server.Accepts call := by
            simp [accepts_iff, posted]
          rw [if_neg refused]
          rfl

theorem showsMetrics_after (calls : List Call) :
    (server.after calls).service.showsMetrics = server.service.showsMetrics := by
  refine List.foldlRecOn (motive := fun later : Server =>
    later.service.showsMetrics = server.service.showsMetrics) calls step rfl ?_
  intro later same call _
  rw [showsMetrics_step, same]

/-- After a run the results in the accepted answers have been counted, each answer once. -/
theorem metrics_after (calls : List Call) :
    (server.after calls).service.metrics =
      server.service.metrics.observeAll
        ((server.accepted calls).map (·.results.length)) := by
  -- The counters after the first call are those from which the rest of the run goes on.
  induction calls generalizing server with
  | nil => rfl
  | cons call calls inductionHypothesis =>
      have later := inductionHypothesis (server.step call)
      rw [metrics_step] at later
      change ((server.step call).after calls).service.metrics = _
      rw [later, accepted_eq, accepted_eq, posted_cons, Metrics.observeAll, Metrics.observeAll,
        Metrics.observeAll, List.map_append, List.map_append, List.foldl_append, List.map_map,
        List.map_map]
      simp only [Function.comp_def, results_ok_diagnosisJson, List.length_map]

/-- A request that reads is answered with what its path names. -/
theorem reply_of_isGet
    {route : Route}
    (isGet : call.request.method = .get)
    (isRoute : Route.ofPath? call.request.path = some route) :
    server.reply call =
      server.service.readReply route call.request.query call.circumstances := by
  rw [reply, exchange, handle, isRoute, isGet]
  cases route <;> rfl

/-- What the counters say after some calls, and how they change. -/
structure Accounts (server : Server) (calls : List Call) : Prop where
  /-- The diagnoses are the accepted answers. -/
  diagnoses :
    (server.after calls).service.metrics.diagnoses = (server.accepted calls).length
  /-- The number of results is observed once for each of these answers. -/
  observations :
    (server.after calls).service.metrics.observations = (server.accepted calls).length
  /-- The sum of these numbers is the number of results in all of these answers. -/
  findings :
    (server.after calls).service.metrics.findings =
      ((server.accepted calls).map (·.results.length)).sum
  /-- The empty diagnoses are the answers without results. -/
  emptyDiagnoses :
    (server.after calls).service.metrics.emptyDiagnoses =
      ((server.accepted calls).filter (·.results.isEmpty)).length
  /-- There are no more empty diagnoses than diagnoses. -/
  emptyAtMost :
    (server.after calls).service.metrics.emptyDiagnoses ≤
      (server.after calls).service.metrics.diagnoses
  /-- There are at least as many results as diagnoses that are not empty. -/
  findingsAtLeast :
    (server.after calls).service.metrics.diagnoses -
        (server.after calls).service.metrics.emptyDiagnoses ≤
      (server.after calls).service.metrics.findings
  /-- Calls that are not accepted requests for a diagnosis count nothing. -/
  others (call : Call) (refused : ¬(server.after calls).Accepts call) :
    ((server.after calls).step call).service.metrics = (server.after calls).service.metrics
  /-- Whether the history file can be written makes no difference. -/
  writing (call : Call) (permission : Permission) :
    ((server.after calls).step
        ⟨call.request, { call.circumstances with permission }⟩).service.metrics =
      ((server.after calls).step call).service.metrics
  /--
  In the text that shows the counters, their lines have these numbers, whatever other
  lines there are; a line is missing while nothing was counted.
  -/
  shown (shows : server.service.showsMetrics = true)
      (get : Call) (isGet : get.request.method = .get)
      (isPath : get.request.path = "/metrics".toList) :
    let made := (server.accepted calls).length
    let empty := ((server.accepted calls).filter (·.results.isEmpty)).length
    let sum := ((server.accepted calls).map (·.results.length)).sum
    ∃ lines : List String,
      (server.after calls).reply get = ⟨200, .text (String.intercalate "\n" lines)⟩ ∧
        (lines.filter Metrics.isLine).Perm
          ((if empty = 0 then [] else [s!"diagnoses_empty_total {empty}"]) ++
            if made = 0 then []
            else
              [ s!"diagnoses_total {made}",
                s!"diagnosis_result_count_count {made}",
                s!"diagnosis_result_count_sum {sum}" ])

theorem count_zero_results (replies : List Reply) :
    (replies.map (·.results.length)).count 0 = (replies.filter (·.results.isEmpty)).length := by
  rw [List.count, List.countP_map, List.countP_eq_length_filter]
  congr 2
  funext reply
  rw [Function.comp_apply]
  cases reply.results <;> rfl

/--
The counters of a server that starts with none counted are those of the answers
it has sent, whatever it was called with and whether its file could be written.
-/
theorem counters_account_for_answers
    (fresh : server.service.metrics = .zero)
    (calls : List Call) :
    server.Accounts calls := by
  have counted :
      (server.after calls).service.metrics =
        { diagnoses := (server.accepted calls).length
          emptyDiagnoses := ((server.accepted calls).filter (·.results.isEmpty)).length
          observations := (server.accepted calls).length
          findings := ((server.accepted calls).map (·.results.length)).sum } := by
    rw [metrics_after, fresh, Metrics.observeAll_eq, count_zero_results, List.length_map]
    simp only [Metrics.zero, Nat.zero_add]
  refine
    { diagnoses := by rw [counted]
      observations := by rw [counted]
      findings := by rw [counted]
      emptyDiagnoses := by rw [counted]
      emptyAtMost := ?emptyAtMost
      findingsAtLeast := ?findingsAtLeast
      others := fun call refused => metrics_step_of_not_accepts _ refused
      writing := ?writing
      shown := ?shown }
  case emptyAtMost =>
      rw [counted]
      exact List.length_filter_le _ _
  case findingsAtLeast =>
      have enough := Metrics.length_le_sum_add_count ((server.accepted calls).map (·.results.length))
      rw [count_zero_results, List.length_map] at enough
      rw [counted]
      exact Nat.sub_le_of_le_add enough
  case writing =>
      intro call permission
      rw [metrics_step, metrics_step]
      rfl
  case shown =>
      intro shows get isGet isPath
      have isRoute : Route.ofPath? get.request.path = some .metrics := by
        rw [isPath]
        decide
      have written := get.circumstances.exposition.shows (server.after calls).service.metrics
      rw [counted, Metrics.lines_eq, ← counted] at written
      refine ⟨_, ?_, written⟩
      rw [reply_of_isGet _ isGet isRoute, readReply, metricsReply, showsMetrics_after, if_pos shows]

/-- Two clicks are counted, and the request for a session between them is not. -/
theorem counters_account_for_answers_clicks :
    smallServer.service.metrics = .zero ∧
      smallServer.Accounts [firstClick, ⟨sessionRequest, firstMinute⟩, secondClick] ∧
      (smallServer.after
        [firstClick, ⟨sessionRequest, firstMinute⟩, secondClick]).service.metrics.diagnoses = 2 := by
  have accounts := counters_account_for_answers smallServer rfl
    [firstClick, ⟨sessionRequest, firstMinute⟩, secondClick]
  have notPosted (engine : Engine) : Call.posted? engine ⟨sessionRequest, firstMinute⟩ = none :=
    if_neg fun isPost => nomatch isPost.1
  refine ⟨rfl, accounts, ?_⟩
  rw [accounts.diagnoses, accepted_eq, List.length_map, posted]
  simp only [firstClick, secondClick, List.filterMap_cons, List.filterMap_nil,
    posted?_clickRequest, notPosted, List.length_cons, List.length_nil]

end Server
end Service
end FaultFinder
