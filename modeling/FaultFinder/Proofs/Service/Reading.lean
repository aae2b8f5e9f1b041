import FaultFinder.Proofs.Service.Counting
import FaultFinder.Proofs.Text.Percent

/-!
# Calls that only read

A call that is neither an accepted request for a diagnosis nor one to remove the
sessions changes nothing.  So any number of such calls can be put anywhere into
a run, or be left out of it, and all other calls are answered as before.

The answers of one server agree about sizes: the state of the service says how
long the lists of rules, symptoms and sessions are.
-/

namespace FaultFinder
namespace Service

/-! ## Requests for the newest sessions up to a limit -/

/-- The digits of a number have no other meaning in an address. -/
theorem not_mem_digits
    {mark : Char}
    (isMark : mark ∈ ['#', '&', '%', '+'])
    (number : Nat) :
    mark ∉ Nat.toDigits 10 number := by
  have noDigit : ∀ digit : Digit, digit.char ∉ ['#', '&', '%', '+'] := by decide
  rw [Digit.toDigits_eq_map_plain, List.mem_map]
  rintro ⟨digit, _, rfl⟩
  exact noDigit digit isMark

theorem ne_of_mem_append_digits
    {mark : Char}
    (isMark : mark ∈ ['#', '&', '%', '+'])
    {before : List Char}
    (notBefore : mark ∉ before)
    {number : Nat}
    {character : Char}
    (member : character ∈ before ++ Nat.toDigits 10 number) :
    character ≠ mark := by
  rintro rfl
  rcases List.mem_append.1 member with inBefore | inNumber
  · exact notBefore inBefore
  · exact not_mem_digits isMark number inNumber

/-- A number is read from its digits. -/
theorem readCount_toDigits
    {number : Nat}
    (small : number < UInt64.size) :
    Text.readCount (Nat.toDigits 10 number) = some number := by
  have noSign : (Nat.toDigits 10 number).head? ≠ some '+' := fun sign =>
    not_mem_digits (by decide) number (List.mem_of_head? sign)
  have digits : Text.readDigits (Nat.toDigits 10 number) = some number := by
    have isRead :
        Text.readNumber (Digit.plain number).length ((Digit.plain number).map Digit.char ++ []) =
          some (Digit.value (Digit.plain number), []) :=
      Text.readNumber_map_append (Digit.plain_ne_nil number) (le_refl _) (.inl rfl)
    rw [List.append_nil, Digit.value_plain, ← Digit.toDigits_eq_map_plain,
      Digit.length_plain] at isRead
    rw [Text.readDigits, isRead]
  rw [Text.readCount, if_neg noSign, digits]
  exact if_pos small

theorem parameterText_of_not_mem
    {text : List Char}
    (noSpace : '+' ∉ text)
    (plain : '%' ∉ text) :
    parameterText text = text := by
  have unchanged :
      text.map (fun character => if character = '+' then ' ' else character) = text.map id := by
    apply List.map_congr_left
    intro character member
    exact if_neg (ne_of_mem_of_not_mem member noSpace)
  rw [parameterText, unchanged, List.map_id, Text.percentSymbols_of_not_mem plain, List.map_map]
  exact List.map_id text

/-- The digits of a count after the name of the limit are a query that sets it. -/
theorem limit?_of_count
    {limit : Nat}
    (small : limit < UInt64.size) :
    limit? ("limit=".toList ++ Nat.toDigits 10 limit) = .ok (some limit) := by
  have isParameter :
      parameter ("limit=".toList ++ Nat.toDigits 10 limit) =
        ("limit".toList, Nat.toDigits 10 limit) := by
    have name : parameterText "limit".toList = "limit".toList :=
      parameterText_of_not_mem (by decide) (by decide)
    have value : parameterText (Nat.toDigits 10 limit) = Nat.toDigits 10 limit :=
      parameterText_of_not_mem (not_mem_digits (by decide) limit) (not_mem_digits (by decide) limit)
    change (parameterText "limit".toList, parameterText (Nat.toDigits 10 limit)) = _
    rw [name, value]
  have noMark :
      ∀ character ∈ "limit=".toList ++ Nat.toDigits 10 limit, decide (character = '&') = false :=
    fun _ member => decide_eq_false (ne_of_mem_append_digits (by decide) (by decide) member)
  have single :
      parameters ("limit=".toList ++ Nat.toDigits 10 limit) =
        [("limit".toList, Nat.toDigits 10 limit)] := by
    rw [parameters, List.splitOnP_eq_singleton noMark, List.filter_cons_of_pos (by rfl),
      List.filter_nil, List.map_singleton, isParameter]
  rw [limit?, single, List.filter_cons_of_pos (by rfl), List.filter_nil]
  simp only [readCount_toDigits small]

/-- A request with a limit of sixty-four bits asks for the newest sessions up to this limit. -/
theorem Request.asksForNewest_limit
    {request : Request}
    {limit : Nat}
    (small : limit < UInt64.size)
    (isGet : request.method = .get)
    (isTarget : request.target = s!"/api/v1/history?limit={limit}") :
    request.AsksForNewest (some limit) := by
  have characters :
      request.target.toList = "/api/v1/history?limit=".toList ++ Nat.toDigits 10 limit := by
    rw [isTarget, String.toList_append]
    simp only [Nat.toString_eq_repr, Nat.toList_repr]
    rfl
  have isAddress :
      request.address = "/api/v1/history?limit=".toList ++ Nat.toDigits 10 limit := by
    rw [address, characters, List.takeWhile_eq_self_iff]
    exact fun _ member => decide_eq_true (ne_of_mem_append_digits (by decide) (by decide) member)
  refine
    { isGet
      isPath := ?isPath
      isLimit := ?isLimit }
  case isPath =>
      rw [path, isAddress]
      rfl
  case isLimit =>
      rw [query, isAddress]
      exact limit?_of_count small

/-! ## Sizes -/

/-- The reply is a list of some length, and it says so. -/
structure Reply.Lists (reply : Reply) (number : Nat) : Prop where
  /-- The list is there. -/
  isOk : reply.status = 200
  /-- The list has this length. -/
  data : ∃ items, reply.at? ["data"] = some (.array items) ∧ items.length = number
  /-- The reply says that it has this length. -/
  count : reply.at? ["count"] = some (.ofNat number)

theorem lists_listJson
    {α : Type}
    (ofElement : α → Json)
    (elements : List α) :
    (Reply.ok (listJson ofElement elements)).Lists elements.length := by
  refine
    { isOk := rfl
      data := ⟨elements.map ofElement, ?data, List.length_map _⟩
      count := ?count }
  case data => exact Json.at?_ofMembers_cons (by simp) List.mem_cons_self _
  case count => exact Json.at?_ofMembers_cons (by simp) (by simp) _

namespace Server

variable
    (server : Server)
    {call : Call}

/-- The call is a reading one on a path. -/
structure Gets (call : Call) (path : String) : Prop where
  /-- The request reads. -/
  isGet : call.request.method = .get
  /-- The request has the path. -/
  isPath : call.request.path = path.toList

/-- What the answers of a server say about sizes. -/
structure Agrees (server : Server) : Prop where
  /-- The number of rules is that of the rules that are listed. -/
  rules (health rules : Call) (asksHealth : Gets health "/api/v1/health")
      (asksRules : Gets rules "/api/v1/rules") :
    ∃ number,
      (server.reply health).at? ["metrics", "rule_count"] = some (.ofNat number) ∧
        (server.reply rules).Lists number
  /-- The number of symptoms is that of the symptoms that are listed. -/
  symptoms (health symptoms : Call) (asksHealth : Gets health "/api/v1/health")
      (asksSymptoms : Gets symptoms "/api/v1/symptoms") :
    ∃ number,
      (server.reply health).at? ["metrics", "symptom_count"] = some (.ofNat number) ∧
        (server.reply symptoms).Lists number
  /-- The number of sessions is that of the listed ones, which a limit cuts. -/
  sessions (health : Call) (asksHealth : Gets health "/api/v1/health") :
    ∃ number,
      (server.reply health).at? ["metrics", "history_count"] = some (.ofNat number) ∧
        (∀ newest : Call, newest.request.AsksForNewest none →
          (server.reply newest).Lists number) ∧
        (∀ (newest : Call) limit, newest.request.AsksForNewest (some limit) →
          (server.reply newest).Lists (min limit number)) ∧
        ∀ (newest : Call) limit, limit < UInt64.size → newest.request.method = .get →
          newest.request.target = s!"/api/v1/history?limit={limit}" →
          (server.reply newest).Lists (min limit number)

theorem reply_of_gets
    {path : String}
    {route : Route}
    (asks : Gets call path)
    (isRoute : Route.ofPath? path.toList = some route) :
    server.reply call =
      server.service.readReply route call.request.query call.circumstances := by
  rw [← asks.isPath] at isRoute
  exact reply_of_isGet server asks.isGet isRoute

/-- The state of the service says how much it holds. -/
theorem at?_reply_health
    (asks : Gets call "/api/v1/health")
    {name : String}
    {number : Nat}
    (member :
      (name, number) ∈
        [ ("rule_count", server.service.engine.knowledgeBase.size),
          ("symptom_count", server.service.engine.knowledgeBase.symptomNames.length),
          ("history_count", server.service.history.size) ]) :
    (server.reply call).at? ["metrics", name] = some (.ofNat number) := by
  have isRoute : Route.ofPath? "/api/v1/health".toList = some .health := by decide
  rw [server.reply_of_gets asks isRoute]
  have inSizes := List.mem_map_of_mem (f := fun size : String × Nat =>
    (size.1, Json.ofNat size.2)) member
  calc
    (server.service.healthJson call.circumstances).at? ["metrics", name] =
        (Json.ofMembers
          [ ("rule_count", .ofNat server.service.engine.knowledgeBase.size),
            ("symptom_count", .ofNat server.service.engine.knowledgeBase.symptomNames.length),
            ("history_count", .ofNat server.service.history.size) ]).at? [name] :=
      Json.at?_ofMembers_cons (by simp) (by simp) _
    _ = (Json.ofNat number).at? [] := Json.at?_ofMembers_cons (by simp) inSizes _

/-- The sessions that are answered are the newest ones up to the limit, if there is one. -/
theorem lists_of_asksForNewest
    {limit : Option Nat}
    (asks : call.request.AsksForNewest limit) :
    (server.reply call).Lists
      (min (limit.getD server.service.history.size) server.service.history.size) := by
  have lists := lists_listJson Session.toJson
    (server.sessions.take
      (min (limit.getD server.service.history.capacity) server.service.history.capacity))
  rw [← server.reply_of_asksForNewest asks, List.length_take] at lists
  -- There are no more sessions than the capacity, so only a limit can cut the list.
  have bounded : server.sessions.length ≤ server.service.history.capacity :=
    server.service.history.bounded
  have sameLength :
      min (min (limit.getD server.service.history.capacity) server.service.history.capacity)
          server.sessions.length =
        min (limit.getD server.sessions.length) server.sessions.length := by
    cases limit with
    | none => rw [Option.getD_none, Option.getD_none, min_self, min_self, min_eq_right bounded]
    | some limit =>
        rw [Option.getD_some, Option.getD_some, min_assoc, min_eq_right bounded]
  rw [sameLength] at lists
  exact lists

theorem agrees : server.Agrees := by
  refine
    { rules := ?rules
      symptoms := ?symptoms
      sessions := ?sessions }
  case rules =>
      intro health rules asksHealth asksRules
      refine ⟨server.service.engine.knowledgeBase.size,
        server.at?_reply_health asksHealth (by simp), ?_⟩
      have isRoute : Route.ofPath? "/api/v1/rules".toList = some .rules := by decide
      rw [server.reply_of_gets asksRules isRoute]
      exact lists_listJson _ _
  case symptoms =>
      intro health symptoms asksHealth asksSymptoms
      refine ⟨server.service.engine.knowledgeBase.symptomNames.length,
        server.at?_reply_health asksHealth (by simp), ?_⟩
      have isRoute : Route.ofPath? "/api/v1/symptoms".toList = some .symptoms := by decide
      rw [server.reply_of_gets asksSymptoms isRoute]
      exact lists_listJson _ _
  case sessions =>
      intro health asksHealth
      have limited (newest : Call) limit (asks : newest.request.AsksForNewest (some limit)) :
          (server.reply newest).Lists (min limit server.service.history.size) :=
        server.lists_of_asksForNewest asks
      refine ⟨server.service.history.size, server.at?_reply_health asksHealth (by simp), ?_,
        limited, ?_⟩
      · intro newest asks
        have lists := server.lists_of_asksForNewest asks
        rwa [Option.getD_none, min_self] at lists
      · intro newest limit small isGet isTarget
        exact limited newest limit (Request.asksForNewest_limit small isGet isTarget)

/-! ## Leaving calls out -/

/-- The call is neither an accepted request for a diagnosis nor one to remove the sessions. -/
structure OnlyReads (server : Server) (call : Call) : Prop where
  /-- No diagnosis is answered. -/
  notAccepted : ¬server.Accepts call
  /-- The sessions are not to be removed. -/
  notRemoval : ¬call.IsRemoval

/-- A call that only reads changes nothing. -/
theorem step_of_onlyReads
    (onlyReads : server.OnlyReads call) :
    server.step call = server := by
  have notPosted : call.posted? server.service.engine = none :=
    server.posted?_eq_none_of_not_accepts onlyReads.notAccepted
  exact server.step_of_posted?_eq_none notPosted onlyReads.notRemoval

/-- Whether a call only reads does not depend on the calls before it. -/
theorem onlyReads_step
    (onlyReads : server.OnlyReads call)
    (earlier : Call) :
    (server.step earlier).OnlyReads call := by
  refine ⟨?_, onlyReads.notRemoval⟩
  rw [accepts_iff, engine_step, ← accepts_iff]
  exact onlyReads.notAccepted

/-- The entries of a list that are marked as staying. -/
def staying {α : Type} (marked : List (α × Bool)) : List α :=
  (marked.filter (·.2)).map (·.1)

@[simp] theorem staying_cons_true {α : Type} (entry : α) (marked : List (α × Bool)) :
    staying ((entry, true) :: marked) = entry :: staying marked := rfl

@[simp] theorem staying_cons_false {α : Type} (entry : α) (marked : List (α × Bool)) :
    staying ((entry, false) :: marked) = staying marked := rfl

/--
A run from which any calls that only read are left out ends in the same way, and
the calls that stay get the same answers.
-/
theorem leave_out_reads
    {calls : List (Call × Bool)}
    (onlyRead : ∀ call, (call, false) ∈ calls → server.OnlyReads call) :
    server.after (staying calls) = server.after (calls.map (·.1)) ∧
      server.transcript (staying calls) =
        staying ((server.transcript (calls.map (·.1))).zip (calls.map (·.2))) := by
  -- A call that is left out would not change the server; any other starts both runs alike.
  induction calls generalizing server with
  | nil => exact ⟨rfl, rfl⟩
  | cons marked calls inductionHypothesis =>
      obtain ⟨call, stays⟩ := marked
      have later (other : Call) (member : (other, false) ∈ calls) : server.OnlyReads other :=
        onlyRead other (List.mem_cons_of_mem _ member)
      cases stays with
      | true =>
          obtain ⟨sameServer, sameAnswers⟩ := inductionHypothesis (server.step call)
            fun other member => server.onlyReads_step (later other member) call
          refine ⟨sameServer, ?_⟩
          rw [staying_cons_true, transcript, sameAnswers]
          rfl
      | false =>
          have unchanged := server.step_of_onlyReads (onlyRead call List.mem_cons_self)
          obtain ⟨sameServer, sameAnswers⟩ := inductionHypothesis server later
          rw [staying_cons_false, sameServer, sameAnswers, List.map_cons, List.map_cons, transcript,
            List.zip_cons_cons, staying_cons_false, unchanged, after, after, List.foldl_cons,
            unchanged]
          exact ⟨rfl, rfl⟩

/-- Reading leaves no trace, and what is read fits together. -/
structure ReadsPurely (server : Server) : Prop where
  /-- A call that only reads changes neither the service nor the history file. -/
  unchanged (call : Call) (onlyReads : server.OnlyReads call) :
    server.step call = server
  /-- The calls of a run are answered as in a run with any calls besides them that only read. -/
  leftOut (calls : List (Call × Bool))
      (onlyRead : ∀ call, (call, false) ∈ calls → server.OnlyReads call) :
    server.after (staying calls) = server.after (calls.map (·.1)) ∧
      server.transcript (staying calls) =
        staying ((server.transcript (calls.map (·.1))).zip (calls.map (·.2)))
  /-- The answers agree about sizes. -/
  agrees : server.Agrees

/--
Whatever a server has been through, calls that only read change nothing about
it, so that other calls are answered as without them, and what they are answered
with agrees about sizes.
-/
theorem reads_leave_no_trace (server : Server) : server.ReadsPurely :=
  { unchanged := fun _ onlyReads => server.step_of_onlyReads onlyReads
    leftOut := fun _ onlyRead => server.leave_out_reads onlyRead
    agrees := server.agrees }

end Server
end Service
end FaultFinder
