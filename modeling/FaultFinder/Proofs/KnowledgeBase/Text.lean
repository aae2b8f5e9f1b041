import FaultFinder.Proofs.Binary64.Word
import FaultFinder.Proofs.Json.Format
import FaultFinder.Proofs.KnowledgeBase
import FaultFinder.Proofs.Numeral
import FaultFinder.Proofs.Startup

/-!
# Reading rule tables back

A rule is read back from its text whenever its confidence is finite, and so are
lists of such rules.  The confidences of a knowledge base are finite, and a
table that was accepted once is accepted again.  So a knowledge base is read
back from the text of its rules, down to the last bit of a confidence, and a
service that is started with this text makes the same diagnoses.
-/

namespace FaultFinder

/-! ## Confidences -/

namespace Binary64

theorem isFinite_of_inUnitInterval
    {number : Binary64}
    (inRange : number.inUnitInterval = true) :
    number.IsFinite := by
  cases number with
  | nan => cases inRange
  | infinity negative => cases inRange
  | finite negative units onGrid => trivial

/-- Rounding a decimal gives a finite number or an infinity. -/
theorem ofDecimal_cases
    (negative : Bool)
    (significand : Nat)
    (exponent : Int) :
    (ofDecimal negative significand exponent).IsFinite ∨
      ofDecimal negative significand exponent = .infinity negative := by
  rw [ofDecimal_eq_nearest, nearest]
  split
  · exact .inl trivial
  · exact .inr rfl

end Binary64

namespace Json

theorem binary64?_ofBinary64
    {number : Binary64}
    (isFinite : number.IsFinite) :
    (ofBinary64 number).binary64? = some number := by
  obtain ⟨negative, units, onGrid, rfl⟩ := Binary64.exists_finite isFinite
  rw [ofBinary64, binary64?, Layout.toBinary64_numeral]

theorem isFinite_of_binary64?
    {value : Json}
    {number : Binary64}
    (isRead : value.binary64? = some number) :
    number.IsFinite := by
  cases value with
  | number numeral =>
      have rounded := Binary64.ofDecimal_cases numeral.negative numeral.significand numeral.scale
      rw [← Numeral.toBinary64] at rounded
      rw [binary64?] at isRead
      rcases rounded with isFinite | isInfinity
      · split at isRead
        · cases isRead
        · cases isRead
          exact isFinite
      · rw [isInfinity] at isRead
        cases isRead
  | null => cases isRead
  | bool value => cases isRead
  | text content => cases isRead
  | array items => cases isRead
  | object members => cases isRead

end Json

/-! ## Rules -/

namespace Rule

theorem fields?_toJson (rule : Rule) :
    rule.toJson.fields? fieldNames =
      some
        [ .ofNat rule.id.toNat,
          .ofString rule.name,
          .ofList Json.ofString rule.symptoms,
          .ofBinary64 rule.baseConfidence,
          .ofString rule.remedy ] := by
  have distinct : fieldNames.Nodup := by decide
  exact Json.fields?_ofMembers distinct

theorem ofJson?_toJson
    {rule : Rule}
    (isFinite : rule.baseConfidence.IsFinite) :
    ofJson? rule.toJson = some rule := by
  have symptoms :
      (Json.ofList Json.ofString rule.symptoms).list? Json.string? = some rule.symptoms :=
    Json.list?_ofList fun symptom _ => Json.string?_ofString symptom
  have confidence := Json.binary64?_ofBinary64 isFinite
  rw [ofJson?, fields?_toJson]
  simp only [Option.bind_eq_bind, Option.bind_some, Json.uint32?_ofNat_toNat,
    Json.string?_ofString, symptoms, confidence, Option.pure_def]

/-- The confidence of a rule that is read is finite. -/
theorem isFinite_of_ofJson?
    {value : Json}
    {rule : Rule}
    (read : ofJson? value = some rule) :
    rule.baseConfidence.IsFinite := by
  unfold ofJson? at read
  simp only [Option.bind_eq_bind, Option.bind_eq_some_iff] at read
  obtain ⟨fields, _, read⟩ := read
  split at read
  · simp only [Option.bind_eq_some_iff] at read
    obtain ⟨_, _, _, _, _, _, _, readConfidence, _, _, made⟩ := read
    cases made
    exact Json.isFinite_of_binary64? readConfidence
  · cases read

/-- Rules as JSON records. -/
def format : Json.Format Rule :=
  { toJson
    ofJson?
    IsWritable := fun rule => rule.baseConfidence.IsFinite
    ofJson?_toJson
    isWritable_of_ofJson? := isFinite_of_ofJson? }

end Rule

/-! ## Tables -/

namespace KnowledgeBase

/-- The value of the rules. -/
def rulesJson (knowledgeBase : KnowledgeBase) : Json :=
  .ofList Rule.toJson knowledgeBase.rules

/-- A text stands for the rules of a knowledge base, and so does a file with this text. -/
structure IsTableOf (text : String) (knowledgeBase : KnowledgeBase) : Prop where
  /-- The same rules are read in the same order, and nothing is wrong with them. -/
  isRead : read text = .ok knowledgeBase
  /-- The confidences that are read have the words that the table was made of, bit for bit. -/
  sameWords
      (again : KnowledgeBase) (readAgain : read text = .ok again)
      (words : List UInt64)
      (made : knowledgeBase.rules.map (·.baseConfidence) = words.map Binary64.ofWord) :
    again.rules.map (·.baseConfidence.toWord) = words
  /-- With what is read, every certainty gives the same diagnoses, or it is refused. -/
  diagnosed
      (again : KnowledgeBase) (readAgain : read text = .ok again)
      (certainty : Binary64) (observed : SymptomSet) :
    (Engine.withCertainty again certainty).map (·.diagnose observed) =
      (Engine.withCertainty knowledgeBase certainty).map (·.diagnose observed)
  /-- A service that is started with the file has an engine that was made without it. -/
  started
      (original : Engine) (holds : original.knowledgeBase = knowledgeBase)
      (settings : Settings) (sameCertainty : settings.engine.userCertainty = original.userCertainty)
      (path : String) (named : settings.engine.knowledgeBasePath = some path)
      (files : String → File) (written : files path = .content text.toUTF8)
      (history : History) (opened : (Startup.history settings.history files).outcome = .ok history) :
    (Startup.service settings files).outcome = .ok (.ofParts original history)

/-- The rules of a knowledge base can be taken from one service to another. -/
structure IsExported (knowledgeBase : KnowledgeBase) : Prop where
  /-- The text of the rules is a table of them, in each layout. -/
  written (layout : Json → String) (inLayouts : layout ∈ Json.layouts) :
    IsTableOf (layout knowledgeBase.rulesJson) knowledgeBase
  /-- A service answers with the rules, and what it answers is read back from its text. -/
  served
      (service : Service) (holds : service.engine.knowledgeBase = knowledgeBase)
      (request : Service.Request) (isGet : request.method = .get)
      (asks : request.path = "/api/v1/rules".toList)
      (circumstances : Service.Circumstances) (file : File) :
    ∃ value, (service.handle request circumstances file).reply = .ok value ∧
      ∀ layout ∈ Json.layouts,
        ((Json.read (Text.symbols (layout value))).bind (·.fields? ["data", "count"])) =
          some [knowledgeBase.rulesJson, .ofNat knowledgeBase.size]

theorem isFinite_of_mem
    {knowledgeBase : KnowledgeBase}
    {rule : Rule}
    (member : rule ∈ knowledgeBase.rules) :
    rule.baseConfidence.IsFinite :=
  Binary64.isFinite_of_inUnitInterval (knowledgeBase.isSound_of_mem member).inRange

theorem read_rulesJson
    {layout : Json → String}
    (inLayouts : layout ∈ Json.layouts)
    (knowledgeBase : KnowledgeBase) :
    read (layout knowledgeBase.rulesJson) = .ok knowledgeBase := by
  have rules :
      readRules (Text.symbols (layout knowledgeBase.rulesJson)) = some knowledgeBase.rules :=
    Rule.format.list.read_symbols inLayouts fun _ => isFinite_of_mem
  rw [read, rules]
  exact knowledgeBase.ofRules_rules

/-- The words of confidences are those that the confidences were made of. -/
theorem map_toWord_eq
    {knowledgeBase : KnowledgeBase}
    {words : List UInt64}
    (made : knowledgeBase.rules.map (·.baseConfidence) = words.map Binary64.ofWord) :
    knowledgeBase.rules.map (·.baseConfidence.toWord) = words := by
  have isFinite : ∀ word ∈ words, (Binary64.ofWord word).IsFinite := by
    intro word member
    have among : Binary64.ofWord word ∈ knowledgeBase.rules.map (·.baseConfidence) := by
      rw [made]
      exact List.mem_map_of_mem member
    obtain ⟨rule, declared, same⟩ := List.mem_map.1 among
    exact same ▸ isFinite_of_mem declared
  calc
    knowledgeBase.rules.map (·.baseConfidence.toWord) =
        (knowledgeBase.rules.map (·.baseConfidence)).map Binary64.toWord := by
      rw [List.map_map]
      rfl
    _ = words.map (Binary64.toWord ∘ Binary64.ofWord) := by rw [made, List.map_map]
    _ = words.map id := List.map_congr_left fun word member =>
        Binary64.toWord_ofWord (isFinite word member)
    _ = words := List.map_id words

/-- What is read from a text is also found by a start whose settings name a file with the text. -/
theorem outcome_knowledgeBase
    {text : String}
    {knowledgeBase : KnowledgeBase}
    (isRead : read text = .ok knowledgeBase)
    {settings : EngineSettings}
    {path : String}
    (named : settings.knowledgeBasePath = some path)
    {files : String → File}
    (written : files path = .content text.toUTF8) :
    (Startup.knowledgeBase settings files).outcome = .ok knowledgeBase := by
  have decoded : (files path).read?.bind String.fromUTF8? = some text := by
    rw [written, File.read?, Option.bind_some, Text.fromUTF8?_toUTF8]
  rw [Startup.outcome_knowledgeBase, named]
  simp only [Startup.readTable, decoded, isRead]
  rfl

theorem isTableOf_of_read
    {text : String}
    {knowledgeBase : KnowledgeBase}
    (isRead : read text = .ok knowledgeBase) :
    IsTableOf text knowledgeBase := by
  refine { isRead, sameWords := ?sameWords, diagnosed := ?diagnosed, started := ?started }
  case sameWords =>
      intro again readAgain words made
      rw [isRead] at readAgain
      exact Except.ok.inj readAgain ▸ map_toWord_eq made
  case diagnosed =>
      intro again readAgain certainty observed
      rw [isRead] at readAgain
      rw [Except.ok.inj readAgain]
  case started =>
      rintro original rfl settings sameCertainty path named files written history opened
      have isEngine :
          Engine.withCertainty original.knowledgeBase settings.engine.userCertainty =
            .ok original := by
        rw [sameCertainty, Engine.withCertainty, dif_pos original.inRange]
      have found := outcome_knowledgeBase isRead named written
      exact Startup.outcome_service_eq_ok_iff.2 ⟨_, _, _, found, isEngine, opened, rfl⟩

/--
Every knowledge base is read back from the text of its rules in each layout, as
it is written to a file or answered by a service.  So it makes the same
diagnoses wherever its rules are taken.
-/
theorem written_rules_read_back (knowledgeBase : KnowledgeBase) : knowledgeBase.IsExported := by
  refine { written := ?written, served := ?served }
  case written =>
      intro layout inLayouts
      exact isTableOf_of_read (read_rulesJson inLayouts knowledgeBase)
  case served =>
      rintro service rfl request isGet asks circumstances file
      refine ⟨Service.listJson Rule.toJson service.engine.knowledgeBase.rules, ?reply, ?text⟩
      case reply =>
          have isRoute : Service.Route.ofPath? request.path = some .rules := by
            rw [asks]
            decide
          simp only [Service.handle, isRoute, isGet, Service.Route.allows, Bool.not_true,
            Bool.false_eq_true, if_false, Service.readReply]
      case text =>
          intro layout inLayouts
          have distinct : ["data", "count"].Nodup := by decide
          rw [Json.read_layout inLayouts, Option.bind_some]
          exact Json.fields?_ofMembers distinct

/-- One rule with the greatest number, a symptom without characters and the least confidence. -/
def faint : KnowledgeBase :=
  { rules :=
      [ { id := 4294967295
          name := "\"\\"
          symptoms := ["", "😀"]
          baseConfidence := .finite false 1 (by decide +kernel)
          remedy := "\x00" } ]
    sound := by decide +kernel }

theorem written_rules_read_back_faint :
    read faint.rulesJson.indented = .ok faint ∧
      faint.rules.map (·.baseConfidence.toWord) = [1] ∧
      (Startup.service
          { engine := { knowledgeBasePath := some "rules" } }
          fun _ => .content faint.rulesJson.compact.toUTF8).outcome =
        .ok (.ofParts (.ofKnowledgeBase faint) .usual) := by
  have exported := written_rules_read_back faint
  have compact : Json.compact ∈ Json.layouts := List.mem_cons_self
  have indented : Json.indented ∈ Json.layouts := List.mem_cons_of_mem _ List.mem_cons_self
  have isRead := (exported.written _ indented).isRead
  refine ⟨isRead, ?words, ?started⟩
  case words =>
      exact (exported.written _ indented).sameWords faint isRead [1] (by decide +kernel)
  case started =>
      exact (exported.written _ compact).started (.ofKnowledgeBase faint) rfl
        { engine := { knowledgeBasePath := some "rules" } } rfl "rules" rfl
        (fun _ => .content faint.rulesJson.compact.toUTF8) rfl .usual rfl

end KnowledgeBase

end FaultFinder
