import FaultFinder.History
import FaultFinder.KnowledgeBase.Json
import FaultFinder.Proofs.Json.Fields
import FaultFinder.Proofs.Json.Spelling
import Mathlib.Data.Option.Basic
import Mathlib.Logic.Relation

/-!
# How records are presented

Rules, findings and sessions are read from exactly those records whose fields
fit them.  How a text presents these records makes no difference: neither how it
spells their tokens, nor in which style it gives the records.  A record that lacks
a field, has it twice or null, or is an array of another length is not read at all.
-/

namespace FaultFinder

open Json (Shape RecordField ReadsRecords Respects IsTextOf Restyles Breaks)

/-! ## The fields of the records -/

namespace Rule

/-- The fields of a rule. -/
def fields : List (RecordField Rule) :=
  [ .ofPart "id" (·.id) (Json.respects_plain Json.uint32?) rfl,
    .ofPart "name" (·.name) (Json.respects_plain Json.string?) rfl,
    .ofPart "symptoms" (·.symptoms) (Json.respects_plain (Json.list? Json.string?)) rfl,
    .ofPart "base_confidence" (·.baseConfidence) (Json.respects_plain Json.binary64?) rfl,
    .ofPart "remedy" (·.remedy) (Json.respects_plain Json.string?) rfl ]

/-- Where a rule has records: it is one. -/
def shape : Shape :=
  .ofFields fields

theorem readsRecords : ReadsRecords fields ofJson? := by
  apply ReadsRecords.ofParts
  intro values rule
  constructor
  · intro isRead
    split at isRead
    · simp only [Option.bind_eq_bind, Option.bind_eq_some_iff, Option.pure_def] at isRead
      obtain ⟨_, id, _, name, _, symptoms, _, baseConfidence, _, remedy, equal⟩ := isRead
      cases equal
      exact .cons id (.cons name (.cons symptoms (.cons baseConfidence (.cons remedy .nil))))
    · cases isRead
  · rintro (_ | ⟨id, _ | ⟨name, _ | ⟨symptoms, _ | ⟨baseConfidence, _ | ⟨remedy, _ | _⟩⟩⟩⟩⟩)
    simp only [RecordField.ofPart] at id name symptoms baseConfidence remedy
    simp only [id, name, symptoms, baseConfidence, remedy]
    rfl

theorem respects : Respects shape ofJson? :=
  readsRecords.respects (by decide)

end Rule

namespace Finding

/-- The fields of a finding. -/
def fields : List (RecordField Finding) :=
  [ .ofPart "rule_id" (·.ruleId) (Json.respects_plain Json.uint32?) rfl,
    .ofPart "rule_name" (·.ruleName) (Json.respects_plain Json.string?) rfl,
    .ofPart "remedy" (·.remedy) (Json.respects_plain Json.string?) rfl,
    .ofPart "confidence_percent" (·.confidencePercent) (Json.respects_plain Json.uint8?) rfl,
    .ofPart "matched_symptom_count" (·.matchedSymptomCount) (Json.respects_plain Json.count?) rfl,
    .ofPart "total_symptom_count" (·.totalSymptomCount) (Json.respects_plain Json.count?) rfl ]

/-- Where a finding has records: it is one. -/
def shape : Shape :=
  .ofFields fields

theorem readsRecords : ReadsRecords fields ofJson? := by
  apply ReadsRecords.ofParts
  intro values finding
  constructor
  · intro isRead
    split at isRead
    · simp only [Option.bind_eq_bind, Option.bind_eq_some_iff, Option.pure_def] at isRead
      obtain ⟨_, ruleId, _, ruleName, _, remedy, _, percent, _, matched, _, total, equal⟩ := isRead
      cases equal
      exact .cons ruleId (.cons ruleName (.cons remedy (.cons percent (.cons matched
        (.cons total .nil)))))
    · cases isRead
  · rintro (_ | ⟨ruleId, _ | ⟨ruleName, _ | ⟨remedy, _ | ⟨percent, _ | ⟨matched, _ | ⟨total,
      _ | _⟩⟩⟩⟩⟩⟩)
    simp only [RecordField.ofPart] at ruleId ruleName remedy percent matched total
    simp only [ruleId, ruleName, remedy, percent, matched, total]
    rfl

theorem respects : Respects shape ofJson? :=
  readsRecords.respects (by decide)

end Finding

namespace Session

/-- The identifier that a value is. -/
def id? (value : Json) : Option Uuid :=
  value.string?.bind fun text => Uuid.read text.toList

/-- The timestamp that a value is. -/
def timestamp? (value : Json) : Option Timestamp :=
  value.string?.bind fun text => Timestamp.read text.toList

/-- The fields of a session. -/
def fields : List (RecordField Session) :=
  [ .ofPart "id" (·.id) (Json.respects_plain id?) rfl,
    .ofPart "timestamp" (·.timestamp) (Json.respects_plain timestamp?) rfl,
    .ofPart "observed_symptoms" (·.observedSymptoms)
      (Json.respects_plain (Json.list? Json.string?)) rfl,
    .ofPart "results" (·.findings) (Json.respects_list Finding.respects) rfl ]

/-- Where a session has records: it is one, and its findings are as well. -/
def shape : Shape :=
  .ofFields fields

theorem readsRecords : ReadsRecords fields ofJson? := by
  apply ReadsRecords.ofParts
  intro values session
  constructor
  · intro isRead
    split at isRead
    · simp only [Option.bind_eq_bind, Option.bind_eq_some_iff, Option.pure_def] at isRead
      obtain ⟨_, idText, _, id, _, timestampText, _, timestamp, _, observed, _, findings, equal⟩ :=
        isRead
      cases equal
      have isId : id? _ = some _ := Option.bind_eq_some_iff.2 ⟨_, idText, id⟩
      have isTimestamp : timestamp? _ = some _ :=
        Option.bind_eq_some_iff.2 ⟨_, timestampText, timestamp⟩
      exact .cons isId (.cons isTimestamp (.cons observed (.cons findings .nil)))
    · cases isRead
  · rintro (_ | ⟨isId, _ | ⟨isTimestamp, _ | ⟨observed, _ | ⟨findings, _ | _⟩⟩⟩⟩)
    obtain ⟨_, idText, id⟩ := Option.bind_eq_some_iff.1 isId
    obtain ⟨_, timestampText, timestamp⟩ := Option.bind_eq_some_iff.1 isTimestamp
    simp only [RecordField.ofPart] at observed findings
    simp only [idText, id, timestampText, timestamp, observed, findings, Option.bind_eq_bind,
      Option.bind_some]
    rfl

theorem respects : Respects shape ofJson? :=
  readsRecords.respects (by decide)

end Session

/-! ## Reading texts -/

/--
How a text presents the records that are read from it makes no difference, and
without all their fields it is not read.
-/
structure IgnoresPresentation
    {Input Output : Type}
    (symbols : Input → List Text.Symbol)
    (shape : Shape)
    (read : Input → Output)
    (unread : Output) :
    Prop where
  /-- What is read is the text of a value. -/
  isText : ∀ {input},
    read input ≠ unread → ∃ value, IsTextOf (symbols input) value
  /-- Any text of this value is read in the same way, in whichever style it gives the records. -/
  kept : ∀ {input other value restyled},
    read input ≠ unread → IsTextOf (symbols input) value →
      Relation.ReflTransGen (Restyles shape) value restyled →
      IsTextOf (symbols other) restyled → read other = read input
  /-- Once one of the records is none any more, no text is read. -/
  broken : ∀ {input other value restyled changed},
    read input ≠ unread → IsTextOf (symbols input) value →
      Relation.ReflTransGen (Restyles shape) value restyled → Breaks shape restyled changed →
      IsTextOf (symbols other) changed → read other = unread

/-- What is read as an element are the texts of the records whose fields fit it. -/
def ReadsTexts {α : Type} (fields : List (RecordField α)) (read : List Text.Symbol → Option α) :
    Prop :=
  ∀ text element,
    read text = some element ↔
      ∃ value values,
        IsTextOf text value ∧ value.fields? (fields.map (·.name)) = some values ∧
          List.Forall₂ (fun field value => field.Fits element value) fields values

theorem Json.ReadsRecords.readsTexts
    {α : Type}
    {fields : List (RecordField α)}
    {read? : Json → Option α}
    (reads : ReadsRecords fields read?) :
    ReadsTexts fields fun text => (Json.read text).bind read? := by
  intro text element
  rw [Option.bind_eq_some_iff]
  apply exists_congr
  intro value
  rw [Json.read_eq_some_iff_isTextOf, reads, exists_and_left]

/-- After any number of changes of style the same element is read. -/
theorem Json.Respects.kept_all
    {α : Type}
    {shape : Shape}
    {read? : Json → Option α}
    (respects : Respects shape read?)
    {value restyled : Json}
    (restyles : Relation.ReflTransGen (Restyles shape) value restyled)
    {element : α}
    (isRead : read? value = some element) :
    read? restyled = some element := by
  induction restyles with
  | refl => exact isRead
  | tail _ last inductionHypothesis => exact respects.kept last inductionHypothesis

/-- What is read depends only on what the value of a text is read as. -/
theorem Json.Respects.ignoresPresentation
    {Input Output α : Type}
    {shape : Shape}
    {read? : Json → Option α}
    (respects : Respects shape read?)
    {symbols : Input → List Text.Symbol}
    {read : Input → Output}
    {unread : Output}
    {accept : α → Output}
    (reads : ∀ input,
      read input = ((Json.read (symbols input)).bind read?).elim unread accept) :
    IgnoresPresentation symbols shape read unread := by
  have readsText :
      ∀ {input value},
        IsTextOf (symbols input) value → read input = (read? value).elim unread accept := by
    intro input value isText
    rw [reads, Json.read_eq_some_iff_isTextOf.2 isText, Option.bind_some]
  have readsValue :
      ∀ {input value},
        read input ≠ unread → IsTextOf (symbols input) value →
          ∃ element, read? value = some element := by
    intro input value isRead isText
    rw [readsText isText] at isRead
    apply Option.ne_none_iff_exists'.1
    intro isNone
    rw [isNone] at isRead
    exact isRead rfl
  refine
    { isText := ?isText
      kept := ?kept
      broken := ?broken }
  case isText =>
      intro input isRead
      rw [reads] at isRead
      cases isValue : Json.read (symbols input) with
      | none =>
          rw [isValue] at isRead
          exact absurd rfl isRead
      | some value => exact ⟨value, Json.read_eq_some_iff_isTextOf.1 isValue⟩
  case kept =>
      intro input other value restyled isRead isText restyles isOtherText
      obtain ⟨element, isElement⟩ := readsValue isRead isText
      rw [readsText isText, readsText isOtherText, isElement, respects.kept_all restyles isElement]
  case broken =>
      intro input other value restyled changed isRead isText restyles breaks isOtherText
      obtain ⟨element, isElement⟩ := readsValue isRead isText
      have isElementRestyled := respects.kept_all restyles isElement
      rw [readsText isOtherText, respects.broken breaks isElementRestyled, Option.elim_none]

theorem Json.Respects.ignoresPresentation_bind
    {α : Type}
    {shape : Shape}
    {read? : Json → Option α}
    (respects : Respects shape read?) :
    IgnoresPresentation id shape (fun text => (Json.read text).bind read?) none :=
  respects.ignoresPresentation fun text =>
    (Option.elim_none_some id ((Json.read text).bind read?)).symm

theorem KnowledgeBase.read_eq_elim
    (text : String) :
    read text =
      (readRules (Text.symbols text)).elim
        (.error (.unreadable "the text is not a list of rules")) ofRules := by
  rw [read]
  cases readRules (Text.symbols text) with
  | none => rfl
  | some rules => rfl

theorem History.openFile_content
    (bytes : ByteArray)
    (capacity : Nat) :
    openFile (.content bytes) capacity =
      (Session.readList (Text.symbolsOfBytes bytes)).elim
        (.error (.serialization "the file is not a list of sessions"))
        fun sessions => .ok (ofSessions sessions capacity true) := by
  rw [openFile, load]
  cases Session.readList (Text.symbolsOfBytes bytes) with
  | none => rfl
  | some sessions => rfl

/--
Rules, findings and sessions are read from the texts of records whose fields fit
them.  How these records are presented makes no difference, neither to what is
read nor to lists of them, rule tables and the files of histories.
-/
theorem readers_ignorePresentation :
    ReadsTexts Rule.fields Rule.read ∧
      ReadsTexts Finding.fields Finding.read ∧
      ReadsTexts Session.fields Session.read ∧
      IgnoresPresentation id Rule.shape Rule.read none ∧
      IgnoresPresentation id Finding.shape Finding.read none ∧
      IgnoresPresentation id Session.shape Session.read none ∧
      IgnoresPresentation id (.list Rule.shape) KnowledgeBase.readRules none ∧
      IgnoresPresentation id (.list Finding.shape)
        (fun text => (Json.read text).bind (Json.list? Finding.ofJson?)) none ∧
      IgnoresPresentation id (.list Session.shape) Session.readList none ∧
      IgnoresPresentation Text.symbols (.list Rule.shape) KnowledgeBase.read
        (.error (.unreadable "the text is not a list of rules")) ∧
      ∀ capacity,
        IgnoresPresentation Text.symbolsOfBytes (.list Session.shape)
          (fun bytes => History.openFile (.content bytes) capacity)
          (.error (.serialization "the file is not a list of sessions")) := by
  have rules := Json.respects_list Rule.respects
  have findings := Json.respects_list Finding.respects
  have sessions := Json.respects_list Session.respects
  refine ⟨Rule.readsRecords.readsTexts, Finding.readsRecords.readsTexts,
    Session.readsRecords.readsTexts, ?rule, ?finding, ?session, ?rules, ?findings, ?sessions,
    ?knowledgeBase, ?history⟩
  case rule => exact Rule.respects.ignoresPresentation_bind
  case finding => exact Finding.respects.ignoresPresentation_bind
  case session => exact Session.respects.ignoresPresentation_bind
  case rules => exact rules.ignoresPresentation_bind
  case findings => exact findings.ignoresPresentation_bind
  case sessions => exact sessions.ignoresPresentation_bind
  case knowledgeBase => exact rules.ignoresPresentation KnowledgeBase.read_eq_elim
  case history =>
      intro capacity
      exact sessions.ignoresPresentation fun bytes => History.openFile_content bytes capacity

/-- What a click says about a failing disk. -/
def Finding.click : Finding :=
  { ruleId := 1
    ruleName := "Failing disk"
    remedy := "Back up"
    confidencePercent := 60
    matchedSymptomCount := 1
    totalSymptomCount := 3 }

/-- The values of the fields of this finding, except for the last one. -/
def Finding.clickItems : List Json :=
  [.ofNat 1, .ofString "Failing disk", .ofString "Back up", .ofNat 60, .ofNat 1]

/-- A finding is read from its object and from the array of its fields, but not without the last. -/
theorem readers_ignorePresentation_click :
    Finding.read (Text.symbols Finding.click.toJson.compact) = some Finding.click ∧
      Finding.read (Text.symbols (Json.array (Finding.clickItems ++ [.ofNat 3])).compact) =
        some Finding.click ∧
      Finding.read (Text.symbols (Json.array Finding.clickItems).compact) = none := by
  obtain ⟨_, _, _, _, ignores, _⟩ := readers_ignorePresentation
  have isTextOf (value : Json) : IsTextOf (id (Text.symbols value.compact)) value :=
    Json.read_eq_some_iff_isTextOf.1 (Json.read_layout List.mem_cons_self value)
  have isRead : Finding.read (Text.symbols Finding.click.toJson.compact) = some Finding.click := by
    decide +kernel
  have isAccepted : Finding.read (Text.symbols Finding.click.toJson.compact) ≠ none := by
    rw [isRead]
    exact Option.some_ne_none _
  have listed :
      Restyles Finding.shape Finding.click.toJson (.array (Finding.clickItems ++ [.ofNat 3])) := by
    apply Restyles.listed
    simp [Finding.fields, Finding.click, Finding.clickItems, RecordField.ofPart]
  have shortened :
      Breaks Finding.shape (.array (Finding.clickItems ++ [.ofNat 3]))
        (.array Finding.clickItems) :=
    @Breaks.shortened _ Finding.clickItems [] (.ofNat 3)
  have objectText := isTextOf Finding.click.toJson
  refine ⟨isRead, ?_, ?_⟩
  · have arrayText := isTextOf (.array (Finding.clickItems ++ [.ofNat 3]))
    exact (ignores.kept isAccepted objectText (.single listed) arrayText).trans isRead
  · have shorterText := isTextOf (.array Finding.clickItems)
    exact ignores.broken isAccepted objectText (.single listed) shortened shorterText

end FaultFinder
