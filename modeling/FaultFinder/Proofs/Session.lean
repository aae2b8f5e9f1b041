import FaultFinder.Proofs.Json.Format
import FaultFinder.Proofs.Timestamp
import FaultFinder.Proofs.Uuid
import FaultFinder.Session.Json

/-!
# Reading sessions back

A session whose counts have sixty-four bits is read back from its text, in both
layouts, alone and in a list.  Every session that is read from a text has such
counts.  So writing a session that was read gives a text that stands for the
same session, and reading and writing this text once more does not change it.
-/

namespace FaultFinder

namespace Finding

/-- The counts have sixty-four bits. -/
def CountsFit (finding : Finding) : Prop :=
  finding.matchedSymptomCount < UInt64.size ∧ finding.totalSymptomCount < UInt64.size

instance (finding : Finding) : Decidable finding.CountsFit :=
  inferInstanceAs (Decidable (_ ∧ _))

theorem fields?_toJson (finding : Finding) :
    finding.toJson.fields? fieldNames =
      some
        [ .ofNat finding.ruleId.toNat,
          .ofString finding.ruleName,
          .ofString finding.remedy,
          .ofNat finding.confidencePercent.toNat,
          .ofNat finding.matchedSymptomCount,
          .ofNat finding.totalSymptomCount ] := by
  have distinct : fieldNames.Nodup := by decide
  exact Json.fields?_ofMembers distinct

theorem ofJson?_toJson
    {finding : Finding}
    (fit : finding.CountsFit) :
    ofJson? finding.toJson = some finding := by
  have matched := Json.count?_ofNat fit.1
  have total := Json.count?_ofNat fit.2
  rw [ofJson?, fields?_toJson]
  simp only [Option.bind_eq_bind, Option.bind_some, Json.uint32?_ofNat_toNat,
    Json.string?_ofString, Json.uint8?_ofNat_toNat, matched, total, Option.pure_def]

/-- The counts of a finding that is read have sixty-four bits. -/
theorem countsFit_of_ofJson?
    {value : Json}
    {finding : Finding}
    (read : ofJson? value = some finding) :
    finding.CountsFit := by
  unfold ofJson? at read
  simp only [Option.bind_eq_bind, Option.bind_eq_some_iff] at read
  obtain ⟨fields, _, read⟩ := read
  split at read
  · simp only [Option.bind_eq_some_iff] at read
    obtain ⟨_, _, _, _, _, _, _, _, _, readMatched, _, readTotal, made⟩ := read
    cases made
    exact ⟨Json.lt_of_count? readMatched, Json.lt_of_count? readTotal⟩
  · cases read

/-- Different findings have different values. -/
theorem eq_of_toJson_eq
    (left right : Finding)
    (same : left.toJson = right.toJson) :
    left = right := by
  have fields := congrArg (Json.fields? fieldNames) same
  rw [fields?_toJson, fields?_toJson] at fields
  simp only [Option.some.injEq, List.cons.injEq, Json.ofString, Json.ofNat, Json.text.injEq,
    Json.number.injEq, Numeral.ofNat, Numeral.mk.injEq, UInt32.toNat_inj, UInt8.toNat_inj,
    true_and, and_true] at fields
  cases left
  cases right
  simpa using fields

/-- Findings as JSON records. -/
def format : Json.Format Finding :=
  { toJson
    ofJson?
    IsWritable := CountsFit
    ofJson?_toJson
    isWritable_of_ofJson? := countsFit_of_ofJson? }

end Finding

namespace Session

/-- The counts of every finding have sixty-four bits. -/
def CountsFit (session : Session) : Prop :=
  ∀ finding ∈ session.findings, finding.CountsFit

instance (session : Session) : Decidable session.CountsFit :=
  inferInstanceAs (Decidable (∀ finding ∈ session.findings, finding.CountsFit))

theorem fields?_toJson (session : Session) :
    session.toJson.fields? fieldNames =
      some
        [ .ofString (String.ofList session.id.text),
          .ofString (String.ofList session.timestamp.text),
          .ofList Json.ofString session.observedSymptoms,
          .ofList Finding.toJson session.findings ] := by
  have distinct : fieldNames.Nodup := by decide
  exact Json.fields?_ofMembers distinct

theorem ofJson?_toJson
    {session : Session}
    (fit : session.CountsFit) :
    ofJson? session.toJson = some session := by
  have symptoms :
      (Json.ofList Json.ofString session.observedSymptoms).list? Json.string? =
        some session.observedSymptoms :=
    Json.list?_ofList fun symptom _ => Json.string?_ofString symptom
  have findings :
      (Json.ofList Finding.toJson session.findings).list? Finding.ofJson? =
        some session.findings :=
    Finding.format.list.ofJson?_toJson fit
  rw [ofJson?, fields?_toJson]
  simp only [Option.bind_eq_bind, Option.bind_some, Json.string?_ofString, String.toList_ofList,
    Uuid.read_text, Timestamp.read_text, symptoms, findings, Option.pure_def]

/-- The counts in a session that is read have sixty-four bits. -/
theorem countsFit_of_ofJson?
    {value : Json}
    {session : Session}
    (read : ofJson? value = some session) :
    session.CountsFit := by
  unfold ofJson? at read
  simp only [Option.bind_eq_bind, Option.bind_eq_some_iff] at read
  obtain ⟨fields, _, read⟩ := read
  split at read
  · simp only [Option.bind_eq_some_iff] at read
    obtain ⟨_, _, _, _, _, _, _, _, _, _, _, readFindings, made⟩ := read
    cases made
    exact Finding.format.list.isWritable_of_ofJson? readFindings
  · cases read

/-- Different sessions have different values. -/
theorem eq_of_toJson_eq
    {left right : Session}
    (same : left.toJson = right.toJson) :
    left = right := by
  have fields := congrArg (Json.fields? fieldNames) same
  rw [fields?_toJson, fields?_toJson] at fields
  simp only [Option.some.injEq, List.cons.injEq, and_true, Json.ofString, Json.text.injEq,
    String.ofList_inj] at fields
  obtain ⟨sameId, sameTimestamp, sameSymptoms, sameFindings⟩ := fields
  have id : left.id = right.id := by
    have isRead := Uuid.read_text left.id
    rw [sameId, Uuid.read_text] at isRead
    exact (Option.some.inj isRead).symm
  have timestamp : left.timestamp = right.timestamp := by
    have isRead := Timestamp.read_text left.timestamp
    rw [sameTimestamp, Timestamp.read_text] at isRead
    exact (Option.some.inj isRead).symm
  have symptoms : left.observedSymptoms = right.observedSymptoms := by
    apply Json.eq_of_ofList_eq _ sameSymptoms
    intro first second sameString
    exact Option.some.inj (Json.text.inj sameString)
  have findings := Json.eq_of_ofList_eq Finding.eq_of_toJson_eq sameFindings
  cases left
  cases right
  simp only at id timestamp symptoms findings
  rw [id, timestamp, symptoms, findings]

/-! ## Texts -/

/-- A text stands for a session, and so do its bytes. -/
def IsTextOf (text : String) (session : Session) : Prop :=
  read (Text.symbols text) = some session ∧
    read (Text.symbolsOfBytes text.toUTF8) = some session

/-- A text stands for a list of sessions, and so do its bytes. -/
def IsTextOfList (text : String) (sessions : List Session) : Prop :=
  readList (Text.symbols text) = some sessions ∧
    readList (Text.symbolsOfBytes text.toUTF8) = some sessions

/-- Read a session and write it in a layout. -/
def rewrite? (layout : Json → String) (text : List Text.Symbol) : Option String :=
  (read text).map fun session => layout session.toJson

/-- Read a list of sessions and write it in a layout. -/
def rewriteList? (layout : Json → String) (text : List Text.Symbol) : Option String :=
  (readList text).map fun sessions => layout (Json.ofList toJson sessions)

/-- Sessions as JSON records. -/
def format : Json.Format Session :=
  { toJson
    ofJson?
    IsWritable := CountsFit
    ofJson?_toJson
    isWritable_of_ofJson? := countsFit_of_ofJson? }

/-- The counts in sessions that are read have sixty-four bits. -/
theorem countsFit_of_readList
    {text : List Text.Symbol}
    {sessions : List Session}
    (isRead : readList text = some sessions) :
    ∀ session ∈ sessions, session.CountsFit :=
  format.list.isWritable_of_read isRead

section Layout

variable
    {layout : Json → String}
    (inLayouts : layout ∈ Json.layouts)

include inLayouts

theorem isTextOf_layout
    {session : Session}
    (fit : session.CountsFit) :
    IsTextOf (layout session.toJson) session :=
  ⟨format.read_symbols inLayouts fit, format.read_symbolsOfBytes inLayouts fit⟩

theorem isTextOfList_layout
    {sessions : List Session}
    (fit : ∀ session ∈ sessions, session.CountsFit) :
    IsTextOfList (layout (Json.ofList toJson sessions)) sessions :=
  ⟨format.list.read_symbols inLayouts fit, format.list.read_symbolsOfBytes inLayouts fit⟩

end Layout

/--
Every session is read back from its text in both layouts, alone and in a list;
so is every session that was read from any text, and what is written for it
does not change when it is read and written once more.
-/
theorem written_sessions_read_back :
    (∀ layout ∈ Json.layouts, ∀ session : Session, session.CountsFit →
      IsTextOf (layout session.toJson) session) ∧
    (∀ layout ∈ Json.layouts, ∀ sessions : List Session,
      (∀ session ∈ sessions, session.CountsFit) →
        IsTextOfList (layout (Json.ofList toJson sessions)) sessions) ∧
    (∀ layout ∈ Json.layouts, ∀ text session, read text = some session →
      IsTextOf (layout session.toJson) session) ∧
    (∀ layout ∈ Json.layouts, ∀ text sessions, readList text = some sessions →
      IsTextOfList (layout (Json.ofList toJson sessions)) sessions) ∧
    (∀ layout ∈ Json.layouts, ∀ next text,
      ((rewrite? layout text).bind fun written => rewrite? next (Text.symbols written)) =
        rewrite? next text) ∧
    (∀ layout ∈ Json.layouts, ∀ next text,
      ((rewriteList? layout text).bind fun written =>
          rewriteList? next (Text.symbols written)) =
        rewriteList? next text) := by
  refine ⟨?alone, ?listed, ?readAlone, ?readListed, ?rewrittenAlone, ?rewrittenListed⟩
  case alone =>
      intro layout inLayouts session fit
      exact isTextOf_layout inLayouts fit
  case listed =>
      intro layout inLayouts sessions fit
      exact isTextOfList_layout inLayouts fit
  case readAlone =>
      intro layout inLayouts text session isRead
      exact isTextOf_layout inLayouts (format.isWritable_of_read isRead)
  case readListed =>
      intro layout inLayouts text sessions isRead
      exact isTextOfList_layout inLayouts (countsFit_of_readList isRead)
  case rewrittenAlone =>
      intro layout inLayouts next text
      exact format.rewrite?_bind inLayouts next text
  case rewrittenListed =>
      intro layout inLayouts next text
      exact format.list.rewrite?_bind inLayouts next text

/-- A session at the ends of the ranges: the last leap second of the earliest year. -/
def extreme : Session :=
  { id := ⟨.replicate 32 ⟨15, by decide⟩⟩
    timestamp := ⟨⟨-262143, 12, 31, by decide⟩, 86399, 1999999999, by decide⟩
    observedSymptoms := ["\\ \"\n\x01", "", ""]
    findings :=
      [ { ruleId := 4294967295
          ruleName := "a"
          remedy := "\t"
          confidencePercent := 255
          matchedSymptomCount := 18446744073709551615
          totalSymptomCount := 0 } ] }

theorem written_sessions_read_back_extreme :
    extreme.CountsFit ∧ Json.compact ∈ Json.layouts ∧ Json.indented ∈ Json.layouts ∧
      IsTextOf extreme.toJson.compact extreme ∧
      IsTextOfList (writeList [extreme, extreme]) [extreme, extreme] ∧
      IsTextOf extreme.toJson.indented extreme := by
  have fit : extreme.CountsFit := by decide
  have compact : Json.compact ∈ Json.layouts := List.mem_cons_self
  have indented : Json.indented ∈ Json.layouts := List.mem_cons_of_mem _ List.mem_cons_self
  have allFit : ∀ session ∈ [extreme, extreme], session.CountsFit := by decide
  obtain ⟨alone, listed, readAlone, _⟩ := written_sessions_read_back
  have written := alone Json.compact compact extreme fit
  exact ⟨fit, compact, indented, written, listed Json.indented indented _ allFit,
    readAlone Json.indented indented _ extreme written.1⟩

end Session
end FaultFinder
