import FaultFinder.Proofs.Binary64.Value
import FaultFinder.Proofs.Startup

/-!
# The checks of a start

A start succeeds exactly when all of its checks do, and otherwise it reports the
first one that fails: the rule table, the certainty, the capacity, the history
file.  The service then has what was checked and nothing else.  Until the
history file is opened a start only reads, so a start that fails before has
changed nothing.
-/

namespace FaultFinder

theorem Access.eq_of_allLeadTo_of_read
    {accesses : List Access}
    {before after : String → File}
    (leadTo : AllLeadTo accesses before after)
    (onlyReads : ∀ access ∈ accesses, ∃ path, access = .read path) :
    after = before := by
  induction leadTo with
  | nil => rfl
  | cons first _ inductionHypothesis =>
      rw [List.forall_mem_cons] at onlyReads
      obtain ⟨⟨path, rfl⟩, restReads⟩ := onlyReads
      cases first
      exact inductionHypothesis restReads

namespace Startup

/-! ## What is checked -/

/-- The rule table that settings choose, when it is one. -/
inductive ChoosesTable (settings : EngineSettings) (files : String → File) :
    KnowledgeBase → Prop where
  /-- No table is named. -/
  | standard (unnamed : settings.knowledgeBasePath = none) : ChoosesTable settings files .standard
  /-- The file that is named is a text, and its rules are accepted. -/
  | file
      {path text : String}
      {bytes : ByteArray}
      {knowledgeBase : KnowledgeBase}
      (named : settings.knowledgeBasePath = some path)
      (isFile : files path = .content bytes)
      (isText : String.fromUTF8? bytes = some text)
      (accepted : KnowledgeBase.read text = .ok knowledgeBase) :
      ChoosesTable settings files knowledgeBase

/-- The sessions that a history starts with, when its file can be used. -/
inductive ChoosesSessions (settings : HistorySettings) (files : String → File) :
    List Session → Prop where
  /-- No file is named. -/
  | unnamed (unnamed : settings.file = none) : ChoosesSessions settings files []
  /-- The file that is named is not there, but it can be made. -/
  | missing
      {path : String}
      (named : settings.file = some path)
      (isMissing : files path = .missing) :
      ChoosesSessions settings files []
  /-- The file that is named lists sessions. -/
  | file
      {path : String}
      {bytes : ByteArray}
      {sessions : List Session}
      (named : settings.file = some path)
      (isFile : files path = .content bytes)
      (isRead : Session.readList (Text.symbolsOfBytes bytes) = some sessions) :
      ChoosesSessions settings files sessions

/-- Why the table that settings name is none. -/
inductive TableFailure (settings : EngineSettings) (files : String → File) :
    StartupError → Prop where
  /-- There is no file, or its bytes are no text. -/
  | unreadable
      {path : String}
      (named : settings.knowledgeBasePath = some path)
      (noText : ∀ bytes text, files path = .content bytes → String.fromUTF8? bytes ≠ some text) :
      TableFailure settings files (.unreadableTable path)
  /-- The file is a text, and its rules are not accepted. -/
  | refused
      {path text : String}
      {bytes : ByteArray}
      {cause : TableError}
      (named : settings.knowledgeBasePath = some path)
      (isFile : files path = .content bytes)
      (isText : String.fromUTF8? bytes = some text)
      (refused : KnowledgeBase.read text = .error cause) :
      TableFailure settings files (.badTable path cause)

/-- The first check that fails. -/
inductive FirstFailure (settings : Settings) (files : String → File) : StartupError → Prop where
  /-- The table cannot be used. -/
  | table
      {error : StartupError}
      (failure : TableFailure settings.engine files error) :
      FirstFailure settings files error
  /-- The table can be used, and the certainty is out of range. -/
  | certainty
      {knowledgeBase : KnowledgeBase}
      (table : ChoosesTable settings.engine files knowledgeBase)
      (outside : ¬settings.engine.userCertainty.IsInUnitInterval) :
      FirstFailure settings files
        (.engine (.certaintyOutOfRange settings.engine.userCertainty))
  /-- Table and certainty can be used, and no session could be kept. -/
  | noCapacity
      {knowledgeBase : KnowledgeBase}
      (table : ChoosesTable settings.engine files knowledgeBase)
      (inside : settings.engine.userCertainty.IsInUnitInterval)
      (isZero : settings.history.capacity = 0) :
      FirstFailure settings files .noCapacity
  /-- Everything else can be used, and the history file cannot. -/
  | badHistory
      {knowledgeBase : KnowledgeBase}
      {path : String}
      {cause : StorageError}
      (table : ChoosesTable settings.engine files knowledgeBase)
      (inside : settings.engine.userCertainty.IsInUnitInterval)
      (positive : 1 ≤ settings.history.capacity)
      (named : settings.history.file = some path)
      (refused : History.load (files path) = .error cause) :
      FirstFailure settings files (.badHistory path cause)

variable
    {settings : Settings}
    {files : String → File}

/-! ## Outcomes of the steps -/

theorem outcome_knowledgeBase_of_choosesTable
    {settings : EngineSettings}
    {chosen : KnowledgeBase}
    (table : ChoosesTable settings files chosen) :
    (knowledgeBase settings files).outcome = .ok chosen := by
  rw [outcome_knowledgeBase]
  cases table with
  | standard unnamed => rw [unnamed]
  | file named isFile isText accepted =>
      simp only [named, readTable, isFile, File.read?, Option.bind_some, isText, accepted]
      rfl

theorem outcome_knowledgeBase_of_tableFailure
    {settings : EngineSettings}
    {error : StartupError}
    (failure : TableFailure settings files error) :
    (knowledgeBase settings files).outcome = .error error := by
  rw [outcome_knowledgeBase]
  cases failure with
  | @unreadable path named noText =>
      have undecoded : (files path).read?.bind String.fromUTF8? = none := by
        rw [Option.eq_none_iff_forall_ne_some]
        intro text
        cases isFile : files path with
        | content bytes => exact noText bytes text isFile
        | missing => exact nofun
        | unreachable => exact nofun
        | directory => exact nofun
      simp only [named, readTable, undecoded]
      rfl
  | refused named isFile isText refused =>
      simp only [named, readTable, isFile, File.read?, Option.bind_some, isText, refused]
      rfl

theorem choosesTable_or_tableFailure (settings : EngineSettings) (files : String → File) :
    (∃ chosen, ChoosesTable settings files chosen) ∨
      ∃ error, TableFailure settings files error := by
  cases named : settings.knowledgeBasePath with
  | none => exact .inl ⟨_, .standard named⟩
  | some path =>
      by_cases readable :
          ∃ bytes text, files path = .content bytes ∧ String.fromUTF8? bytes = some text
      · obtain ⟨bytes, text, isFile, isText⟩ := readable
        cases isRead : KnowledgeBase.read text with
        | ok chosen => exact .inl ⟨chosen, .file named isFile isText isRead⟩
        | error cause => exact .inr ⟨_, .refused named isFile isText isRead⟩
      · exact .inr ⟨_, .unreadable named fun bytes text isFile isText =>
          readable ⟨bytes, text, isFile, isText⟩⟩

theorem exists_outcome_engine
    {settings : EngineSettings}
    (inside : settings.userCertainty.IsInUnitInterval)
    (chosen : KnowledgeBase) :
    ∃ made : Engine, (engine settings chosen).outcome = .ok made ∧
      made.knowledgeBase = chosen ∧ made.userCertainty = settings.userCertainty := by
  have inRange := (Binary64.inUnitInterval_iff _).2 inside
  refine ⟨⟨chosen, settings.userCertainty, inRange⟩, ?_, rfl, rfl⟩
  rw [outcome_engine, Engine.withCertainty, dif_pos inRange]
  rfl

theorem outcome_engine_of_outside
    {settings : EngineSettings}
    (outside : ¬settings.userCertainty.IsInUnitInterval)
    (chosen : KnowledgeBase) :
    (engine settings chosen).outcome =
      .error (.engine (.certaintyOutOfRange settings.userCertainty)) := by
  rw [outcome_engine, Engine.withCertainty,
    dif_neg (mt (Binary64.inUnitInterval_iff _).1 outside)]
  rfl

theorem outcome_history_of_choosesSessions
    {settings : HistorySettings}
    {loaded : List Session}
    (sessions : ChoosesSessions settings files loaded)
    (positive : 1 ≤ settings.capacity) :
    (history settings files).outcome =
      .ok (.ofSessions loaded settings.capacity settings.file.isSome) := by
  have nonzero : settings.capacity ≠ 0 := Nat.one_le_iff_ne_zero.1 positive
  rw [outcome_history, if_neg nonzero]
  cases sessions with
  | unnamed unnamed =>
      rw [unnamed]
      rfl
  | missing named isMissing =>
      rw [named]
      simp only [isMissing]
      rfl
  | file named isFile isRead =>
      rw [named]
      simp only [isFile, History.openFile, History.load, isRead]
      rfl

theorem outcome_history_of_refused
    {settings : HistorySettings}
    {path : String}
    {cause : StorageError}
    (positive : 1 ≤ settings.capacity)
    (named : settings.file = some path)
    (refused : History.load (files path) = .error cause) :
    (history settings files).outcome = .error (.badHistory path cause) := by
  have nonzero : settings.capacity ≠ 0 := Nat.one_le_iff_ne_zero.1 positive
  rw [outcome_history, if_neg nonzero, named]
  simp only [History.openFile, refused]
  rfl

theorem choosesSessions_or_refused (settings : HistorySettings) (files : String → File) :
    (∃ loaded, ChoosesSessions settings files loaded) ∨
      ∃ path cause, settings.file = some path ∧ History.load (files path) = .error cause := by
  cases named : settings.file with
  | none => exact .inl ⟨[], .unnamed named⟩
  | some path =>
      cases isFile : files path with
      | missing => exact .inl ⟨[], .missing named isFile⟩
      | unreachable => exact .inr ⟨path, _, rfl, by rw [isFile, History.load]⟩
      | directory => exact .inr ⟨path, _, rfl, by rw [isFile, History.load]⟩
      | content bytes =>
          cases isRead : Session.readList (Text.symbolsOfBytes bytes) with
          | some loaded => exact .inl ⟨loaded, .file named isFile isRead⟩
          | none => exact .inr ⟨path, _, rfl, by rw [isFile, History.load, isRead]⟩

/-! ## Outcomes of a start -/

/-- Everything that is checked can be used. -/
structure CanStart (settings : Settings) (files : String → File) : Prop where
  /-- The rule table is the standard one, or the file that is named is a text of sound rules. -/
  table : ∃ chosen, ChoosesTable settings.engine files chosen
  /-- The certainty is greater than zero and at most one. -/
  inside : settings.engine.userCertainty.IsInUnitInterval
  /-- At least one session can be kept. -/
  positive : 1 ≤ settings.history.capacity
  /-- The history file lists sessions, or it is missing and can be made. -/
  sessions : ∃ loaded, ChoosesSessions settings.history files loaded

/-- A service has what its settings choose. -/
structure HasChosen (settings : Settings) (files : String → File) (made : Service) : Prop where
  /-- The rules are those of the table. -/
  table : ChoosesTable settings.engine files made.engine.knowledgeBase
  /-- The certainty is that of the settings. -/
  userCertainty : made.engine.userCertainty = settings.engine.userCertainty
  /-- The capacity is that of the settings. -/
  capacity : made.history.capacity = settings.history.capacity
  /-- The sessions are the first ones of the file. -/
  sessions : ∃ loaded, ChoosesSessions settings.history files loaded ∧
    made.history.sessions = loaded.take settings.history.capacity
  /-- The sessions go to a file when one is named. -/
  hasFile : made.history.hasFile = settings.history.file.isSome

/-- With a table and an engine, the outcome of a start is that of its history. -/
theorem outcome_service_of_engine
    {chosen : KnowledgeBase}
    {made : Engine}
    (table : ChoosesTable settings.engine files chosen)
    (isEngine : (engine settings.engine chosen).outcome = .ok made) :
    (service settings files).outcome =
      (history settings.history files).outcome.map (.ofParts made) := by
  rw [outcome_service, outcome_knowledgeBase_of_choosesTable table, ok_bind, isEngine, ok_bind]
  cases (history settings.history files).outcome <;> rfl

theorem exists_outcome_of_canStart (canStart : CanStart settings files) :
    ∃ made, (service settings files).outcome = .ok made ∧ HasChosen settings files made := by
  obtain ⟨chosen, table⟩ := canStart.table
  obtain ⟨loaded, sessions⟩ := canStart.sessions
  obtain ⟨made, isEngine, isChosen, sameCertainty⟩ :=
    exists_outcome_engine canStart.inside chosen
  have opened := outcome_history_of_choosesSessions sessions canStart.positive
  have same : max settings.history.capacity 1 = settings.history.capacity :=
    Nat.max_eq_left canStart.positive
  have outcome := outcome_service_of_engine table isEngine
  rw [opened] at outcome
  exact ⟨_, outcome,
    { table := isChosen ▸ table
      userCertainty := sameCertainty
      capacity := same
      sessions := ⟨loaded, sessions, congrArg (loaded.take ·) same⟩
      hasFile := rfl }⟩

theorem outcome_of_firstFailure
    {error : StartupError}
    (failure : FirstFailure settings files error) :
    (service settings files).outcome = .error error := by
  cases failure with
  | table failure =>
      rw [outcome_service, outcome_knowledgeBase_of_tableFailure failure]
      rfl
  | certainty table outside =>
      rw [outcome_service, outcome_knowledgeBase_of_choosesTable table, ok_bind,
        outcome_engine_of_outside outside]
      rfl
  | noCapacity table inside isZero =>
      obtain ⟨made, isEngine, _⟩ := exists_outcome_engine inside _
      rw [outcome_service_of_engine table isEngine, outcome_history, if_pos isZero]
      rfl
  | badHistory table inside positive named refused =>
      obtain ⟨made, isEngine, _⟩ := exists_outcome_engine inside _
      rw [outcome_service_of_engine table isEngine,
        outcome_history_of_refused positive named refused]
      rfl

/-- When something that is checked cannot be used, there is a first failure. -/
theorem canStart_or_firstFailure (settings : Settings) (files : String → File) :
    CanStart settings files ∨ ∃ error, FirstFailure settings files error := by
  rcases choosesTable_or_tableFailure settings.engine files with
    ⟨chosen, table⟩ | ⟨error, failure⟩
  case inr => exact .inr ⟨error, .table failure⟩
  by_cases inside : settings.engine.userCertainty.IsInUnitInterval
  case neg => exact .inr ⟨_, .certainty table inside⟩
  by_cases isZero : settings.history.capacity = 0
  case pos => exact .inr ⟨_, .noCapacity table inside isZero⟩
  have positive := Nat.one_le_iff_ne_zero.2 isZero
  rcases choosesSessions_or_refused settings.history files with
    sessions | ⟨path, cause, named, refused⟩
  · exact .inl ⟨⟨chosen, table⟩, inside, positive, sessions⟩
  · exact .inr ⟨_, .badHistory table inside positive named refused⟩

/-! ## What is done to the file system -/

theorem exists_read_of_mem_accesses_knowledgeBase
    {settings : EngineSettings}
    {access : Access}
    (noted : access ∈ (knowledgeBase settings files).accesses) :
    ∃ path, access = .read path := by
  rw [accesses_knowledgeBase] at noted
  obtain ⟨path, _, rfl⟩ := List.mem_map.1 noted
  exact ⟨path, rfl⟩

/-- The history file is accessed only after everything else has been checked. -/
theorem accesses_history_of_error
    {settings : HistorySettings}
    {error : StartupError}
    (failed : (history settings files).outcome = .error error)
    (early : ∀ path cause, error ≠ .badHistory path cause) :
    (history settings files).accesses = [] := by
  rw [history_eq] at failed ⊢
  split
  · rfl
  · next nonzero =>
      rw [if_neg nonzero] at failed
      split
      · rfl
      · next path named =>
          simp only [named, outcome_openHistory] at failed
          cases opened : History.openFile (files path) settings.capacity with
          | ok made =>
              rw [opened] at failed
              cases failed
          | error cause =>
              rw [opened] at failed
              cases failed
              exact absurd rfl (early path cause)

theorem accesses_withHistory
    (settings : HistorySettings)
    (engine : Engine) :
    (withHistory settings files engine).accesses = (history settings files).accesses := by
  have putTogether (history : History) :
      (pure (Service.ofParts engine history) : Startup Service).accesses = [] := rfl
  rw [withHistory, accesses_bind (onlyNotes_history settings) fun _ => onlyNotes_pure _]
  cases (history settings files).outcome with
  | error cause => exact List.append_nil _
  | ok history =>
      simp only [putTogether]
      exact List.append_nil _

theorem accesses_withKnowledgeBase
    (settings : Settings)
    (chosen : KnowledgeBase) :
    (withKnowledgeBase settings files chosen).accesses =
      match (engine settings.engine chosen).outcome with
      | .ok _ => (history settings.history files).accesses
      | .error _ => [] := by
  rw [withKnowledgeBase, accesses_bind (onlyNotes_engine settings.engine chosen)
    (onlyNotes_withHistory settings.history), accesses_engine, List.nil_append]
  cases (engine settings.engine chosen).outcome with
  | error cause => rfl
  | ok made => exact accesses_withHistory settings.history made

theorem writesNothing_knowledgeBase (settings : EngineSettings) :
    (knowledgeBase settings files).WritesNothing := by
  intro access noted
  obtain ⟨path, rfl⟩ := exists_read_of_mem_accesses_knowledgeBase noted
  rfl

theorem writesNothing_withHistory
    (settings : HistorySettings)
    (engine : Engine) :
    (withHistory settings files engine).WritesNothing := by
  intro access noted
  rw [accesses_withHistory] at noted
  exact writesNothing_history settings access noted

/-- A start writes to no file, whether it fails or not. -/
theorem writesNothing_service (settings : Settings) :
    (service settings files).WritesNothing :=
  writesNothing_bind (onlyNotes_knowledgeBase settings.engine)
    (onlyNotes_withKnowledgeBase settings)
    (writesNothing_knowledgeBase settings.engine) fun chosen =>
      writesNothing_bind (onlyNotes_engine settings.engine chosen)
        (onlyNotes_withHistory settings.history)
        (writesNothing_of_accesses_eq_nil (accesses_engine settings.engine chosen))
        (writesNothing_withHistory settings.history)

/-- A start that fails before it opens the history file has only read. -/
theorem exists_read_of_mem_accesses
    {error : StartupError}
    (failed : (service settings files).outcome = .error error)
    (early : ∀ path cause, error ≠ .badHistory path cause)
    {access : Access}
    (noted : access ∈ (service settings files).accesses) :
    ∃ path, access = .read path := by
  rw [service_eq, accesses_bind (onlyNotes_knowledgeBase settings.engine)
    (onlyNotes_withKnowledgeBase settings), List.mem_append] at noted
  rcases noted with noted | noted
  · exact exists_read_of_mem_accesses_knowledgeBase noted
  rw [outcome_service] at failed
  cases found : (knowledgeBase settings.engine files).outcome with
  | error cause =>
      rw [found] at noted
      cases noted
  | ok chosen =>
      rw [found] at noted failed
      rw [ok_bind] at failed
      simp only [accesses_withKnowledgeBase] at noted
      cases isEngine : (engine settings.engine chosen).outcome with
      | error cause =>
          rw [isEngine] at noted
          cases noted
      | ok made =>
          rw [isEngine] at noted failed
          rw [ok_bind] at failed
          cases opened : (history settings.history files).outcome with
          | ok history =>
              rw [opened] at failed
              cases failed
          | error cause =>
              rw [opened] at failed
              cases failed
              simp only [accesses_history_of_error opened early] at noted
              cases noted

/-! ## Starting -/

/--
The checks of a start come in their order, it has what was checked, and it
changes nothing that there was before, or nothing at all if it fails early.
-/
structure ChecksInOrder (settings : Settings) (files : String → File) : Prop where
  /-- A start succeeds when everything that is checked can be used. -/
  succeeds : (∃ made, (service settings files).outcome = .ok made) ↔ CanStart settings files
  /-- Otherwise the first failure is reported. -/
  fails (error : StartupError) :
    (service settings files).outcome = .error error ↔ FirstFailure settings files error
  /-- A service that was started has what the settings choose. -/
  chosen (made : Service) (started : (service settings files).outcome = .ok made) :
    HasChosen settings files made
  /-- What there was before stays. -/
  kept
      (after : String → File)
      (leadTo : Access.AllLeadTo (service settings files).accesses files after)
      (place : String) (isThere : (files place).Exists) :
    after place = files place
  /-- A start that fails before the history file changes nothing. -/
  untouched
      (error : StartupError) (failed : (service settings files).outcome = .error error)
      (early : ∀ path cause, error ≠ .badHistory path cause)
      (after : String → File)
      (leadTo : Access.AllLeadTo (service settings files).accesses files after) :
    after = files

/-- Every start goes through its checks in their order. -/
theorem start_checks_in_order (settings : Settings) (files : String → File) :
    ChecksInOrder settings files := by
  have cases := canStart_or_firstFailure settings files
  refine
    { succeeds := ?succeeds
      fails := ?fails
      chosen := ?chosen
      kept := fun _ leadTo _ => Access.eq_of_allLeadTo leadTo (writesNothing_service settings)
      untouched := ?untouched }
  case succeeds =>
      constructor
      · rintro ⟨made, started⟩
        rcases cases with canStart | ⟨error, failure⟩
        · exact canStart
        · rw [outcome_of_firstFailure failure] at started
          cases started
      · intro canStart
        obtain ⟨made, started, _⟩ := exists_outcome_of_canStart canStart
        exact ⟨made, started⟩
  case fails =>
      intro error
      constructor
      · intro failed
        rcases cases with canStart | ⟨other, failure⟩
        · obtain ⟨made, started, _⟩ := exists_outcome_of_canStart canStart
          rw [started] at failed
          cases failed
        · rw [outcome_of_firstFailure failure] at failed
          cases failed
          exact failure
      · exact outcome_of_firstFailure
  case chosen =>
      intro made started
      rcases cases with canStart | ⟨error, failure⟩
      · obtain ⟨other, otherStarted, hasChosen⟩ := exists_outcome_of_canStart canStart
        rw [started] at otherStarted
        cases otherStarted
        exact hasChosen
      · rw [outcome_of_firstFailure failure] at started
        cases started
  case untouched =>
      intro error failed early after leadTo
      exact Access.eq_of_allLeadTo_of_read leadTo fun _ => exists_read_of_mem_accesses failed early

/-- Settings of which nothing can be used when there are only directories. -/
def unusableSettings : Settings :=
  { engine := { userCertainty := .nan, knowledgeBasePath := some "rules" }
    history := { capacity := 0, file := some "sessions" } }

/-- When nothing can be used, the rule table is reported, and nothing is changed. -/
theorem start_checks_in_order_unusable :
    (service unusableSettings fun _ => .directory).outcome = .error (.unreadableTable "rules") ∧
      ∀ after, Access.AllLeadTo (service unusableSettings fun _ => .directory).accesses
          (fun _ => .directory) after →
        after = fun _ => .directory := by
  have inOrder := start_checks_in_order unusableSettings fun _ => .directory
  have failed := (inOrder.fails _).2 (.table (.unreadable rfl nofun))
  exact ⟨failed, inOrder.untouched _ failed nofun⟩

end Startup
end FaultFinder
