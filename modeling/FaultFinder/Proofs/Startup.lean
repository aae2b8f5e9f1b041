import FaultFinder.Proofs.History.Mirror
import FaultFinder.Startup

/-!
# What a start does

A start goes through its steps until one of them fails, and a step only adds
notes to those that were there before.  So the outcome of a start is that of its
steps in their order, and when it succeeds, the capacity of the history is the
one that the settings choose, which is not zero, and its sessions are the first
ones of those that the history file lists.

A start writes to no file.  So whatever it does to the file system, what there
was before stays.
-/

namespace FaultFinder

/-! ## The file system -/

/-- There is something. -/
def File.Exists : File → Prop
  | .missing => False
  | .unreachable => False
  | .directory => True
  | .content _ => True

namespace Access

/-- The path that is accessed. -/
def path : Access → String
  | .read path => path
  | .makeParents path => path
  | .write path _ => path

/-- Whether a file is written. -/
def isWrite : Access → Bool
  | .read _ => false
  | .makeParents _ => false
  | .write _ _ => true

/-- What paths name after an access. -/
inductive LeadsTo : Access → (String → File) → (String → File) → Prop where
  /-- Reading a file changes nothing. -/
  | read (path : String) (files : String → File) : LeadsTo (.read path) files files
  /-- Directories are made above a path, and only where nothing was. -/
  | makeParents
      {path : String}
      {before after : String → File}
      (notAbove : after path = before path)
      (onlyMade : ∀ place,
        after place = before place ∨ before place = .missing ∧ after place = .directory) :
      LeadsTo (.makeParents path) before after
  /-- What a file holds that is written to is left open, and nothing else changes. -/
  | write
      {path text : String}
      {before after : String → File}
      (elsewhere : ∀ place, place ≠ path → after place = before place) :
      LeadsTo (.write path text) before after

/-- What paths name after some accesses. -/
inductive AllLeadTo : List Access → (String → File) → (String → File) → Prop where
  /-- Nothing is done. -/
  | nil (files : String → File) : AllLeadTo [] files files
  /-- One access comes first. -/
  | cons
      {access : Access}
      {accesses : List Access}
      {before between after : String → File}
      (first : access.LeadsTo before between)
      (rest : AllLeadTo accesses between after) :
      AllLeadTo (access :: accesses) before after

theorem eq_at_path_of_leadsTo
    {access : Access}
    {before after : String → File}
    (leadsTo : access.LeadsTo before after)
    (notWrite : access.isWrite = false) :
    after access.path = before access.path := by
  cases leadsTo with
  | read => rfl
  | makeParents notAbove _ => exact notAbove
  | write => cases notWrite

theorem eq_of_leadsTo
    {access : Access}
    {before after : String → File}
    (leadsTo : access.LeadsTo before after)
    (notWrite : access.isWrite = false)
    {place : String}
    (isThere : (before place).Exists) :
    after place = before place := by
  cases leadsTo with
  | read => rfl
  | makeParents _ onlyMade =>
      rcases onlyMade place with same | ⟨missing, _⟩
      · exact same
      · rw [missing] at isThere
        exact isThere.elim
  | write => cases notWrite

/-- What there was before some accesses stays, when none of them writes. -/
theorem eq_of_allLeadTo
    {accesses : List Access}
    {before after : String → File}
    (leadTo : AllLeadTo accesses before after)
    (noWrite : ∀ access ∈ accesses, access.isWrite = false)
    {place : String}
    (isThere : (before place).Exists) :
    after place = before place := by
  induction leadTo with
  | nil => rfl
  | cons first _ inductionHypothesis =>
      rw [List.forall_mem_cons] at noWrite
      have same := eq_of_leadsTo first noWrite.1 isThere
      rw [inductionHypothesis noWrite.2 (same ▸ isThere), same]

end Access

namespace Startup

/-- The steps write to no file. -/
def WritesNothing {α : Type} (startup : Startup α) : Prop :=
  ∀ access ∈ startup.accesses, access.isWrite = false

/-- What was noted before the steps only comes before what they note. -/
def OnlyNotes {α : Type} (startup : Startup α) : Prop :=
  ∀ noted, startup.run.run noted = (startup.outcome, noted ++ startup.accesses)

section Steps

variable
    {α β : Type}

theorem bind_eq_ok_iff
    {first : Except StartupError α}
    {next : α → Except StartupError β}
    {final : β} :
    first >>= next = .ok final ↔ ∃ value, first = .ok value ∧ next value = .ok final := by
  constructor
  · intro succeeded
    cases first with
    | error cause => cases succeeded
    | ok value => exact ⟨value, rfl, succeeded⟩
  · rintro ⟨value, rfl, succeeded⟩
    exact succeeded

/-- After a step that succeeds the next one decides. -/
theorem ok_bind
    (value : α)
    (next : α → Except StartupError β) :
    (.ok value >>= next : Except StartupError β) = next value :=
  pure_bind value next

theorem mapError_eq_ok_iff
    {ε : Type}
    {mention : ε → StartupError}
    {result : Except ε α}
    {value : α} :
    result.mapError mention = .ok value ↔ result = .ok value := by
  cases result with
  | error cause => exact ⟨nofun, nofun⟩
  | ok other => exact ⟨congrArg _ ∘ Except.ok.inj, congrArg _ ∘ Except.ok.inj⟩

theorem onlyNotes_pure (value : α) : OnlyNotes (pure value) := by
  intro noted
  exact Prod.ext rfl (List.append_nil noted).symm

theorem onlyNotes_throw (cause : StartupError) : OnlyNotes (throw cause : Startup α) := by
  intro noted
  exact Prod.ext rfl (List.append_nil noted).symm

theorem onlyNotes_note (access : Access) : (note access).OnlyNotes :=
  fun _ => rfl

theorem outcome_bind
    {next : α → Startup β}
    (onlyNotes : ∀ value, (next value).OnlyNotes)
    (first : Startup α) :
    outcome (first >>= next) = first.outcome >>= fun value => (next value).outcome := by
  rw [outcome, outcome, ExceptT.run_bind, StateT.run_bind]
  cases first.run.run [] with
  | mk result noted =>
      cases result with
      | error cause => rfl
      | ok value =>
          have same : ((next value).run.run noted).1 = (next value).outcome := by
            rw [onlyNotes value noted]
          exact same

/-- What comes next starts with the notes of what came first. -/
theorem run_bind
    {first : Startup α}
    {next : α → Startup β}
    (firstOnlyNotes : first.OnlyNotes)
    (onlyNotes : ∀ value, (next value).OnlyNotes)
    (noted : List Access) :
    (first >>= next).run.run noted =
      match first.outcome with
      | .ok value => ((next value).outcome, noted ++ first.accesses ++ (next value).accesses)
      | .error cause => (.error cause, noted ++ first.accesses) := by
  rw [ExceptT.run_bind, StateT.run_bind, firstOnlyNotes noted]
  cases first.outcome with
  | error cause => rfl
  | ok value => exact onlyNotes value _

theorem onlyNotes_bind
    {first : Startup α}
    {next : α → Startup β}
    (firstOnlyNotes : first.OnlyNotes)
    (onlyNotes : ∀ value, (next value).OnlyNotes) :
    OnlyNotes (first >>= next) := by
  intro noted
  rw [outcome, accesses, run_bind firstOnlyNotes onlyNotes, run_bind firstOnlyNotes onlyNotes]
  cases first.outcome with
  | error cause => rfl
  | ok value => exact Prod.ext rfl (List.append_assoc _ _ _)

/-- Nothing is done after a step that fails. -/
theorem accesses_bind
    {first : Startup α}
    {next : α → Startup β}
    (firstOnlyNotes : first.OnlyNotes)
    (onlyNotes : ∀ value, (next value).OnlyNotes) :
    accesses (first >>= next) =
      first.accesses ++
        match first.outcome with
        | .ok value => (next value).accesses
        | .error _ => [] := by
  rw [accesses, run_bind firstOnlyNotes onlyNotes]
  cases first.outcome with
  | error cause => exact (List.append_nil _).symm
  | ok value => rfl

theorem writesNothing_of_accesses_eq_nil
    {startup : Startup α}
    (nothing : startup.accesses = []) :
    startup.WritesNothing := by
  intro access noted
  rw [nothing] at noted
  cases noted

/-- Steps write nothing when neither what comes first nor what comes next writes. -/
theorem writesNothing_bind
    {first : Startup α}
    {next : α → Startup β}
    (firstOnlyNotes : first.OnlyNotes)
    (onlyNotes : ∀ value, (next value).OnlyNotes)
    (firstWrites : first.WritesNothing)
    (nextWrites : ∀ value, (next value).WritesNothing) :
    WritesNothing (first >>= next) := by
  intro access noted
  rw [accesses_bind firstOnlyNotes onlyNotes] at noted
  rcases List.mem_append.1 noted with noted | noted
  · exact firstWrites access noted
  · cases reached : first.outcome with
    | ok value =>
        rw [reached] at noted
        exact nextWrites value access noted
    | error cause =>
        rw [reached] at noted
        cases noted

theorem onlyNotes_require
    {ε : Type}
    (result : Except ε α)
    (mention : ε → StartupError) :
    (require result mention).OnlyNotes := by
  cases result with
  | ok value => exact onlyNotes_pure value
  | error cause => exact onlyNotes_throw (mention cause)

@[simp] theorem outcome_require
    {ε : Type}
    (result : Except ε α)
    (mention : ε → StartupError) :
    (require result mention).outcome = result.mapError mention := by
  cases result <;> rfl

@[simp] theorem accesses_require
    {ε : Type}
    (result : Except ε α)
    (mention : ε → StartupError) :
    (require result mention).accesses = [] := by
  cases result <;> rfl

end Steps

variable {files : String → File}

/-! ## The steps -/

theorem onlyNotes_readFile (path : String) : (readFile path files).OnlyNotes :=
  onlyNotes_bind (onlyNotes_note _) fun _ => onlyNotes_pure _

theorem onlyNotes_findFile (path : String) : (findFile path files).OnlyNotes :=
  onlyNotes_bind (onlyNotes_note _) fun _ => onlyNotes_pure _

theorem onlyNotes_readTable
    (path : String)
    (bytes : Option ByteArray) :
    (readTable path bytes).OnlyNotes := by
  unfold readTable
  split
  · exact onlyNotes_throw _
  · exact onlyNotes_require _ _

theorem accesses_readTable
    (path : String)
    (bytes : Option ByteArray) :
    (readTable path bytes).accesses = [] := by
  unfold readTable
  split
  · rfl
  · exact accesses_require _ _

theorem knowledgeBase_eq (settings : EngineSettings) :
    knowledgeBase settings files =
      match settings.knowledgeBasePath with
      | none => pure .standard
      | some path => readFile path files >>= readTable path := by
  unfold knowledgeBase
  cases settings.knowledgeBasePath <;> rfl

theorem onlyNotes_knowledgeBase (settings : EngineSettings) :
    (knowledgeBase settings files).OnlyNotes := by
  rw [knowledgeBase_eq]
  split
  · exact onlyNotes_pure _
  · next path _ => exact onlyNotes_bind (onlyNotes_readFile path) (onlyNotes_readTable path)

/-- The table comes from the file that the settings name, if they name one. -/
theorem outcome_knowledgeBase (settings : EngineSettings) :
    (knowledgeBase settings files).outcome =
      match settings.knowledgeBasePath with
      | none => .ok .standard
      | some path => (readTable path (files path).read?).outcome := by
  rw [knowledgeBase_eq]
  split
  · rfl
  · next path _ => exact outcome_bind (onlyNotes_readTable path) _

/-- Only the file of the table is read for it. -/
theorem accesses_knowledgeBase (settings : EngineSettings) :
    (knowledgeBase settings files).accesses =
      settings.knowledgeBasePath.toList.map Access.read := by
  rw [knowledgeBase_eq]
  cases settings.knowledgeBasePath with
  | none => rfl
  | some path =>
      have readOnly : (readFile path files).accesses = [.read path] := rfl
      have found : (readFile path files).outcome = .ok (files path).read? := rfl
      simp only [accesses_bind (onlyNotes_readFile path) (onlyNotes_readTable path), readOnly,
        found, accesses_readTable]
      rfl

theorem onlyNotes_engine
    (settings : EngineSettings)
    (knowledgeBase : KnowledgeBase) :
    (engine settings knowledgeBase).OnlyNotes :=
  onlyNotes_require _ _

theorem outcome_engine
    (settings : EngineSettings)
    (knowledgeBase : KnowledgeBase) :
    (engine settings knowledgeBase).outcome =
      (Engine.withCertainty knowledgeBase settings.userCertainty).mapError .engine :=
  outcome_require _ _

theorem accesses_engine
    (settings : EngineSettings)
    (knowledgeBase : KnowledgeBase) :
    (engine settings knowledgeBase).accesses = [] :=
  accesses_require _ _

theorem openHistory_eq
    (path : String)
    (capacity : Nat) :
    openHistory path capacity files =
      findFile path files >>= fun file =>
        require (History.openFile file capacity) (.badHistory path) :=
  rfl

theorem onlyNotes_openHistory
    (path : String)
    (capacity : Nat) :
    (openHistory path capacity files).OnlyNotes :=
  onlyNotes_bind (onlyNotes_findFile path) fun _ => onlyNotes_require _ _

theorem outcome_openHistory
    (path : String)
    (capacity : Nat) :
    (openHistory path capacity files).outcome =
      (History.openFile (files path) capacity).mapError (.badHistory path) := by
  rw [openHistory_eq, outcome_bind fun _ => onlyNotes_require _ _]
  exact outcome_require _ _

theorem accesses_openHistory
    (path : String)
    (capacity : Nat) :
    (openHistory path capacity files).accesses = (findFile path files).accesses := by
  rw [openHistory_eq, accesses_bind (onlyNotes_findFile path) fun _ => onlyNotes_require _ _]
  have found : (findFile path files).outcome = .ok (files path) := rfl
  simp only [found, accesses_require]
  exact List.append_nil _

/-- Finding out what a path names accesses this path once, and writes nothing. -/
theorem exists_access_findFile
    (path : String)
    (files : String → File) :
    ∃ access : Access, access.path = path ∧ access.isWrite = false ∧
      (findFile path files).accesses = [access] := by
  refine ⟨_, ?_, ?_, rfl⟩
  · rw [apply_ite Access.path]
    exact ite_self path
  · rw [apply_ite Access.isWrite]
    exact ite_self false

theorem writesNothing_openHistory
    (path : String)
    (capacity : Nat) :
    (openHistory path capacity files).WritesNothing := by
  obtain ⟨access, _, notWrite, same⟩ := exists_access_findFile path files
  intro other noted
  rw [accesses_openHistory, same, List.mem_singleton] at noted
  exact noted ▸ notWrite

theorem history_eq (settings : HistorySettings) :
    history settings files =
      if settings.capacity = 0 then throw .noCapacity
      else
        match settings.file with
        | none => pure (.inMemory settings.capacity)
        | some path => openHistory path settings.capacity files := by
  unfold history
  by_cases none : settings.capacity = 0
  · simp only [if_pos none]
    rfl
  · simp only [if_neg none]
    cases settings.file <;> rfl

theorem onlyNotes_history (settings : HistorySettings) :
    (history settings files).OnlyNotes := by
  rw [history_eq]
  split
  · exact onlyNotes_throw _
  · split
    · exact onlyNotes_pure _
    · exact onlyNotes_openHistory _ _

theorem writesNothing_history (settings : HistorySettings) :
    (history settings files).WritesNothing := by
  rw [history_eq]
  split
  · exact writesNothing_of_accesses_eq_nil rfl
  · split
    · exact writesNothing_of_accesses_eq_nil rfl
    · exact writesNothing_openHistory _ _

theorem outcome_history (settings : HistorySettings) :
    (history settings files).outcome =
      if settings.capacity = 0 then .error .noCapacity
      else
        match settings.file with
        | none => .ok (.inMemory settings.capacity)
        | some path =>
            (History.openFile (files path) settings.capacity).mapError (.badHistory path) := by
  rw [history_eq]
  split
  · rfl
  · split
    · rfl
    · exact outcome_openHistory _ _

/-- The last step of a start: the service is put together with its history. -/
def withHistory (settings : HistorySettings) (files : String → File) (engine : Engine) :
    Startup Service := do
  let history ← history settings files
  return .ofParts engine history

theorem onlyNotes_withHistory
    (settings : HistorySettings)
    (engine : Engine) :
    (withHistory settings files engine).OnlyNotes :=
  onlyNotes_bind (onlyNotes_history settings) fun _ => onlyNotes_pure _

/-- The steps of a start after the rule table has been found. -/
def withKnowledgeBase
    (settings : Settings)
    (files : String → File)
    (knowledgeBase : KnowledgeBase) :
    Startup Service := do
  let engine ← engine settings.engine knowledgeBase
  withHistory settings.history files engine

theorem onlyNotes_withKnowledgeBase
    (settings : Settings)
    (knowledgeBase : KnowledgeBase) :
    (withKnowledgeBase settings files knowledgeBase).OnlyNotes :=
  onlyNotes_bind (onlyNotes_engine settings.engine knowledgeBase)
    (onlyNotes_withHistory settings.history)

theorem service_eq (settings : Settings) :
    service settings files =
      knowledgeBase settings.engine files >>= withKnowledgeBase settings files :=
  rfl

theorem outcome_withHistory
    (settings : HistorySettings)
    (engine : Engine) :
    (withHistory settings files engine).outcome =
      (history settings files).outcome.map (.ofParts engine) := by
  rw [withHistory, outcome_bind fun _ => onlyNotes_pure _]
  cases (history settings files).outcome <;> rfl

/-- A start goes through its steps until one of them fails. -/
theorem outcome_service (settings : Settings) :
    (service settings files).outcome = do
      let knowledgeBase ← (knowledgeBase settings.engine files).outcome
      let engine ← (engine settings.engine knowledgeBase).outcome
      let history ← (history settings.history files).outcome
      return .ofParts engine history := by
  rw [service_eq, outcome_bind (onlyNotes_withKnowledgeBase settings)]
  simp only [withKnowledgeBase, outcome_bind (onlyNotes_withHistory settings.history),
    outcome_withHistory]
  rfl

/-- A start succeeds when each of its steps does. -/
theorem outcome_service_eq_ok_iff
    {settings : Settings}
    {made : Service} :
    (service settings files).outcome = .ok made ↔
      ∃ knowledgeBase engine history,
        (Startup.knowledgeBase settings.engine files).outcome = .ok knowledgeBase ∧
          Engine.withCertainty knowledgeBase settings.engine.userCertainty = .ok engine ∧
          (Startup.history settings.history files).outcome = .ok history ∧
          made = .ofParts engine history := by
  simp only [outcome_service, bind_eq_ok_iff, outcome_engine, mapError_eq_ok_iff]
  constructor
  · rintro ⟨knowledgeBase, found, engine, isEngine, history, opened, same⟩
    exact ⟨knowledgeBase, engine, history, found, isEngine, opened, (Except.ok.inj same).symm⟩
  · rintro ⟨knowledgeBase, engine, history, found, isEngine, opened, rfl⟩
    exact ⟨knowledgeBase, found, engine, isEngine, history, opened, rfl⟩

/-! ## What a started service holds -/

/-- The history file of the settings, if there is one, lists the given sessions. -/
def FindsSessions
    (settings : HistorySettings)
    (files : String → File)
    (loaded : List Session) : Prop :=
  match settings.file with
  | none => loaded = []
  | some path => History.load (files path) = .ok loaded

/-- The history of a started service is that of the sessions that its file lists. -/
theorem exists_finds_of_outcome_history
    {settings : HistorySettings}
    {made : History}
    (opened : (history settings files).outcome = .ok made) :
    0 < settings.capacity ∧
      ∃ loaded, FindsSessions settings files loaded ∧
        made = .ofSessions loaded settings.capacity settings.file.isSome := by
  rw [outcome_history] at opened
  split at opened
  · cases opened
  · next some =>
      refine ⟨Nat.pos_of_ne_zero some, ?_⟩
      split at opened
      · next noFile =>
          cases opened
          refine ⟨[], ?_, ?_⟩
          · rw [FindsSessions, noFile]
          · rw [noFile]
            rfl
      · next path isPath =>
          obtain ⟨loaded, isLoaded, rfl⟩ :=
            History.exists_load_of_openFile (mapError_eq_ok_iff.1 opened)
          refine ⟨loaded, ?_, ?_⟩
          · rw [FindsSessions, isPath]
            exact isLoaded
          · rw [isPath]
            rfl

theorem exists_finds_of_outcome
    {settings : Settings}
    {made : Service}
    (started : (service settings files).outcome = .ok made) :
    0 < settings.history.capacity ∧
      ∃ loaded, FindsSessions settings.history files loaded ∧
        made.history =
          .ofSessions loaded settings.history.capacity settings.history.file.isSome := by
  obtain ⟨knowledgeBase, engine, history, _, _, opened, rfl⟩ := outcome_service_eq_ok_iff.1 started
  exact exists_finds_of_outcome_history opened

end Startup
end FaultFinder
