import FaultFinder.KnowledgeBase.Json
import FaultFinder.Service
import FaultFinder.Settings

/-!
# Starting the service

The service is made from its settings and the files that they name.  The checks
come in a fixed order: the rule table, the certainty, the capacity, the history
file, and for a service that listens the rate limit and the address.  The first
one that fails ends the start.

A start only reads files.  Apart from that it makes the directories above a
history file that is missing.  Steps see files only through what they do to the
file system, and that is noted in the order in which it happens.
-/

namespace FaultFinder

/-- What can be done to the file system. -/
inductive Access where
  /-- Read the file with a path. -/
  | read (path : String)
  /-- Make the directories above a path. -/
  | makeParents (path : String)
  /-- Write a text to the file with a path. -/
  | write (path : String) (text : String)
  deriving DecidableEq

/-- Why the service cannot be started. -/
inductive StartupError where
  /-- The rule table is no readable text. -/
  | unreadableTable (path : String)
  /-- The text of the rule table is no knowledge base. -/
  | badTable (path : String) (cause : TableError)
  /-- The engine cannot be made. -/
  | engine (cause : EngineError)
  /-- The history would keep nothing. -/
  | noCapacity
  /-- The history file cannot be used. -/
  | badHistory (path : String) (cause : StorageError)
  /-- The rate limit cannot be kept. -/
  | rateLimit
  /-- The address cannot be listened at. -/
  | badAddress (address : String)
  deriving DecidableEq

namespace StartupError

/-- The message about a failed start. -/
def message : StartupError → String
  | .unreadableTable path => s!"reading knowledge base {path}"
  | .badTable path _ => s!"loading knowledge base {path}"
  | .engine cause => cause.message
  | .noCapacity => "history capacity must be at least 1"
  | .badHistory path _ => s!"opening history file {path}"
  | .rateLimit => "rate limit per_second and burst_size must be non-zero"
  | .badAddress place => s!"the address {place} cannot be used"

end StartupError

/-- Steps of a start: they note what they do to the file system, and they can fail. -/
abbrev Startup := ExceptT StartupError (StateM (List Access))

namespace Startup

/-- Steps of a start that find out what paths name. -/
abbrev Steps := ReaderT (String → File) Startup

/-- Note what is done to the file system. -/
def note (access : Access) : Startup Unit :=
  modify (· ++ [access])

/-- Read the file with a path. -/
def readFile (path : String) : Steps (Option ByteArray) := do
  note (.read path)
  return ((← read) path).read?

/-- Find out what a path names: read what is there, or make the directories above the path. -/
def findFile (path : String) : Steps File := do
  let file := (← read) path
  note (if file matches .missing | .unreachable then .makeParents path else .read path)
  return file

/-- Go on with a result, or tell why there is none. -/
def require {ε α : Type} (result : Except ε α) (mention : ε → StartupError) : Startup α :=
  match result with
  | .ok value => return value
  | .error cause => throw (mention cause)

/-- The knowledge base that the bytes of the file with a path spell. -/
def readTable (path : String) (bytes : Option ByteArray) : Startup KnowledgeBase :=
  match bytes.bind String.fromUTF8? with
  | none => throw (.unreadableTable path)
  | some text => require (KnowledgeBase.read text) (.badTable path)

/-- The knowledge base that the settings name, or the standard one. -/
def knowledgeBase (settings : EngineSettings) : Steps KnowledgeBase :=
  match settings.knowledgeBasePath with
  | none => return .standard
  | some path => do readTable path (← readFile path)

/-- The engine with the certainty that the settings choose. -/
def engine (settings : EngineSettings) (knowledgeBase : KnowledgeBase) : Startup Engine :=
  require (Engine.withCertainty knowledgeBase settings.userCertainty) .engine

/-- The history whose sessions the file with a path lists. -/
def openHistory (path : String) (capacity : Nat) : Steps History := do
  require (History.openFile (← findFile path) capacity) (.badHistory path)

/-- The history that the settings choose, with the sessions of its file. -/
def history (settings : HistorySettings) : Steps History := do
  if settings.capacity = 0 then throw .noCapacity
  match settings.file with
  | none => return .inMemory settings.capacity
  | some path => openHistory path settings.capacity

/-- The service with the settings, before its first request. -/
def service (settings : Settings) : Steps Service := do
  let knowledgeBase ← knowledgeBase settings.engine
  let engine ← engine settings.engine knowledgeBase
  let history ← history settings.history
  return .ofParts engine history

/-- The service that listens, if its address is free. -/
def listen
    (settings : Settings)
    (files : String → File)
    (isFree : String → Bool) :
    Startup Service := do
  let service ← service settings files
  if settings.rateLimit.enabled && !settings.rateLimit.isUsable then throw .rateLimit
  let address := settings.server.listenAddress
  if isFree address then return service else throw (.badAddress address)

/-- The outcome of a start, without what it did to the file system. -/
def outcome {α : Type} (startup : Startup α) : Except StartupError α :=
  (startup.run.run []).1

/-- What a start does to the file system, in order. -/
def accesses {α : Type} (startup : Startup α) : List Access :=
  (startup.run.run []).2

end Startup
end FaultFinder
