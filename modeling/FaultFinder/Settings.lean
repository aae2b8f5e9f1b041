import FaultFinder.Certainty
import FaultFinder.History

/-!
# Settings of the service

The settings in five sections, each with its usual values.
-/

namespace FaultFinder

/-- Where and how the service listens. -/
structure ServerSettings where
  /-- The address to listen at. -/
  listenAddress : String := "0.0.0.0:8080"
  /-- Whether pages from anywhere may use the service. -/
  enableCors : Bool := true
  deriving DecidableEq

/-- How diagnoses are made. -/
structure EngineSettings where
  /-- The certainty of every reported symptom. -/
  userCertainty : Binary64 := Certainty.reported
  /-- The path of a rule table; the standard knowledge base is used without one. -/
  knowledgeBasePath : Option String := none
  deriving DecidableEq

/-- How sessions are recorded. -/
structure HistorySettings where
  /-- How many sessions are kept. -/
  capacity : Nat := History.usualCapacity
  /-- The path of a file that lists the sessions, if there is to be one. -/
  file : Option String := none
  deriving DecidableEq

/-- How often a client may send requests. -/
structure RateLimitSettings where
  /-- Whether there is a limit. -/
  enabled : Bool := false
  /-- The seconds after which one more request is allowed. -/
  perSecond : Nat := 2
  /-- How many requests may come at once. -/
  burstSize : UInt32 := 5
  deriving DecidableEq

/-- What is logged. -/
structure LoggingSettings where
  /-- The least important level that is logged. -/
  level : String := "info"
  /-- Whether the log consists of JSON texts. -/
  json : Bool := false
  deriving DecidableEq

/-- All settings. -/
structure Settings where
  /-- Where and how the service listens. -/
  server : ServerSettings := {}
  /-- How diagnoses are made. -/
  engine : EngineSettings := {}
  /-- How sessions are recorded. -/
  history : HistorySettings := {}
  /-- How often a client may send requests. -/
  rateLimit : RateLimitSettings := {}
  /-- What is logged. -/
  logging : LoggingSettings := {}
  deriving DecidableEq

/-- Whether a limit can be kept: it needs a time and a number of requests. -/
def RateLimitSettings.isUsable (settings : RateLimitSettings) : Bool :=
  settings.perSecond ≠ 0 && settings.burstSize ≠ 0

end FaultFinder
