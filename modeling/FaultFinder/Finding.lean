/-!
# Findings

A finding is one entry of a diagnosis: a fault that observed symptoms speak
for, with its confidence.
-/

namespace FaultFinder

/-- A fault that observed symptoms speak for. -/
structure Finding where
  /-- The number of the rule. -/
  ruleId : UInt32
  /-- The name of the fault. -/
  ruleName : String
  /-- What to do about the fault. -/
  remedy : String
  /-- The confidence in percent. -/
  confidencePercent : UInt8
  /-- How many symptoms of the rule were observed. -/
  matchedSymptomCount : Nat
  /-- How many symptoms the rule has. -/
  totalSymptomCount : Nat
  deriving DecidableEq

end FaultFinder
