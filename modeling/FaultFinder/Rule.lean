import FaultFinder.Numeral.Layout

/-!
# Fault rules

A rule names a fault, the symptoms that speak for it, how certain the fault is
when one of them is present, and what to do about it.  A rule is sound when it
has symptoms, lists none of them twice, and its confidence is greater than zero
and at most one.
-/

namespace FaultFinder

/-- A fault and the symptoms that speak for it. -/
structure Rule where
  /-- The number of the rule, different for each rule of a knowledge base. -/
  id : UInt32
  /-- The name of the fault. -/
  name : String
  /-- The symptoms that speak for the fault. -/
  symptoms : List String
  /-- The confidence that one certain symptom gives. -/
  baseConfidence : Binary64
  /-- What to do about the fault. -/
  remedy : String
  deriving DecidableEq

/-- What can be wrong with a single rule. -/
inductive RuleFault where
  /-- The rule has no symptoms. -/
  | noSymptoms
  /-- The confidence is not greater than zero and at most one. -/
  | confidenceOutOfRange (value : Binary64)
  /-- A symptom is listed again. -/
  | repeatedSymptom (symptom : String)
  deriving DecidableEq

/-- The first element that equals one of the elements seen before it. -/
def firstRepeatedAfter {α : Type} [DecidableEq α] (seen : List α) : List α → Option α
  | [] => none
  | first :: rest =>
    if first ∈ seen then some first else firstRepeatedAfter (first :: seen) rest

namespace Rule

/-- What is wrong with a rule: the missing symptoms before the confidence before repetitions. -/
def fault? (rule : Rule) : Option RuleFault :=
  if rule.symptoms.isEmpty then some .noSymptoms
  else if !rule.baseConfidence.inUnitInterval then
    some (.confidenceOutOfRange rule.baseConfidence)
  else (firstRepeatedAfter [] rule.symptoms).map .repeatedSymptom

/-- Whether a symptom speaks for the rule. -/
def hasSymptom (rule : Rule) (symptom : String) : Bool :=
  rule.symptoms.contains symptom

/-- The number of symptoms of the rule. -/
def symptomCount (rule : Rule) : Nat :=
  rule.symptoms.length

end Rule

/-- The message about a fault of the rule with the given number. -/
def RuleFault.message (id : UInt32) : RuleFault → String
  | .noSymptoms => s!"Rule {id} has an empty symptom set"
  | .confidenceOutOfRange value =>
    s!"Rule {id} base confidence {Layout.messageText value} is out of range (0, 1]"
  | .repeatedSymptom symptom => s!"Rule {id} lists symptom '{symptom}' more than once"

end FaultFinder
