import FaultFinder.Certainty
import FaultFinder.Finding
import FaultFinder.KnowledgeBase.Standard

/-!
# Diagnosis

An engine holds a knowledge base and the certainty of every reported symptom.
It finds each rule that has an observed symptom; every such symptom is one
piece of evidence, worth the rule's confidence times the certainty of the
report.  Findings are ranked by confidence, and equally confident ones keep the
order of the rules.
-/

namespace FaultFinder

/-- Why an engine cannot be made. -/
inductive EngineError where
  /-- The certainty of reported symptoms is not greater than zero and at most one. -/
  | certaintyOutOfRange (value : Binary64)
  deriving DecidableEq

/-- The message about an engine that cannot be made. -/
def EngineError.message : EngineError → String
  | .certaintyOutOfRange value =>
    s!"User certainty {Layout.messageText value} is out of range (0, 1]"

/-- A knowledge base, ready for diagnosis. -/
structure Engine where
  /-- The rules. -/
  knowledgeBase : KnowledgeBase
  /-- The certainty of every reported symptom. -/
  userCertainty : Binary64
  /-- The certainty is greater than zero and at most one. -/
  inRange : userCertainty.inUnitInterval = true

namespace Engine

/-- The engine with the usual certainty of reports. -/
def ofKnowledgeBase (knowledgeBase : KnowledgeBase) : Engine :=
  ⟨knowledgeBase, Certainty.reported, by decide +kernel⟩

/-- The engine with a chosen certainty of reports. -/
def withCertainty
    (knowledgeBase : KnowledgeBase)
    (userCertainty : Binary64) :
    Except EngineError Engine :=
  if inRange : userCertainty.inUnitInterval = true then
    .ok ⟨knowledgeBase, userCertainty, inRange⟩
  else .error (.certaintyOutOfRange userCertainty)

/-- How many symptoms of a rule were observed. -/
def matchCount (observed : SymptomSet) (rule : Rule) : Nat :=
  rule.symptoms.countP observed.contains

/-- The finding of a rule, if one of its symptoms was observed. -/
def evaluate? (engine : Engine) (observed : SymptomSet) (rule : Rule) : Option Finding :=
  let matched := matchCount observed rule
  if matched = 0 then none
  else
    let evidence := rule.baseConfidence * engine.userCertainty
    some
      { ruleId := rule.id
        ruleName := rule.name
        remedy := rule.remedy
        confidencePercent := Certainty.percent (Certainty.combineRepeated evidence matched)
        matchedSymptomCount := matched
        totalSymptomCount := rule.symptomCount }

/-- The findings for observed symptoms, the most confident first. -/
def diagnose (engine : Engine) (observed : SymptomSet) : List Finding :=
  (engine.knowledgeBase.rules.filterMap (engine.evaluate? observed)).mergeSort
    fun left right => right.confidencePercent ≤ left.confidencePercent

end Engine
end FaultFinder
