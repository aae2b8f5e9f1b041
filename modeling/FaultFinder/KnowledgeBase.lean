import FaultFinder.Rule
import FaultFinder.SymptomSet

/-!
# Knowledge bases

A knowledge base is a table of sound rules with different numbers, kept in
the order in which the rules were declared.  Tables are checked from the first
rule on, and the first fault found is the one reported.
-/

namespace FaultFinder

/-- Why a rule table is no knowledge base. -/
inductive TableError where
  /-- The text is no rule table. -/
  | unreadable (detail : String)
  /-- The table has no rules. -/
  | noRules
  /-- A rule is not sound. -/
  | invalidRule (id : UInt32) (fault : RuleFault)
  /-- A rule has the number of an earlier one. -/
  | repeatedRuleId (id : UInt32)
  deriving DecidableEq

/-- The message about a faulty rule table. -/
def TableError.message : TableError → String
  | .unreadable detail => s!"Invalid rule table: {detail}"
  | .noRules => "Knowledge base contains no rules"
  | .invalidRule id fault => fault.message id
  | .repeatedRuleId id => s!"Duplicate rule id: {id}"

namespace KnowledgeBase

/-- The first fault among rules, of which the given numbers are already taken. -/
def firstFaultAfter (taken : List UInt32) : List Rule → Option TableError
  | [] => none
  | rule :: rest =>
    match rule.fault? with
    | some fault => some (.invalidRule rule.id fault)
    | none =>
      if rule.id ∈ taken then some (.repeatedRuleId rule.id)
      else firstFaultAfter (rule.id :: taken) rest

/-- What is wrong with a rule table. -/
def fault? (rules : List Rule) : Option TableError :=
  if rules.isEmpty then some .noRules else firstFaultAfter [] rules

end KnowledgeBase

/-- A sound table of rules. -/
structure KnowledgeBase where
  /-- The rules, in the order of declaration. -/
  rules : List Rule
  /-- Nothing is wrong with the table. -/
  sound : KnowledgeBase.fault? rules = none

namespace KnowledgeBase

/-- The knowledge base of a rule table, or the first fault of the table. -/
def ofRules (rules : List Rule) : Except TableError KnowledgeBase :=
  match sound : fault? rules with
  | none => .ok ⟨rules, sound⟩
  | some error => .error error

/-- The number of rules. -/
def size (knowledgeBase : KnowledgeBase) : Nat :=
  knowledgeBase.rules.length

/-- Whether there are no rules; a sound table always has one. -/
def isEmpty (knowledgeBase : KnowledgeBase) : Bool :=
  knowledgeBase.rules.isEmpty

/-- The rule with the given number. -/
def rule? (knowledgeBase : KnowledgeBase) (id : UInt32) : Option Rule :=
  knowledgeBase.rules.find? (·.id = id)

/-- Every symptom of a rule, once, in ascending order. -/
def symptomNames (knowledgeBase : KnowledgeBase) : List String :=
  (SymptomSet.ofList (knowledgeBase.rules.flatMap (·.symptoms))).toList

end KnowledgeBase
end FaultFinder
