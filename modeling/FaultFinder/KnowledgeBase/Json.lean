import FaultFinder.KnowledgeBase
import FaultFinder.Rule.Json

/-!
# Rule tables as JSON texts

A rule table is an array of rules.  The rules of a text are checked like those
of any table.
-/

namespace FaultFinder
namespace KnowledgeBase

/-- The rules that a text lists. -/
def readRules (text : List Text.Symbol) : Option (List Rule) :=
  (Json.read text).bind (Json.list? Rule.ofJson?)

/-- The knowledge base that a text spells. -/
def read (text : String) : Except TableError KnowledgeBase :=
  match readRules (Text.symbols text) with
  | some rules => ofRules rules
  | none => .error (.unreadable "the text is not a list of rules")

/-- The text of the rules, without white space. -/
def text (knowledgeBase : KnowledgeBase) : String :=
  (Json.ofList Rule.toJson knowledgeBase.rules).compact

end KnowledgeBase
end FaultFinder
