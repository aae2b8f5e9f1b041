import FaultFinder.Json.Reader
import FaultFinder.Json.Record
import FaultFinder.Json.Scalar
import FaultFinder.Json.Writer
import FaultFinder.Rule

/-!
# Rules as JSON records

A rule is a record of its number, name, symptoms, confidence and remedy.
-/

namespace FaultFinder
namespace Rule

/-- The names of the fields of a rule. -/
def fieldNames : List String :=
  ["id", "name", "symptoms", "base_confidence", "remedy"]

/-- The rule that a value is. -/
def ofJson? (value : Json) : Option Rule := do
  match ← value.fields? fieldNames with
  | [id, name, symptoms, baseConfidence, remedy] =>
    return {
      id := ← id.uint32?
      name := ← name.string?
      symptoms := ← symptoms.list? Json.string?
      baseConfidence := ← baseConfidence.binary64?
      remedy := ← remedy.string? }
  | _ => none

/-- The value of a rule. -/
def toJson (rule : Rule) : Json :=
  .ofMembers
    [ ("id", .ofNat rule.id.toNat),
      ("name", .ofString rule.name),
      ("symptoms", .ofList Json.ofString rule.symptoms),
      ("base_confidence", .ofBinary64 rule.baseConfidence),
      ("remedy", .ofString rule.remedy) ]

/-- The rule that a text spells. -/
def read (text : List Text.Symbol) : Option Rule :=
  (Json.read text).bind ofJson?

end Rule
end FaultFinder
