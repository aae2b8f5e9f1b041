import FaultFinder.Finding
import FaultFinder.Json.Reader
import FaultFinder.Json.Record
import FaultFinder.Json.Scalar
import FaultFinder.Json.Writer

/-!
# Findings as JSON records

A finding is a record of the rule's number, its name and remedy, the confidence
and the two counts of symptoms.
-/

namespace FaultFinder
namespace Finding

/-- The names of the fields of a finding. -/
def fieldNames : List String :=
  [ "rule_id", "rule_name", "remedy", "confidence_percent", "matched_symptom_count",
    "total_symptom_count" ]

/-- The finding that a value is. -/
def ofJson? (value : Json) : Option Finding := do
  match ← value.fields? fieldNames with
  | [ruleId, ruleName, remedy, confidencePercent, matchedSymptomCount, totalSymptomCount] =>
    return {
      ruleId := ← ruleId.uint32?
      ruleName := ← ruleName.string?
      remedy := ← remedy.string?
      confidencePercent := ← confidencePercent.uint8?
      matchedSymptomCount := ← matchedSymptomCount.count?
      totalSymptomCount := ← totalSymptomCount.count? }
  | _ => none

/-- The value of a finding. -/
def toJson (finding : Finding) : Json :=
  .ofMembers
    [ ("rule_id", .ofNat finding.ruleId.toNat),
      ("rule_name", .ofString finding.ruleName),
      ("remedy", .ofString finding.remedy),
      ("confidence_percent", .ofNat finding.confidencePercent.toNat),
      ("matched_symptom_count", .ofNat finding.matchedSymptomCount),
      ("total_symptom_count", .ofNat finding.totalSymptomCount) ]

/-- The finding that a text spells. -/
def read (text : List Text.Symbol) : Option Finding :=
  (Json.read text).bind ofJson?

end Finding
end FaultFinder
