/-!
# Counters

The diagnoses that were made, and the distribution of the number of their
findings.  Counters are shown as a text, in which each of them has a line; what
else the text says, and in which order, is left to those who write it.
-/

namespace FaultFinder
namespace Service

/-- Counts of diagnoses. -/
structure Metrics where
  /-- How many diagnoses were made. -/
  diagnoses : Nat
  /-- How many of them found nothing. -/
  emptyDiagnoses : Nat
  /-- How often a number of findings was observed. -/
  observations : Nat
  /-- The sum of the observed numbers of findings. -/
  findings : Nat
  deriving DecidableEq

namespace Metrics

/-- The counts before the first diagnosis. -/
def zero : Metrics :=
  ⟨0, 0, 0, 0⟩

/-- The counts after one more diagnosis with a number of findings. -/
def observe (metrics : Metrics) (findings : Nat) : Metrics :=
  { diagnoses := metrics.diagnoses + 1
    emptyDiagnoses := metrics.emptyDiagnoses + if findings = 0 then 1 else 0
    observations := metrics.observations + 1
    findings := metrics.findings + findings }

/-- The names of the counters. -/
def names : List String :=
  [ "diagnoses_empty_total", "diagnoses_total", "diagnosis_result_count_count",
    "diagnosis_result_count_sum" ]

/-- The line of a counter, which is missing until something has been counted. -/
def line (name : String) (touched value : Nat) : List String :=
  if touched = 0 then [] else [s!"{name} {value}"]

/-- The lines of the counters, in the order of their names. -/
def lines (metrics : Metrics) : List String :=
  line "diagnoses_empty_total" metrics.emptyDiagnoses metrics.emptyDiagnoses ++
    line "diagnoses_total" metrics.diagnoses metrics.diagnoses ++
    line "diagnosis_result_count_count" metrics.observations metrics.observations ++
    line "diagnosis_result_count_sum" metrics.observations metrics.findings

/-- Whether a line of a text is that of a counter. -/
def isLine (text : String) : Bool :=
  names.any fun name => (name ++ " ").toList.isPrefixOf text.toList

theorem isLine_of_mem_line
    {name text : String}
    {touched value : Nat}
    (known : name ∈ names)
    (isText : text ∈ line name touched value) :
    isLine text = true := by
  rw [line] at isText
  split at isText
  · cases isText
  · have spelled :
        (s!"{name} {value}").toList = (name ++ " ").toList ++ (toString value).toList :=
      String.toList_append
    rw [List.mem_singleton.1 isText, isLine, List.any_eq_true]
    refine ⟨name, known, ?_⟩
    rw [List.isPrefixOf_iff_prefix, spelled]
    exact List.prefix_append _ _

theorem filter_isLine_lines (metrics : Metrics) : metrics.lines.filter isLine = metrics.lines := by
  rw [List.filter_eq_self]
  intro text isText
  simp only [lines, List.mem_append] at isText
  rcases isText with ((isText | isText) | isText) | isText <;>
    exact isLine_of_mem_line (by decide) isText

/-- How counters are shown: their lines stand among others. -/
structure Exposition where
  /-- The lines of the text that shows some counters. -/
  write : Metrics → List String
  /-- The lines of the counters are among them, in any order, and there is no other such line. -/
  shows : ∀ metrics, ((write metrics).filter isLine).Perm metrics.lines

/-- The exposition without any other lines. -/
def Exposition.plain : Exposition where
  write := lines
  shows metrics := .of_eq metrics.filter_isLine_lines

end Metrics
end Service
end FaultFinder
