import FaultFinder.Proofs.Diagnosis.Confidence

/-!
# Observing more symptoms

When more symptoms are observed, every finding stays, and neither its matches
nor its confidence become lower.  A finding whose matches do not change does
not change at all, since its confidence depends on nothing else.
-/

namespace FaultFinder
namespace Engine

open Certainty

/-- The diagnosis of a larger set of symptoms has every finding again, and none is lowered. -/
structure Grows (engine : Engine) (observed larger : SymptomSet) : Prop where
  /-- A rule that has a finding keeps it. -/
  reported : ∀ finding ∈ engine.diagnose observed,
    ∃ later ∈ engine.diagnose larger, later.ruleId = finding.ruleId
  /-- Neither the matches nor the confidence of a rule become lower. -/
  raised : ∀ finding ∈ engine.diagnose observed, ∀ later ∈ engine.diagnose larger,
    later.ruleId = finding.ruleId →
      finding.matchedSymptomCount ≤ later.matchedSymptomCount ∧
        finding.confidencePercent ≤ later.confidencePercent
  /-- A finding with the same matches is the same finding. -/
  unchanged : ∀ finding ∈ engine.diagnose observed, ∀ later ∈ engine.diagnose larger,
    later.ruleId = finding.ruleId →
      later.matchedSymptomCount = finding.matchedSymptomCount → later = finding
  /-- The rule and the matches determine the confidence, through correctly rounded arithmetic. -/
  determined : ∀ finding ∈ engine.diagnose observed, ∀ rule ∈ engine.knowledgeBase.rules,
    rule.id = finding.ruleId → ∀ percentage,
      IsConfidence rule.baseConfidence engine.userCertainty finding.matchedSymptomCount
          percentage ↔
        percentage = finding.confidencePercent

variable
    {engine : Engine}
    {observed larger : SymptomSet}
    {rule : Rule}

theorem shares_of_contained
    (contained : ∀ symptom ∈ observed.toList, symptom ∈ larger.toList)
    (shares : rule.Shares observed) :
    rule.Shares larger := by
  obtain ⟨symptom, member, isObserved⟩ := shares
  exact ⟨symptom, member, contained symptom isObserved⟩

theorem matchCount_le_of_contained
    (contained : ∀ symptom ∈ observed.toList, symptom ∈ larger.toList)
    (rule : Rule) :
    matchCount observed rule ≤ matchCount larger rule := by
  apply List.countP_mono_left
  intro symptom _ isObserved
  rw [SymptomSet.contains_iff] at isObserved ⊢
  exact contained symptom isObserved

theorem confidencePercent_finding_le
    (contained : ∀ symptom ∈ observed.toList, symptom ∈ larger.toList)
    (sound : rule.IsSound)
    (shares : rule.Shares observed) :
    (engine.finding observed rule).confidencePercent ≤
      (engine.finding larger rule).confidencePercent := by
  have le := matchCount_le_of_contained contained rule
  obtain ⟨further, matched⟩ := exists_matchCount_eq_succ shares
  obtain ⟨beyond, matchedLater⟩ :=
    exists_matchCount_eq_succ (shares_of_contained contained shares)
  rw [matched, matchedLater] at le
  rw [finding, finding, matched, matchedLater]
  exact percent_combineRepeated_le (isCertainty_baseConfidence sound)
    engine.isCertainty_userCertainty (Nat.le_of_add_le_add_right le)

/-- A diagnosis grows with the observed symptoms. -/
theorem diagnose_grows
    (engine : Engine)
    (contained : ∀ symptom ∈ observed.toList, symptom ∈ larger.toList) :
    Grows engine observed larger := by
  refine
    { reported := ?reported
      raised := ?raised
      unchanged := ?unchanged
      determined := ?determined }
  case reported =>
      intro finding found
      obtain ⟨rule, member, shares, rfl⟩ := (mem_diagnose_iff finding).1 found
      have sharesLater := shares_of_contained contained shares
      exact ⟨engine.finding larger rule,
        (mem_diagnose_iff _).2 ⟨rule, member, sharesLater, rfl⟩, rfl⟩
  case raised =>
      intro finding found later foundLater sameId
      obtain ⟨rule, member, shares, rfl⟩ := (mem_diagnose_iff finding).1 found
      obtain ⟨source, sourceMember, _, rfl⟩ := (mem_diagnose_iff later).1 foundLater
      obtain rfl : source = rule := eq_of_id_eq sourceMember member sameId
      have sound := engine.knowledgeBase.isSound_of_mem member
      exact ⟨matchCount_le_of_contained contained source,
        confidencePercent_finding_le contained sound shares⟩
  case unchanged =>
      intro finding found later foundLater sameId sameMatches
      obtain ⟨rule, member, shares, rfl⟩ := (mem_diagnose_iff finding).1 found
      obtain ⟨source, sourceMember, _, rfl⟩ := (mem_diagnose_iff later).1 foundLater
      obtain rfl : source = rule := eq_of_id_eq sourceMember member sameId
      have matched : matchCount larger source = matchCount observed source := sameMatches
      rw [finding, finding, matched]
  case determined =>
      intro finding found rule member sameId percentage
      obtain ⟨source, sourceMember, shares, rfl⟩ := (mem_diagnose_iff finding).1 found
      obtain rfl : rule = source := eq_of_id_eq member sourceMember sameId
      have sound := engine.knowledgeBase.isSound_of_mem member
      have isConfidence := isConfidence_finding engine sound shares
      constructor
      · intro isOther
        exact isOther.unique isConfidence
      · rintro rfl
        exact isConfidence

/-- Beeps alone, and with restarts added: then the second rule is found with more confidence. -/
theorem diagnose_grows_standard :
    (∀ symptom ∈ (SymptomSet.ofList ["Bunyi beep 3 kali"]).toList,
      symptom ∈ (SymptomSet.ofList ["Komputer restart sendiri", "Bunyi beep 3 kali"]).toList) ∧
    Grows (ofKnowledgeBase .standard) (.ofList ["Bunyi beep 3 kali"])
      (.ofList ["Komputer restart sendiri", "Bunyi beep 3 kali"]) ∧
    (∃ finding ∈ (ofKnowledgeBase .standard).diagnose (.ofList ["Bunyi beep 3 kali"]),
      finding.ruleId = 2 ∧ finding.confidencePercent = 72) ∧
    ∃ later ∈ (ofKnowledgeBase .standard).diagnose
        (.ofList ["Komputer restart sendiri", "Bunyi beep 3 kali"]),
      later.ruleId = 2 ∧ later.confidencePercent = 92 := by
  have contained :
      ∀ symptom ∈ (SymptomSet.ofList ["Bunyi beep 3 kali"]).toList,
        symptom ∈
          (SymptomSet.ofList ["Komputer restart sendiri", "Bunyi beep 3 kali"]).toList := by
    decide
  refine ⟨contained, diagnose_grows _ contained, ?before, ?after⟩
  case before =>
      rw [exists_mem_diagnose_iff]
      decide +kernel
  case after =>
      rw [exists_mem_diagnose_iff]
      decide +kernel

end Engine
end FaultFinder
