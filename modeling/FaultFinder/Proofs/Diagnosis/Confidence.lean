import FaultFinder.Proofs.Diagnosis.Ranking

/-!
# The confidence of a finding

The confidence that an engine states is what correctly rounded arithmetic gives
for the confidence of the rule, the certainty of reports and the number of
matches.  Nothing else enters it, and it differs from the exact confidence by
little more than the half percent that rounding to whole percent costs.
-/

namespace FaultFinder

open Binary64

namespace Certainty

/--
A percentage states what a number of reports gives, each worth the confidence of
a rule times the certainty of the report, when every operation is rounded once.
-/
def IsConfidence
    (base user : Binary64)
    (pieces : Nat)
    (percentage : UInt8) : Prop :=
  ∃ evidence certainty,
    IsNearest (base.value * user.value) evidence ∧ Accumulates evidence pieces certainty ∧
      IsPercentage certainty percentage

variable
    {base user : Binary64}
    {percentage : UInt8}

/-- One report gives the product of two certainties, rounded. -/
theorem isNearest_evidence
    (isBase : IsCertainty base)
    (isUser : IsCertainty user) :
    IsNearest (base.value * user.value) (base * user) ∧ IsCertainty (base * user) := by
  have nonneg := mul_nonneg isBase.nonneg isUser.nonneg
  have le_one := mul_le_one₀ isBase.le_one isUser.nonneg isUser.le_one
  have nearest : IsNearest (base.value * user.value) (base * user) := by
    apply isNearest_mul one isBase.isFinite isUser.isFinite
    rw [value_one, abs_of_nonneg nonneg]
    exact le_one
  exact ⟨nearest, .of_isNearest nearest nonneg le_one⟩

theorem isConfidence_percent
    (isBase : IsCertainty base)
    (isUser : IsCertainty user)
    (pieces : Nat) :
    IsConfidence base user (pieces + 1)
      (percent (combineRepeated (base * user) (pieces + 1))) := by
  obtain ⟨nearest, isEvidence⟩ := isNearest_evidence isBase isUser
  have accumulates := accumulates_combineRepeated isEvidence pieces
  exact ⟨_, _, nearest, accumulates,
    isPercentage_percent (accumulates.isCertainty isEvidence)⟩

/-- Powers of numbers up to one are apart by at most the sum of the distances of their factors. -/
theorem abs_pow_sub_pow_le_mul
    {left right : ℚ}
    (leftLe : |left| ≤ 1)
    (rightLe : |right| ≤ 1)
    (exponent : Nat) :
    |left ^ exponent - right ^ exponent| ≤ exponent * |left - right| := by
  have greatest : max |left| |right| ^ (exponent - 1) ≤ 1 :=
    pow_le_one₀ ((abs_nonneg left).trans (le_max_left _ _)) (max_le leftLe rightLe)
  calc
    |left ^ exponent - right ^ exponent|
        ≤ |left - right| * exponent * max |left| |right| ^ (exponent - 1) :=
      abs_pow_sub_pow_le left right exponent
    _ ≤ |left - right| * exponent :=
      mul_le_of_le_one_right (mul_nonneg (abs_nonneg _) (Nat.cast_nonneg _)) greatest
    _ = exponent * |left - right| := mul_comm _ _

namespace IsConfidence

/-- There is one confidence for a number of reports. -/
theorem unique
    {pieces : Nat}
    {other : UInt8}
    (isConfidence : IsConfidence base user pieces percentage)
    (isOther : IsConfidence base user pieces other) :
    percentage = other := by
  obtain ⟨evidence, certainty, nearest, accumulates, isPercentage⟩ := isConfidence
  obtain ⟨otherEvidence, otherCertainty, otherNearest, otherAccumulates, isOtherPercentage⟩ :=
    isOther
  have sameEvidence := nearest.unique otherNearest
  exact isPercentage.unique isOtherPercentage (accumulates.unique sameEvidence otherAccumulates)

/--
A confidence is off by half a percent for its own rounding, by the error of the
hundredfold, and by the hundredfold of the errors of the certainty: one for each
piece of evidence, and three for each combination.
-/
theorem abs_sub_le
    {pieces : Nat}
    (isConfidence : IsConfidence base user pieces percentage)
    (isBase : IsCertainty base)
    (isUser : IsCertainty user) :
    |percentage.toNat - 100 * (1 - (1 - base.value * user.value) ^ pieces)| ≤
      (1 / 2 + (pieces + 1) / 2 ^ 45 : ℚ) := by
  obtain ⟨evidence, certainty, nearest, accumulates, isPercentage⟩ := isConfidence
  have nonneg := mul_nonneg isBase.nonneg isUser.nonneg
  have le_one := mul_le_one₀ isBase.le_one isUser.nonneg isUser.le_one
  have isEvidence := IsCertainty.of_isNearest nearest nonneg le_one
  have evidenceError : |evidence.value - base.value * user.value| ≤ 1 / 2 ^ 54 := by
    apply nearest.abs_sub_le_of_abs_le_one
    rwa [abs_of_nonneg nonneg]
  have powerError :
      |(1 - evidence.value) ^ pieces - (1 - base.value * user.value) ^ pieces| ≤
        pieces * (1 / 2 ^ 54) := by
    refine (abs_pow_sub_pow_le_mul ?evidence ?product pieces).trans ?_
    case evidence =>
      exact abs_le.2 (by constructor <;> linarith [isEvidence.nonneg, isEvidence.le_one])
    case product => exact abs_le.2 (by constructor <;> linarith)
    rw [sub_sub_sub_cancel_left, abs_sub_comm]
    exact mul_le_mul_of_nonneg_left evidenceError (Nat.cast_nonneg pieces)
  have certaintyError := accumulates.abs_sub_le isEvidence
  have percentError := isPercentage.abs_sub_le (accumulates.isCertainty isEvidence)
  obtain ⟨powerBelow, powerAbove⟩ := abs_le.1 powerError
  obtain ⟨certaintyBelow, certaintyAbove⟩ := abs_le.1 certaintyError
  obtain ⟨percentBelow, percentAbove⟩ := abs_le.1 percentError
  have manyPieces : (0 : ℚ) ≤ pieces := Nat.cast_nonneg pieces
  rw [abs_le]
  constructor <;> linarith

end IsConfidence

/-- More reports never give a lower percentage. -/
theorem percent_combineRepeated_le
    (isBase : IsCertainty base)
    (isUser : IsCertainty user)
    {fewer more : Nat}
    (le : fewer ≤ more) :
    percent (combineRepeated (base * user) (fewer + 1)) ≤
      percent (combineRepeated (base * user) (more + 1)) := by
  obtain ⟨_, isEvidence⟩ := isNearest_evidence isBase isUser
  have isFewer := (accumulates_combineRepeated isEvidence fewer).isCertainty isEvidence
  have isMore := (accumulates_combineRepeated isEvidence more).isCertainty isEvidence
  exact (isPercentage_percent isFewer).mono (isPercentage_percent isMore)
    (monotone_combineRepeated isEvidence le)

end Certainty

/-! ## The findings of an engine -/

namespace Engine

open Certainty

theorem isCertainty_baseConfidence
    {rule : Rule}
    (sound : rule.IsSound) :
    IsCertainty rule.baseConfidence :=
  isCertainty_of_inUnitInterval sound.inRange

theorem isCertainty_userCertainty (engine : Engine) : IsCertainty engine.userCertainty :=
  isCertainty_of_inUnitInterval engine.inRange

variable
    {engine : Engine}
    {observed : SymptomSet}
    {rule : Rule}

theorem exists_matchCount_eq_succ
    (shares : rule.Shares observed) :
    ∃ further, matchCount observed rule = further + 1 := by
  apply Nat.exists_eq_succ_of_ne_zero
  intro none
  exact (matchCount_eq_zero_iff observed rule).1 none shares

theorem isConfidence_finding
    (engine : Engine)
    (sound : rule.IsSound)
    (shares : rule.Shares observed) :
    IsConfidence rule.baseConfidence engine.userCertainty (matchCount observed rule)
      (engine.finding observed rule).confidencePercent := by
  obtain ⟨further, matched⟩ := exists_matchCount_eq_succ shares
  rw [finding, matched]
  exact isConfidence_percent (isCertainty_baseConfidence sound)
    engine.isCertainty_userCertainty further

/-- What an engine states about a rule is the exact confidence, up to a small error. -/
structure StatesAccurately
    (engine : Engine)
    (observed : SymptomSet)
    (rule : Rule)
    (finding : Finding) : Prop where
  /-- The finding is that of the rule. -/
  ruleId : finding.ruleId = rule.id
  /-- No other finding is that of the rule. -/
  only : ∀ other ∈ engine.diagnose observed, other.ruleId = rule.id → other = finding
  /-- The common symptoms are counted. -/
  matched :
    finding.matchedSymptomCount = (rule.symptoms.toFinset ∩ observed.toList.toFinset).card
  /-- The confidence is computed with every operation rounded to the nearest number. -/
  rounded :
    IsConfidence rule.baseConfidence engine.userCertainty finding.matchedSymptomCount
      finding.confidencePercent
  /-- The confidence is near to the exact one. -/
  accurate :
    |finding.confidencePercent.toNat -
        100 *
          (1 - (1 - rule.baseConfidence.value * engine.userCertainty.value) ^
            finding.matchedSymptomCount)| ≤
      (1 / 2 + (finding.matchedSymptomCount + 1) / 2 ^ 45 : ℚ)

/--
The confidence of every rule that shares an observed symptom is stated
accurately.  Behind this is a law of repeated combination: further equal pieces
of evidence never lower a certainty, one is not exceeded, and the distance to
the exact certainty is at most three rounding errors for each further piece.
-/
theorem confidence_accurate :
    (∀ (engine : Engine) (observed : SymptomSet), ∀ rule ∈ engine.knowledgeBase.rules,
      rule.Shares observed →
        ∃ finding ∈ engine.diagnose observed, StatesAccurately engine observed rule finding) ∧
    (∀ evidence, IsCertainty evidence → ∀ fewer more, 1 ≤ fewer → fewer ≤ more →
      IsCertainty (combineRepeated evidence fewer) ∧
        evidence.value ≤ (combineRepeated evidence fewer).value ∧
        (combineRepeated evidence fewer).value ≤ (combineRepeated evidence more).value ∧
        (combineRepeated evidence more).value ≤ 1 ∧
        |(combineRepeated evidence fewer).value - (1 - (1 - evidence.value) ^ fewer)| ≤
          3 * (fewer - 1) / 2 ^ 54) := by
  constructor
  · intro engine observed rule member shares
    have sound := engine.knowledgeBase.isSound_of_mem member
    have describes : Describes engine observed rule (engine.finding observed rule) :=
      describes_finding sound shares
    have isConfidence := isConfidence_finding engine sound shares
    refine ⟨engine.finding observed rule, (mem_diagnose_iff _).2 ⟨rule, member, shares, rfl⟩, ?_⟩
    refine
      { ruleId := rfl
        only := ?_
        matched := describes.matched
        rounded := isConfidence
        accurate := isConfidence.abs_sub_le (isCertainty_baseConfidence sound)
          engine.isCertainty_userCertainty }
    intro other found sameId
    obtain ⟨source, sourceMember, _, rfl⟩ := (mem_diagnose_iff other).1 found
    rw [eq_of_id_eq sourceMember member sameId]
  · intro evidence isEvidence fewer more positive le
    obtain ⟨further, rfl⟩ := Nat.exists_eq_add_of_le' positive
    obtain ⟨beyond, rfl⟩ := Nat.exists_eq_add_of_le' (positive.trans le)
    have monotone := monotone_combineRepeated isEvidence
    have isFewer := accumulates_combineRepeated isEvidence further
    have isMore := accumulates_combineRepeated isEvidence beyond
    refine ⟨isFewer.isCertainty isEvidence, monotone (Nat.zero_le further), ?_, ?_, ?_⟩
    · exact monotone (Nat.le_of_add_le_add_right le)
    · exact (isMore.isCertainty isEvidence).le_one
    · exact isFewer.abs_sub_le isEvidence

/-- A symptom of the standard rules, and the usual certainty of reports combined three times. -/
theorem confidence_accurate_standard :
    (∃ finding ∈ (ofKnowledgeBase .standard).diagnose (.ofList ["Bunyi klik", "Blue screen"]),
      ∃ rule ∈ KnowledgeBase.standardRules, rule.name = "Hard disk bermasalah" ∧
        StatesAccurately (ofKnowledgeBase .standard) (.ofList ["Bunyi klik", "Blue screen"])
          rule finding) ∧
    |(combineRepeated reported 3).value - (1 - (1 - reported.value) ^ 3)| ≤
      (6 / 2 ^ 54 : ℚ) := by
  constructor
  · obtain ⟨rule, member, isName, shares⟩ :
        ∃ rule ∈ KnowledgeBase.standardRules, rule.name = "Hard disk bermasalah" ∧
          rule.Shares (.ofList ["Bunyi klik", "Blue screen"]) := by
      refine ⟨KnowledgeBase.standardRules[2], List.getElem_mem _, rfl, "Bunyi klik", ?_, ?_⟩
      · exact List.mem_cons_self
      · decide
    obtain ⟨finding, found, accurate⟩ :=
      confidence_accurate.1 (ofKnowledgeBase .standard) _ rule member shares
    exact ⟨finding, found, rule, member, isName, accurate⟩
  · have isEvidence : IsCertainty reported := isCertainty_of_inUnitInterval (by decide +kernel)
    obtain ⟨_, _, _, _, error⟩ :=
      confidence_accurate.2 reported isEvidence 3 3 (by decide) le_rfl
    exact error.trans_eq (by norm_num)

end Engine
end FaultFinder
