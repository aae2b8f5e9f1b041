import FaultFinder.Diagnosis
import FaultFinder.Proofs.Certainty
import FaultFinder.Proofs.KnowledgeBase
import FaultFinder.Proofs.SymptomSet

/-!
# The ranking of a diagnosis

A diagnosis has one finding for each rule that shares a symptom with the
observed ones.  More confident findings come first, and equally confident ones
come in the order of their rules.  No other list of findings is like this.
-/

namespace FaultFinder

/-! ## Sorting keeps the order of equals -/

section Sorting

variable {α : Type}

theorem rel_of_pair_sublist
    {relation : α → α → Prop}
    {elements : List α}
    (pairwise : elements.Pairwise relation)
    {left right : α}
    (ordered : [left, right].Sublist elements) :
    relation left right :=
  List.pairwise_iff_forall_sublist.1 pairwise ordered

theorem pair_sublist_or_of_mem
    {elements : List α}
    {left right : α}
    (leftMember : left ∈ elements)
    (rightMember : right ∈ elements)
    (different : left ≠ right) :
    [left, right].Sublist elements ∨ [right, left].Sublist elements := by
  induction elements with
  | nil => cases leftMember
  | cons first rest inductionHypothesis =>
      rcases List.mem_cons.1 leftMember with rfl | leftLater
      · rcases List.mem_cons.1 rightMember with rfl | rightLater
        · exact absurd rfl different
        · exact .inl (List.Sublist.cons_cons left (List.singleton_sublist.2 rightLater))
      · rcases List.mem_cons.1 rightMember with rfl | rightLater
        · exact .inr (List.Sublist.cons_cons right (List.singleton_sublist.2 leftLater))
        · rcases inductionHypothesis leftLater rightLater with before | behind
          · exact .inl (List.Sublist.cons first before)
          · exact .inr (List.Sublist.cons first behind)

/-- Different elements are at ascending places. -/
theorem pairwise_idxOf_lt
    [DecidableEq α]
    {elements : List α}
    (distinct : elements.Nodup) :
    elements.Pairwise fun left right => elements.idxOf left < elements.idxOf right := by
  rw [List.pairwise_iff_getElem]
  intro first second firstBound secondBound before
  rw [distinct.idxOf_getElem first firstBound, distinct.idxOf_getElem second secondBound]
  exact before

theorem not_sublist_swap
    [DecidableEq α]
    {elements : List α}
    (distinct : elements.Nodup)
    {left right : α}
    (ordered : [left, right].Sublist elements) :
    ¬[right, left].Sublist elements := by
  intro swapped
  have ascending := pairwise_idxOf_lt distinct
  exact Nat.lt_asymm (rel_of_pair_sublist ascending ordered)
    (rel_of_pair_sublist ascending swapped)

/-- Elements at ascending positions are sorted so that equals stay at ascending positions. -/
theorem pairwise_mergeSort_position
    [DecidableEq α]
    {precedes : α → α → Bool}
    (transitive : ∀ first second third,
      precedes first second → precedes second third → precedes first third)
    (total : ∀ left right, precedes left right || precedes right left)
    {position : α → Nat}
    {elements : List α}
    (ascending : elements.Pairwise (position · < position ·)) :
    (elements.mergeSort precedes).Pairwise fun left right =>
      precedes left right = true ∧
        (precedes right left = true → position left < position right) := by
  have permuted := List.mergeSort_perm elements precedes
  have distinct : elements.Nodup := ascending.imp fun less same => by
    rw [same] at less
    exact Nat.lt_irrefl _ less
  have sortedDistinct : (elements.mergeSort precedes).Nodup := permuted.nodup_iff.2 distinct
  have sorted := List.pairwise_mergeSort transitive total elements
  rw [List.pairwise_iff_forall_sublist]
  intro left right ordered
  refine ⟨rel_of_pair_sublist sorted ordered, ?_⟩
  intro equal
  have different : left ≠ right := by
    have pair := sortedDistinct.sublist ordered
    intro same
    rw [same] at pair
    exact (List.nodup_cons.1 pair).1 List.mem_cons_self
  have leftMember := permuted.mem_iff.1 (ordered.subset List.mem_cons_self)
  have rightMember :=
    permuted.mem_iff.1 (ordered.subset (List.mem_cons_of_mem left List.mem_cons_self))
  -- Equals that stood the other way round would have been kept that way.
  rcases pair_sublist_or_of_mem leftMember rightMember different with before | behind
  · exact rel_of_pair_sublist ascending before
  · have swapped := List.pair_sublist_mergeSort transitive total equal behind
    exact absurd swapped (not_sublist_swap sortedDistinct ordered)

/-- Some of the elements are sorted as they are among all of them. -/
theorem filter_mergeSort
    [DecidableEq α]
    {precedes : α → α → Bool}
    (transitive : ∀ first second third,
      precedes first second → precedes second third → precedes first third)
    (total : ∀ left right, precedes left right || precedes right left)
    {elements : List α}
    (distinct : elements.Nodup)
    (keeps : α → Bool) :
    (elements.mergeSort precedes).filter keeps = (elements.filter keeps).mergeSort precedes := by
  -- Both lists are sorted, and equals are at ascending places among `elements` in both.
  have ascending := pairwise_idxOf_lt distinct
  have sorted := pairwise_mergeSort_position transitive total ascending
  have sortedPart :=
    pairwise_mergeSort_position transitive total (ascending.sublist (List.filter_sublist (p := keeps)))
  have permuted :
      ((elements.mergeSort precedes).filter keeps).Perm
        ((elements.filter keeps).mergeSort precedes) :=
    ((List.mergeSort_perm elements precedes).filter keeps).trans
      (List.mergeSort_perm (elements.filter keeps) precedes).symm
  refine List.Perm.eq_of_pairwise ?_ (sorted.sublist List.filter_sublist) sortedPart permuted
  rintro left right _ _ ⟨before, earlier⟩ ⟨behind, later⟩
  exact absurd (later before) (Nat.lt_asymm (earlier behind))

end Sorting

/-! ## Single findings -/

/-- The rule has a symptom in common with the observed ones. -/
def Rule.Shares (rule : Rule) (observed : SymptomSet) : Prop :=
  ∃ symptom ∈ rule.symptoms, symptom ∈ observed.toList

namespace Engine

/-- The finding of a rule of which some symptoms were observed. -/
def finding (engine : Engine) (observed : SymptomSet) (rule : Rule) : Finding :=
  { ruleId := rule.id
    ruleName := rule.name
    remedy := rule.remedy
    confidencePercent :=
      Certainty.percent
        (Certainty.combineRepeated (rule.baseConfidence * engine.userCertainty)
          (matchCount observed rule))
    matchedSymptomCount := matchCount observed rule
    totalSymptomCount := rule.symptomCount }

theorem matchCount_eq_zero_iff
    (observed : SymptomSet)
    (rule : Rule) :
    matchCount observed rule = 0 ↔ ¬rule.Shares observed := by
  rw [matchCount, List.countP_eq_zero, Rule.Shares]
  simp only [SymptomSet.contains_iff, not_exists, not_and]

/-- The matches are the members of the intersection when no symptom is listed twice. -/
theorem matchCount_eq_card
    (observed : SymptomSet)
    {rule : Rule}
    (distinct : rule.symptoms.Nodup) :
    matchCount observed rule =
      (rule.symptoms.toFinset ∩ observed.toList.toFinset).card := by
  have inBoth :
      rule.symptoms.toFinset ∩ observed.toList.toFinset =
        (rule.symptoms.filter observed.contains).toFinset := by
    ext symptom
    rw [Finset.mem_inter, List.mem_toFinset, List.mem_toFinset, List.mem_toFinset,
      List.mem_filter, SymptomSet.contains_iff]
  rw [inBoth, List.toFinset_card_of_nodup (distinct.filter _), matchCount,
    List.countP_eq_length_filter]

theorem matchCount_le_size
    (observed : SymptomSet)
    {rule : Rule}
    (distinct : rule.symptoms.Nodup) :
    matchCount observed rule ≤ observed.size := by
  rw [matchCount_eq_card observed distinct]
  calc
    (rule.symptoms.toFinset ∩ observed.toList.toFinset).card
        ≤ observed.toList.toFinset.card := Finset.card_le_card Finset.inter_subset_right
    _ ≤ observed.size := List.toFinset_card_le _

/-- A finding states what its rule says and how far the rule matches. -/
structure Describes
    (engine : Engine)
    (observed : SymptomSet)
    (rule : Rule)
    (finding : Finding) : Prop where
  /-- The number is that of the rule. -/
  ruleId : finding.ruleId = rule.id
  /-- The name is that of the rule. -/
  ruleName : finding.ruleName = rule.name
  /-- The remedy is that of the rule. -/
  remedy : finding.remedy = rule.remedy
  /-- The symptoms of the rule are counted. -/
  total : finding.totalSymptomCount = rule.symptoms.toFinset.card
  /-- The common symptoms are counted. -/
  matched :
    finding.matchedSymptomCount = (rule.symptoms.toFinset ∩ observed.toList.toFinset).card
  /-- There is a common symptom. -/
  positive : 1 ≤ finding.matchedSymptomCount
  /-- There are no more common symptoms than symptoms of the rule. -/
  withinRule : finding.matchedSymptomCount ≤ finding.totalSymptomCount
  /-- There are no more common symptoms than observed ones. -/
  withinObserved : finding.matchedSymptomCount ≤ observed.size
  /-- The confidence combines one equal piece of evidence for each common symptom. -/
  percent :
    finding.confidencePercent =
      Certainty.percent
        (Certainty.combineRepeated (rule.baseConfidence * engine.userCertainty)
          finding.matchedSymptomCount)
  /-- The confidence is a percentage. -/
  bounded : finding.confidencePercent ≤ 100

variable
    {engine : Engine}
    {observed : SymptomSet}

theorem describes_finding
    {rule : Rule}
    (sound : rule.IsSound)
    (shares : rule.Shares observed) :
    Describes engine observed rule (engine.finding observed rule) := by
  have someMatch : matchCount observed rule ≠ 0 := by
    intro none
    exact (matchCount_eq_zero_iff observed rule).1 none shares
  refine
    { ruleId := rfl
      ruleName := rfl
      remedy := rfl
      total := (List.toFinset_card_of_nodup sound.distinct).symm
      matched := matchCount_eq_card observed sound.distinct
      positive := Nat.one_le_iff_ne_zero.2 someMatch
      withinRule := List.countP_le_length
      withinObserved := matchCount_le_size observed sound.distinct
      percent := rfl
      bounded := Certainty.percent_le _ }

/-- The rule and the observed symptoms determine what a finding states. -/
theorem eq_of_describes
    {rule : Rule}
    {left right : Finding}
    (describesLeft : Describes engine observed rule left)
    (describesRight : Describes engine observed rule right) :
    left = right := by
  have matched := describesLeft.matched.trans describesRight.matched.symm
  have total := describesLeft.total.trans describesRight.total.symm
  have percent : left.confidencePercent = right.confidencePercent := by
    rw [describesLeft.percent, describesRight.percent, matched]
  have ruleId := describesLeft.ruleId.trans describesRight.ruleId.symm
  have ruleName := describesLeft.ruleName.trans describesRight.ruleName.symm
  have remedy := describesLeft.remedy.trans describesRight.remedy.symm
  cases left
  cases right
  simp only at matched total percent ruleId ruleName remedy
  subst matched total percent ruleId ruleName remedy
  rfl

/-! ## Lists of findings -/

/-- How many rules are declared before the one with a number. -/
def position (engine : Engine) (id : UInt32) : Nat :=
  (engine.knowledgeBase.rules.map (·.id)).idxOf id

/-- A finding is more confident than another one, or as confident and of an earlier rule. -/
def Precedes (engine : Engine) (earlier later : Finding) : Prop :=
  later.confidencePercent < earlier.confidencePercent ∨
    later.confidencePercent = earlier.confidencePercent ∧
      engine.position earlier.ruleId < engine.position later.ruleId

/-- Findings are those of the rules that share an observed symptom, in their ranking. -/
structure Ranks (engine : Engine) (observed : SymptomSet) (findings : List Finding) : Prop where
  /-- A rule that shares an observed symptom has one finding. -/
  once : ∀ rule ∈ engine.knowledgeBase.rules, rule.Shares observed →
    (findings.map (·.ruleId)).count rule.id = 1
  /-- Any other rule has none. -/
  never : ∀ rule ∈ engine.knowledgeBase.rules, ¬rule.Shares observed →
    (findings.map (·.ruleId)).count rule.id = 0
  /-- Every finding is that of a rule. -/
  sourced : ∀ finding ∈ findings, ∃ rule ∈ engine.knowledgeBase.rules, rule.id = finding.ruleId
  /-- Every finding describes the rule with its number. -/
  described : ∀ finding ∈ findings, ∀ rule ∈ engine.knowledgeBase.rules,
    rule.id = finding.ruleId → Describes engine observed rule finding
  /-- Earlier findings precede later ones. -/
  ordered : findings.Pairwise engine.Precedes

theorem filterMap_evaluate?
    (rules : List Rule) :
    rules.filterMap (engine.evaluate? observed) =
      (rules.filter (matchCount observed · ≠ 0)).map (engine.finding observed) := by
  induction rules with
  | nil => rfl
  | cons rule rules inductionHypothesis =>
      have evaluated :
          engine.evaluate? observed rule =
            if matchCount observed rule = 0 then none
            else some (engine.finding observed rule) := rfl
      by_cases none : matchCount observed rule = 0
      · rw [if_pos none] at evaluated
        rw [List.filterMap_cons_none evaluated, List.filter_cons_of_neg (by simpa using none)]
        exact inductionHypothesis
      · rw [if_neg none] at evaluated
        rw [List.filterMap_cons_some evaluated, List.filter_cons_of_pos (by simpa using none),
          List.map_cons, inductionHypothesis]

theorem perm_diagnose (engine : Engine) (observed : SymptomSet) :
    (engine.diagnose observed).Perm
      ((engine.knowledgeBase.rules.filter (matchCount observed · ≠ 0)).map
        (engine.finding observed)) := by
  rw [← filterMap_evaluate?]
  exact List.mergeSort_perm _ _

theorem mem_diagnose_iff (finding : Finding) :
    finding ∈ engine.diagnose observed ↔
      ∃ rule ∈ engine.knowledgeBase.rules,
        rule.Shares observed ∧ engine.finding observed rule = finding := by
  rw [(perm_diagnose engine observed).mem_iff, List.mem_map]
  simp only [List.mem_filter, decide_eq_true_eq, ne_eq, matchCount_eq_zero_iff, not_not,
    and_assoc]

/-- No number of a rule occurs twice in a diagnosis. -/
theorem nodup_ruleIds (engine : Engine) (observed : SymptomSet) :
    ((engine.diagnose observed).map (·.ruleId)).Nodup := by
  rw [((perm_diagnose engine observed).map _).nodup_iff, List.map_map]
  exact engine.knowledgeBase.nodup_ids.sublist (List.filter_sublist.map _)

theorem eq_of_id_eq
    {left right : Rule}
    (leftMember : left ∈ engine.knowledgeBase.rules)
    (rightMember : right ∈ engine.knowledgeBase.rules)
    (same : left.id = right.id) :
    left = right :=
  List.inj_on_of_nodup_map engine.knowledgeBase.nodup_ids leftMember rightMember same

/-- One finding is at least as confident as another one. -/
def atLeastAsConfident (left right : Finding) : Bool :=
  right.confidencePercent ≤ left.confidencePercent

theorem atLeastAsConfident_trans
    (first second third : Finding)
    (before : atLeastAsConfident first second = true)
    (behind : atLeastAsConfident second third = true) :
    atLeastAsConfident first third = true := by
  rw [atLeastAsConfident, decide_eq_true_eq] at before behind ⊢
  exact UInt8.le_trans behind before

theorem atLeastAsConfident_total (left right : Finding) :
    (atLeastAsConfident left right || atLeastAsConfident right left) = true := by
  rw [Bool.or_eq_true, atLeastAsConfident, atLeastAsConfident, decide_eq_true_eq,
    decide_eq_true_eq]
  exact UInt8.le_total _ _

/-- The findings of the rules are sorted by confidence. -/
theorem diagnose_eq_mergeSort (engine : Engine) (observed : SymptomSet) :
    engine.diagnose observed =
      (engine.knowledgeBase.rules.filterMap (engine.evaluate? observed)).mergeSort
        atLeastAsConfident :=
  rfl

/-- Sorting the findings of the rules neither adds nor removes any. -/
theorem exists_mem_diagnose_iff
    {engine : Engine}
    {observed : SymptomSet}
    {property : Finding → Prop} :
    (∃ finding ∈ engine.diagnose observed, property finding) ↔
      ∃ finding ∈ engine.knowledgeBase.rules.filterMap (engine.evaluate? observed),
        property finding := by
  simp only [diagnose_eq_mergeSort, List.mem_mergeSort]

theorem pairwise_precedes_diagnose (engine : Engine) (observed : SymptomSet) :
    (engine.diagnose observed).Pairwise engine.Precedes := by
  have ascending :
      (engine.knowledgeBase.rules.filterMap (engine.evaluate? observed)).Pairwise
        fun left right => engine.position left.ruleId < engine.position right.ruleId := by
    have declared := pairwise_idxOf_lt engine.knowledgeBase.nodup_ids
    rw [List.pairwise_map] at declared
    rw [filterMap_evaluate?, List.pairwise_map]
    exact declared.sublist List.filter_sublist
  have sorted :=
    pairwise_mergeSort_position atLeastAsConfident_trans atLeastAsConfident_total ascending
  rw [diagnose_eq_mergeSort]
  apply sorted.imp
  rintro earlier later ⟨less, position⟩
  rw [atLeastAsConfident, decide_eq_true_eq] at less position
  rcases UInt8.lt_or_eq_of_le less with strictlyLess | equal
  · exact .inl strictlyLess
  · exact .inr ⟨equal, position (UInt8.le_of_eq equal.symm)⟩

theorem ranks_diagnose (engine : Engine) (observed : SymptomSet) :
    Ranks engine observed (engine.diagnose observed) := by
  have distinct := nodup_ruleIds engine observed
  refine
    { once := ?once
      never := ?never
      sourced := ?sourced
      described := ?described
      ordered := pairwise_precedes_diagnose engine observed }
  case once =>
      intro rule member shares
      have found : engine.finding observed rule ∈ engine.diagnose observed :=
        (mem_diagnose_iff _).2 ⟨rule, member, shares, rfl⟩
      exact List.count_eq_one_of_mem distinct (List.mem_map_of_mem found)
  case never =>
      intro rule member apart
      rw [List.count_eq_zero]
      intro listed
      obtain ⟨finding, found, sameId⟩ := List.mem_map.1 listed
      obtain ⟨source, sourceMember, shares, rfl⟩ := (mem_diagnose_iff finding).1 found
      have same : source = rule := eq_of_id_eq sourceMember member sameId
      exact apart (same ▸ shares)
  case sourced =>
      intro finding found
      obtain ⟨rule, member, _, rfl⟩ := (mem_diagnose_iff finding).1 found
      exact ⟨rule, member, rfl⟩
  case described =>
      intro finding found rule member sameId
      obtain ⟨source, sourceMember, shares, rfl⟩ := (mem_diagnose_iff finding).1 found
      have same : rule = source := eq_of_id_eq member sourceMember sameId
      rw [same]
      exact describes_finding (engine.knowledgeBase.isSound_of_mem sourceMember) shares

theorem Precedes.asymm
    {left right : Finding}
    (before : engine.Precedes left right) :
    ¬engine.Precedes right left := by
  intro behind
  rcases before with less | ⟨equal, earlier⟩
  · rcases behind with greater | ⟨equal, _⟩
    · exact UInt8.lt_asymm less greater
    · exact UInt8.ne_of_lt less equal.symm
  · rcases behind with greater | ⟨_, later⟩
    · exact UInt8.ne_of_lt greater equal.symm
    · exact Nat.lt_asymm earlier later

theorem Ranks.nodup
    {findings : List Finding}
    (ranks : Ranks engine observed findings) :
    findings.Nodup := by
  apply ranks.ordered.imp
  rintro finding _ precedes rfl
  exact precedes.asymm precedes

theorem Ranks.subset
    {left right : List Finding}
    (ranksLeft : Ranks engine observed left)
    (ranksRight : Ranks engine observed right) :
    left ⊆ right := by
  intro finding found
  obtain ⟨rule, member, sameId⟩ := ranksLeft.sourced finding found
  have describes := ranksLeft.described finding found rule member sameId
  have shares : rule.Shares observed := by
    by_contra apart
    have absent := List.count_eq_zero.1 (ranksLeft.never rule member apart)
    exact absent (sameId ▸ List.mem_map_of_mem found)
  have counted := ranksRight.once rule member shares
  have listed : rule.id ∈ right.map (·.ruleId) := by
    rw [← List.count_pos_iff, counted]
    exact Nat.one_pos
  obtain ⟨other, otherFound, otherId⟩ := List.mem_map.1 listed
  have otherDescribes := ranksRight.described other otherFound rule member otherId.symm
  rw [eq_of_describes describes otherDescribes]
  exact otherFound

/-- There is only one ranking. -/
theorem Ranks.unique
    {left right : List Finding}
    (ranksLeft : Ranks engine observed left)
    (ranksRight : Ranks engine observed right) :
    left = right := by
  have permuted : left.Perm right := by
    apply (List.perm_ext_iff_of_nodup ranksLeft.nodup ranksRight.nodup).2
    intro finding
    constructor
    · intro found
      exact ranksLeft.subset ranksRight found
    · intro found
      exact ranksRight.subset ranksLeft found
  refine List.Perm.eq_of_pairwise ?_ ranksLeft.ordered ranksRight.ordered permuted
  intro earlier later _ _ before behind
  exact absurd behind before.asymm

/--
A list of findings ranks the rules that share an observed symptom exactly when
it is the diagnosis, and no number of a rule occurs twice in it.
-/
theorem ranks_iff_eq_diagnose
    (engine : Engine)
    (observed : SymptomSet) :
    (∀ findings, Ranks engine observed findings ↔ findings = engine.diagnose observed) ∧
      ((engine.diagnose observed).map (·.ruleId)).Nodup := by
  refine ⟨?_, nodup_ruleIds engine observed⟩
  intro findings
  constructor
  · intro ranks
    exact ranks.unique (ranks_diagnose engine observed)
  · rintro rfl
    exact ranks_diagnose engine observed

end Engine

end FaultFinder
