import FaultFinder.Proofs.Diagnosis.Ranking

/-!
# Rules do not influence each other

The finding of a rule does not depend on the other rules of the table.  Leaving
out some rules leaves out their findings and changes nothing else, and declaring
the rules in another order changes at most the order of findings that are
equally confident.
-/

namespace FaultFinder
namespace Engine

/-! ## Engines made of other rules -/

/-- The engine is made of the given rules, with the certainty of another one. -/
structure IsMadeOf (made : Engine) (rules : List Rule) (engine : Engine) : Prop where
  /-- The rules are accepted as a knowledge base. -/
  table : KnowledgeBase.ofRules rules = .ok made.knowledgeBase
  /-- The certainty is accepted again. -/
  certainty : withCertainty made.knowledgeBase engine.userCertainty = .ok made

theorem exists_isMadeOf
    {rules : List Rule}
    (sound : KnowledgeBase.fault? rules = none)
    (engine : Engine) :
    ∃ made : Engine, made.IsMadeOf rules engine :=
  ⟨⟨⟨rules, sound⟩, engine.userCertainty, engine.inRange⟩,
    KnowledgeBase.ofRules_of_fault?_eq_none sound, dif_pos engine.inRange⟩

namespace IsMadeOf

variable
    {made engine : Engine}
    {rules : List Rule}
    (isMade : made.IsMadeOf rules engine)

include isMade

theorem rules_eq : made.knowledgeBase.rules = rules :=
  KnowledgeBase.rules_of_ofRules isMade.table

theorem userCertainty_eq : made.userCertainty = engine.userCertainty := by
  have same := isMade.certainty
  rw [withCertainty, dif_pos engine.inRange, Except.ok.injEq] at same
  exact (congrArg userCertainty same).symm

/-- A rule has the same finding in both engines. -/
theorem evaluate?_eq (observed : SymptomSet) :
    made.evaluate? observed = engine.evaluate? observed := by
  funext rule
  simp only [evaluate?, isMade.userCertainty_eq]

theorem diagnose_eq (observed : SymptomSet) :
    made.diagnose observed =
      (rules.filterMap (engine.evaluate? observed)).mergeSort atLeastAsConfident := by
  rw [diagnose_eq_mergeSort, isMade.rules_eq, isMade.evaluate?_eq]

end IsMadeOf

/-! ## Some of the rules -/

variable
    {engine : Engine}
    {observed : SymptomSet}

/-- The finding is that of a rule that is kept. -/
def reportsKept (engine : Engine) (keeps : Rule → Bool) (finding : Finding) : Bool :=
  engine.knowledgeBase.rules.any fun rule => keeps rule && rule.id = finding.ruleId

theorem fault?_filter
    {knowledgeBase : KnowledgeBase}
    {keeps : Rule → Bool}
    (someKept : ∃ rule ∈ knowledgeBase.rules, keeps rule = true) :
    KnowledgeBase.fault? (knowledgeBase.rules.filter keeps) = none := by
  refine (KnowledgeBase.fault?_eq_none_iff _).2 ⟨?nonempty, ?sound, ?distinct⟩
  case nonempty =>
      obtain ⟨rule, member, kept⟩ := someKept
      exact List.ne_nil_of_mem (List.mem_filter.2 ⟨member, kept⟩)
  case sound =>
      intro rule member
      exact knowledgeBase.isSound_of_mem (List.mem_of_mem_filter member)
  case distinct => exact knowledgeBase.nodup_ids.sublist (List.filter_sublist.map _)

theorem filter_filterMap_of_agree
    {α β : Type}
    {find? : α → Option β}
    {keeps : α → Bool}
    {keepsFound : β → Bool}
    {elements : List α}
    (agree : ∀ element ∈ elements, ∀ found, find? element = some found →
      keepsFound found = keeps element) :
    (elements.filterMap find?).filter keepsFound = (elements.filter keeps).filterMap find? := by
  induction elements with
  | nil => rfl
  | cons first rest inductionHypothesis =>
      have agreeRest := inductionHypothesis fun element member =>
        agree element (List.mem_cons_of_mem first member)
      cases found : find? first with
      | none =>
          rw [List.filterMap_cons_none found, agreeRest, List.filter_cons]
          split
          · rw [List.filterMap_cons_none found]
          · rfl
      | some finding =>
          have agreeFirst := agree first List.mem_cons_self finding found
          rw [List.filterMap_cons_some found, List.filter_cons, List.filter_cons, agreeFirst,
            agreeRest]
          split
          · rw [List.filterMap_cons_some found]
          · rfl

/-- Since numbers differ, a finding is that of a kept rule exactly when its own rule is kept. -/
theorem reportsKept_eq
    {keeps : Rule → Bool}
    {rule : Rule}
    (member : rule ∈ engine.knowledgeBase.rules)
    {finding : Finding}
    (sameId : finding.ruleId = rule.id) :
    engine.reportsKept keeps finding = keeps rule := by
  rw [Bool.eq_iff_iff, reportsKept, List.any_eq_true]
  constructor
  · rintro ⟨other, otherMember, kept⟩
    rw [Bool.and_eq_true, decide_eq_true_eq, sameId] at kept
    have same : other = rule := eq_of_id_eq otherMember member kept.2
    exact same ▸ kept.1
  · intro kept
    refine ⟨rule, member, ?_⟩
    rw [Bool.and_eq_true, decide_eq_true_eq]
    exact ⟨kept, sameId.symm⟩

theorem ruleId_of_evaluate?
    {rule : Rule}
    {finding : Finding}
    (evaluated : engine.evaluate? observed rule = some finding) :
    finding.ruleId = rule.id := by
  unfold evaluate? at evaluated
  simp only at evaluated
  split at evaluated
  · cases evaluated
  · cases evaluated
    rfl

theorem nodup_filterMap_evaluate? (engine : Engine) (observed : SymptomSet) :
    (engine.knowledgeBase.rules.filterMap (engine.evaluate? observed)).Nodup := by
  have distinct : (engine.diagnose observed).Nodup := (nodup_ruleIds engine observed).of_map
  exact (List.mergeSort_perm _ _).nodup_iff.1 distinct

/-- With some of the rules, the findings are those of these rules. -/
theorem diagnose_of_isMadeOf_filter
    {made : Engine}
    {keeps : Rule → Bool}
    (isMade : made.IsMadeOf (engine.knowledgeBase.rules.filter keeps) engine)
    (observed : SymptomSet) :
    made.diagnose observed = (engine.diagnose observed).filter (engine.reportsKept keeps) := by
  have kept :
      (engine.knowledgeBase.rules.filterMap (engine.evaluate? observed)).filter
          (engine.reportsKept keeps) =
        (engine.knowledgeBase.rules.filter keeps).filterMap (engine.evaluate? observed) := by
    apply filter_filterMap_of_agree
    intro rule member finding evaluated
    exact reportsKept_eq member (ruleId_of_evaluate? evaluated)
  rw [isMade.diagnose_eq, ← kept, diagnose_eq_mergeSort]
  exact (filter_mergeSort atLeastAsConfident_trans atLeastAsConfident_total
    (nodup_filterMap_evaluate? engine observed) _).symm

/-! ## The rules in another order -/

theorem fault?_of_perm
    {knowledgeBase : KnowledgeBase}
    {rules : List Rule}
    (permuted : rules.Perm knowledgeBase.rules) :
    KnowledgeBase.fault? rules = none := by
  obtain ⟨nonempty, sound, distinct⟩ :=
    (KnowledgeBase.fault?_eq_none_iff _).1 knowledgeBase.sound
  refine (KnowledgeBase.fault?_eq_none_iff _).2 ⟨?_, ?_, ?_⟩
  · intro empty
    rw [empty] at permuted
    exact nonempty permuted.nil_eq.symm
  · intro rule member
    exact sound rule (permuted.mem_iff.1 member)
  · exact (permuted.map _).nodup_iff.2 distinct

theorem perm_diagnose_of_isMadeOf
    {made : Engine}
    {rules : List Rule}
    (isMade : made.IsMadeOf rules engine)
    (permuted : rules.Perm engine.knowledgeBase.rules)
    (observed : SymptomSet) :
    (made.diagnose observed).Perm (engine.diagnose observed) := by
  rw [isMade.diagnose_eq, diagnose_eq_mergeSort]
  calc
    ((rules.filterMap (engine.evaluate? observed)).mergeSort atLeastAsConfident).Perm
        (rules.filterMap (engine.evaluate? observed)) := List.mergeSort_perm _ _
    List.Perm _ (engine.knowledgeBase.rules.filterMap (engine.evaluate? observed)) :=
        permuted.filterMap _
    List.Perm _ _ := (List.mergeSort_perm _ _).symm

/-- Of two findings that are not equally confident the more confident one comes first. -/
theorem pair_sublist_diagnose_iff
    {first second : Finding}
    (different : first.confidencePercent ≠ second.confidencePercent) :
    [first, second].Sublist (engine.diagnose observed) ↔
      first ∈ engine.diagnose observed ∧ second ∈ engine.diagnose observed ∧
        second.confidencePercent < first.confidencePercent := by
  have sorted :
      (engine.diagnose observed).Pairwise fun left right =>
        right.confidencePercent ≤ left.confidencePercent := by
    have pairwise := List.pairwise_mergeSort atLeastAsConfident_trans atLeastAsConfident_total
      (engine.knowledgeBase.rules.filterMap (engine.evaluate? observed))
    rw [← diagnose_eq_mergeSort] at pairwise
    exact pairwise.imp fun confident => of_decide_eq_true confident
  constructor
  · intro ordered
    have le := rel_of_pair_sublist sorted ordered
    exact ⟨ordered.subset List.mem_cons_self,
      ordered.subset (List.mem_cons_of_mem first List.mem_cons_self),
      UInt8.lt_of_le_of_ne le different.symm⟩
  · rintro ⟨firstFound, secondFound, less⟩
    have distinct : first ≠ second := fun same => different (congrArg _ same)
    rcases pair_sublist_or_of_mem firstFound secondFound distinct with before | behind
    · exact before
    · have le := rel_of_pair_sublist sorted behind
      exact absurd le (UInt8.not_le.2 less)

/-! ## Independence -/

/-- Neither the other rules nor their order matter for the findings of a rule. -/
structure RulesIndependent (engine : Engine) (observed : SymptomSet) : Prop where
  /-- Some of the rules are accepted, and they have the findings that they have among all. -/
  kept : ∀ keeps : Rule → Bool, (∃ rule ∈ engine.knowledgeBase.rules, keeps rule = true) →
    ∃ made : Engine, made.IsMadeOf (engine.knowledgeBase.rules.filter keeps) engine ∧
      made.diagnose observed = (engine.diagnose observed).filter (engine.reportsKept keeps)
  /--
  The rules are accepted in any order.  The findings are the same then, and those that are
  not equally confident keep their order.
  -/
  reordered : ∀ rules : List Rule, rules.Perm engine.knowledgeBase.rules →
    ∃ made : Engine, made.IsMadeOf rules engine ∧
      (made.diagnose observed).Perm (engine.diagnose observed) ∧
      ∀ first second : Finding, first.confidencePercent ≠ second.confidencePercent →
        ([first, second].Sublist (made.diagnose observed) ↔
          [first, second].Sublist (engine.diagnose observed))

/-- The rules of every engine are independent, whatever is observed. -/
theorem rules_independent (engine : Engine) (observed : SymptomSet) :
    RulesIndependent engine observed := by
  refine { kept := ?kept, reordered := ?reordered }
  case kept =>
      intro keeps someKept
      obtain ⟨made, isMade⟩ := exists_isMadeOf (fault?_filter someKept) engine
      exact ⟨made, isMade, diagnose_of_isMadeOf_filter isMade observed⟩
  case reordered =>
      intro rules permuted
      obtain ⟨made, isMade⟩ := exists_isMadeOf (fault?_of_perm permuted) engine
      have findings := perm_diagnose_of_isMadeOf isMade permuted observed
      refine ⟨made, isMade, findings, ?_⟩
      intro first second different
      rw [pair_sublist_diagnose_iff different, pair_sublist_diagnose_iff different,
        findings.mem_iff, findings.mem_iff]

/--
The fifth standard rule alone, and the standard rules from the last to the first.  What is
observed is found by the third and the fifth rule.
-/
theorem rules_independent_standard :
    (∃ rule ∈ KnowledgeBase.standard.rules, decide (rule.id = 5) = true) ∧
      KnowledgeBase.standard.rules.reverse.Perm KnowledgeBase.standard.rules ∧
      (∃ finding ∈ (ofKnowledgeBase .standard).diagnose (.ofList ["Blue screen"]),
        finding.ruleId = 3 ∧ finding.confidencePercent = 68) ∧
      (∃ made : Engine,
        made.IsMadeOf (KnowledgeBase.standard.rules.filter (·.id = 5))
            (ofKnowledgeBase .standard) ∧
          made.diagnose (.ofList ["Blue screen"]) =
            ((ofKnowledgeBase .standard).diagnose (.ofList ["Blue screen"])).filter
              ((ofKnowledgeBase .standard).reportsKept (·.id = 5)) ∧
          ∃ finding ∈ made.diagnose (.ofList ["Blue screen"]),
            finding.ruleId = 5 ∧ finding.confidencePercent = 66) ∧
      ∃ made : Engine,
        made.IsMadeOf KnowledgeBase.standard.rules.reverse (ofKnowledgeBase .standard) ∧
          (made.diagnose (.ofList ["Blue screen"])).Perm
            ((ofKnowledgeBase .standard).diagnose (.ofList ["Blue screen"])) := by
  have someKept : ∃ rule ∈ KnowledgeBase.standard.rules, decide (rule.id = 5) = true := by
    decide +kernel
  have permuted := List.reverse_perm KnowledgeBase.standard.rules
  have independent := rules_independent (ofKnowledgeBase .standard) (.ofList ["Blue screen"])
  obtain ⟨alone, isAlone, same⟩ := independent.kept _ someKept
  obtain ⟨made, isMade, findings, _⟩ := independent.reordered _ permuted
  refine ⟨someKept, permuted, ?third, ⟨alone, isAlone, same, ?fifth⟩, made, isMade, findings⟩
  case third =>
      rw [exists_mem_diagnose_iff]
      decide +kernel
  case fifth =>
      simp only [same, List.mem_filter, and_assoc]
      rw [exists_mem_diagnose_iff]
      decide +kernel

end Engine
end FaultFinder
