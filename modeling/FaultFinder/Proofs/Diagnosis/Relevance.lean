import FaultFinder.Proofs.Diagnosis.Independence
import Mathlib.Data.List.Forall2

/-!
# What a diagnosis depends on

A diagnosis depends on the observed symptoms only through those that some rule
lists.  Other names, repetitions and the order in which anything was reported or
declared do not show in it.
-/

namespace FaultFinder

/-- The symptoms of a rule are listed in another order. -/
def Rule.IsReordered (rule reordered : Rule) : Prop :=
  ∃ symptoms, symptoms.Perm rule.symptoms ∧ reordered = { rule with symptoms := symptoms }

theorem KnowledgeBase.mem_symptomNames_iff
    {knowledgeBase : KnowledgeBase}
    {symptom : String} :
    symptom ∈ knowledgeBase.symptomNames ↔
      ∃ rule ∈ knowledgeBase.rules, symptom ∈ rule.symptoms := by
  rw [symptomNames, SymptomSet.mem_ofList_iff, List.mem_flatMap]

namespace Engine

variable
    {engine : Engine}
    {first second observed : SymptomSet}
    {rule : Rule}

/-! ## The observed symptoms -/

/-- The finding of a rule depends on which of its symptoms were observed. -/
theorem evaluate?_eq_of_contains_eq
    (same : ∀ symptom ∈ rule.symptoms, first.contains symptom = second.contains symptom) :
    engine.evaluate? first rule = engine.evaluate? second rule := by
  have matched : matchCount first rule = matchCount second rule := by
    apply List.countP_congr
    intro symptom member
    rw [same symptom member]
  simp only [evaluate?, matched]

/-- Sets that agree on the symptoms of all rules have the same diagnosis. -/
theorem diagnose_eq_of_contains_eq
    (same : ∀ symptom ∈ engine.knowledgeBase.symptomNames,
      first.contains symptom = second.contains symptom) :
    engine.diagnose first = engine.diagnose second := by
  have findings :
      engine.knowledgeBase.rules.filterMap (engine.evaluate? first) =
        engine.knowledgeBase.rules.filterMap (engine.evaluate? second) := by
    apply List.filterMap_congr
    intro rule declared
    apply evaluate?_eq_of_contains_eq
    intro symptom member
    exact same symptom (KnowledgeBase.mem_symptomNames_iff.2 ⟨rule, declared, member⟩)
  rw [diagnose_eq_mergeSort, diagnose_eq_mergeSort, findings]

/-! ## The symptoms of the rules -/

section Reordered

variable
    {reordered : Rule}
    {rules others : List Rule}

theorem isSound_of_isReordered
    (isReordered : rule.IsReordered reordered)
    (sound : rule.IsSound) :
    reordered.IsSound := by
  obtain ⟨symptoms, permuted, rfl⟩ := isReordered
  refine
    { hasSymptoms := ?hasSymptoms
      inRange := sound.inRange
      distinct := permuted.nodup_iff.2 sound.distinct }
  case hasSymptoms =>
      intro empty
      change symptoms = [] at empty
      rw [empty] at permuted
      exact sound.hasSymptoms permuted.nil_eq.symm

/-- The finding of a rule does not depend on the order of its symptoms. -/
theorem evaluate?_eq_of_isReordered
    (isReordered : rule.IsReordered reordered) :
    engine.evaluate? observed reordered = engine.evaluate? observed rule := by
  obtain ⟨symptoms, permuted, rfl⟩ := isReordered
  have matched : matchCount observed { rule with symptoms := symptoms } = matchCount observed rule :=
    permuted.countP_eq _
  have total : Rule.symptomCount { rule with symptoms := symptoms } = rule.symptomCount :=
    permuted.length_eq
  simp only [evaluate?, matched, total]

theorem map_id_eq_of_isReordered
    (related : List.Forall₂ Rule.IsReordered rules others) :
    others.map (·.id) = rules.map (·.id) := by
  induction related with
  | nil => rfl
  | cons head _ inductionHypothesis =>
      obtain ⟨symptoms, _, rfl⟩ := head
      rw [List.map_cons, List.map_cons, inductionHypothesis]

theorem filterMap_evaluate?_of_isReordered
    (related : List.Forall₂ Rule.IsReordered rules others) :
    others.filterMap (engine.evaluate? observed) = rules.filterMap (engine.evaluate? observed) := by
  induction related with
  | nil => rfl
  | cons head _ inductionHypothesis =>
      rw [List.filterMap_cons, List.filterMap_cons, evaluate?_eq_of_isReordered head,
        inductionHypothesis]

theorem forall_isSound_of_isReordered
    (related : List.Forall₂ Rule.IsReordered rules others)
    (sound : ∀ rule ∈ rules, rule.IsSound) :
    ∀ other ∈ others, other.IsSound := by
  induction related with
  | nil =>
      intro other member
      cases member
  | cons head _ inductionHypothesis =>
      rw [List.forall_mem_cons] at sound ⊢
      exact ⟨isSound_of_isReordered head sound.1, inductionHypothesis sound.2⟩

theorem fault?_of_isReordered
    {knowledgeBase : KnowledgeBase}
    (related : List.Forall₂ Rule.IsReordered knowledgeBase.rules others) :
    KnowledgeBase.fault? others = none := by
  obtain ⟨nonempty, sound, distinct⟩ :=
    (KnowledgeBase.fault?_eq_none_iff _).1 knowledgeBase.sound
  refine (KnowledgeBase.fault?_eq_none_iff _).2 ⟨?_, ?_, ?_⟩
  · intro empty
    rw [empty, List.forall₂_nil_right_iff] at related
    exact nonempty related
  · exact forall_isSound_of_isReordered related sound
  · rw [map_id_eq_of_isReordered related]
    exact distinct

theorem diagnose_of_isMadeOf_reordered
    {made : Engine}
    (isMade : made.IsMadeOf others engine)
    (related : List.Forall₂ Rule.IsReordered engine.knowledgeBase.rules others)
    (observed : SymptomSet) :
    made.diagnose observed = engine.diagnose observed := by
  rw [isMade.diagnose_eq, filterMap_evaluate?_of_isReordered related, diagnose_eq_mergeSort]

end Reordered

/-! ## Relevance -/

/-- A diagnosis depends on nothing but the observed symptoms that rules list. -/
structure DependsOnRelevant (engine : Engine) : Prop where
  /--
  Sets that agree on the symptoms of the rules have the same diagnosis, however they have
  come about.
  -/
  observed : ∀ first second : SymptomSet.Construction,
    (∀ symptom ∈ engine.knowledgeBase.symptomNames,
      first.set.contains symptom = second.set.contains symptom) →
      engine.diagnose first.set = engine.diagnose second.set
  /-- Rules that list their symptoms in another order are accepted and change no diagnosis. -/
  declared : ∀ rules, List.Forall₂ Rule.IsReordered engine.knowledgeBase.rules rules →
    ∃ made : Engine, made.IsMadeOf rules engine ∧
      ∀ observed, made.diagnose observed = engine.diagnose observed

/--
Only the relevant symptoms matter for a diagnosis.  The sets of observed symptoms are
finite sets: each holds what was ever added to it, and those that hold the same are equal.
-/
theorem diagnose_depends_on_relevant (engine : Engine) :
    DependsOnRelevant engine ∧
      (∀ construction : SymptomSet.Construction,
        construction.set.HoldsExactly construction.added) ∧
      ∀ first second : SymptomSet.Construction,
        first.set = second.set ↔
          ∀ symptom, first.set.contains symptom = second.set.contains symptom := by
  refine ⟨{ observed := ?observed, declared := ?declared }, ?holds, ?equal⟩
  case observed =>
      intro first second same
      exact diagnose_eq_of_contains_eq same
  case declared =>
      intro rules related
      obtain ⟨made, isMade⟩ := exists_isMadeOf (fault?_of_isReordered related) engine
      exact ⟨made, isMade, diagnose_of_isMadeOf_reordered isMade related⟩
  case holds =>
      intro construction
      exact SymptomSet.holdsExactly_of_mem_iff fun _ => SymptomSet.Construction.mem_set_iff
  case equal =>
      intro first second
      exact SymptomSet.eq_iff_contains

/-- A click, once alone, and once reported twice after a noise that no rule lists. -/
theorem diagnose_depends_on_relevant_click :
    (∀ symptom ∈ KnowledgeBase.standard.symptomNames,
      (SymptomSet.Construction.collected ["Suara aneh", "Bunyi klik", "Bunyi klik"]).set.contains
          symptom =
        (SymptomSet.Construction.inserted .empty "Bunyi klik").set.contains symptom) ∧
      (ofKnowledgeBase .standard).diagnose
          (SymptomSet.Construction.collected ["Suara aneh", "Bunyi klik", "Bunyi klik"]).set =
        (ofKnowledgeBase .standard).diagnose
          (SymptomSet.Construction.inserted .empty "Bunyi klik").set ∧
      ∃ finding ∈ (ofKnowledgeBase .standard).diagnose
          (SymptomSet.Construction.inserted .empty "Bunyi klik").set,
        finding.ruleId = 3 ∧ finding.confidencePercent = 68 := by
  have same :
      ∀ symptom ∈ KnowledgeBase.standard.symptomNames,
        (SymptomSet.Construction.collected
            ["Suara aneh", "Bunyi klik", "Bunyi klik"]).set.contains symptom =
          (SymptomSet.Construction.inserted .empty "Bunyi klik").set.contains symptom := by
    decide +kernel
  refine ⟨same, (diagnose_depends_on_relevant (ofKnowledgeBase .standard)).1.observed _ _ same, ?_⟩
  rw [exists_mem_diagnose_iff]
  decide +kernel

end Engine
end FaultFinder
