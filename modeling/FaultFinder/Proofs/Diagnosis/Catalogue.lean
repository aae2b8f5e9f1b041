import FaultFinder.Proofs.Diagnosis.Relevance

/-!
# The catalogue of symptoms

The catalogue of a knowledge base lists the symptoms of its rules in ascending
order.  A diagnosis agrees with it: something is found exactly when a symptom of
the catalogue was observed, and every rule matches the whole catalogue.  What is
found carries the name and the remedy of the rule that is looked up by its
number.
-/

namespace FaultFinder

/-! ## The order of names -/

/-- The code points of a text. -/
def codePoints (text : String) : List Nat :=
  text.toList.map Char.toNat

theorem codePoints_lt_codePoints
    {left right : String}
    (less : left < right) :
    codePoints left < codePoints right := by
  rw [String.lt_iff, ← List.lex_lt] at less
  rw [codePoints, codePoints, ← List.lex_lt]
  generalize left.toList = earlier, right.toList = later at less ⊢
  induction less with
  | nil => exact .nil
  | cons _ inductionHypothesis => exact .cons inductionHypothesis
  | rel first => exact .rel first

namespace KnowledgeBase

variable {knowledgeBase : KnowledgeBase}

theorem mem_symptomNames_iff_hasSymptom {symptom : String} :
    symptom ∈ knowledgeBase.symptomNames ↔
      ∃ rule ∈ knowledgeBase.rules, rule.hasSymptom symptom = true := by
  simp only [mem_symptomNames_iff, Rule.hasSymptom, List.contains_iff_mem]

/-- The names are listed in ascending order of code points. -/
theorem pairwise_codePoints_symptomNames (knowledgeBase : KnowledgeBase) :
    (knowledgeBase.symptomNames.map codePoints).Pairwise (· < ·) := by
  rw [List.pairwise_map]
  exact (SymptomSet.ofList _).ascending.imp codePoints_lt_codePoints

/-! ## Rules and their numbers -/

theorem mem_of_rule?_eq_some
    {id : UInt32}
    {rule : Rule}
    (found : knowledgeBase.rule? id = some rule) :
    rule ∈ knowledgeBase.rules ∧ rule.id = id := by
  unfold rule? at found
  have sameId := List.find?_some found
  exact ⟨List.mem_of_find?_eq_some found, of_decide_eq_true sameId⟩

/-- Since the numbers of rules differ, a rule is found by its number. -/
theorem rule?_eq_some_iff
    {id : UInt32}
    {rule : Rule} :
    knowledgeBase.rule? id = some rule ↔ rule ∈ knowledgeBase.rules ∧ rule.id = id := by
  constructor
  · exact mem_of_rule?_eq_some
  · rintro ⟨member, rfl⟩
    have isSome : (knowledgeBase.rule? rule.id).isSome := by
      rw [rule?, List.find?_isSome]
      exact ⟨rule, member, decide_eq_true rfl⟩
    obtain ⟨other, found⟩ := Option.isSome_iff_exists.1 isSome
    obtain ⟨otherMember, sameId⟩ := mem_of_rule?_eq_some found
    have same : other = rule :=
      List.inj_on_of_nodup_map knowledgeBase.nodup_ids otherMember member sameId
    rw [found, same]

theorem rule?_eq_none_iff {id : UInt32} :
    knowledgeBase.rule? id = none ↔ ∀ rule ∈ knowledgeBase.rules, rule.id ≠ id := by
  simp only [rule?, List.find?_eq_none, decide_eq_true_eq]

end KnowledgeBase

namespace Engine

variable
    {engine : Engine}
    {observed : SymptomSet}

/-! ## Diagnoses and the catalogue -/

/-- Every symptom that some rule lists, as observed. -/
def wholeCatalogue (engine : Engine) : SymptomSet :=
  .ofList engine.knowledgeBase.symptomNames

theorem diagnose_eq_nil_iff :
    engine.diagnose observed = [] ↔
      ∀ symptom ∈ engine.knowledgeBase.symptomNames, observed.contains symptom = false := by
  rw [List.eq_nil_iff_forall_not_mem]
  constructor
  · intro nothing symptom listed
    obtain ⟨rule, declared, member⟩ := KnowledgeBase.mem_symptomNames_iff.1 listed
    rw [← Bool.not_eq_true, SymptomSet.contains_iff]
    intro isObserved
    exact nothing _ ((mem_diagnose_iff _).2 ⟨rule, declared, ⟨symptom, member, isObserved⟩, rfl⟩)
  · intro unobserved finding found
    obtain ⟨rule, declared, ⟨symptom, member, isObserved⟩, _⟩ := (mem_diagnose_iff finding).1 found
    have listed := KnowledgeBase.mem_symptomNames_iff.2 ⟨rule, declared, member⟩
    rw [← SymptomSet.contains_iff, unobserved symptom listed] at isObserved
    exact Bool.false_ne_true isObserved

theorem mem_wholeCatalogue_of_mem
    {rule : Rule}
    (declared : rule ∈ engine.knowledgeBase.rules)
    {symptom : String}
    (member : symptom ∈ rule.symptoms) :
    symptom ∈ engine.wholeCatalogue.toList :=
  SymptomSet.mem_ofList_iff.2 (KnowledgeBase.mem_symptomNames_iff.2 ⟨rule, declared, member⟩)

/-- All symptoms of a rule are in the catalogue. -/
theorem matchCount_wholeCatalogue
    {rule : Rule}
    (declared : rule ∈ engine.knowledgeBase.rules) :
    matchCount engine.wholeCatalogue rule = rule.symptomCount := by
  rw [matchCount, Rule.symptomCount, List.countP_eq_length]
  intro symptom member
  exact (SymptomSet.contains_iff _ _).2 (mem_wholeCatalogue_of_mem declared member)

theorem shares_wholeCatalogue
    {rule : Rule}
    (declared : rule ∈ engine.knowledgeBase.rules) :
    rule.Shares engine.wholeCatalogue := by
  obtain ⟨symptom, member⟩ :=
    List.exists_mem_of_ne_nil _ (engine.knowledgeBase.isSound_of_mem declared).hasSymptoms
  exact ⟨symptom, member, mem_wholeCatalogue_of_mem declared member⟩

/-- What the catalogue, the rules and the diagnoses of an engine have to do with each other. -/
structure AgreesWithCatalogue (engine : Engine) : Prop where
  /-- The names are listed once each, in ascending order of code points. -/
  ascending : (engine.knowledgeBase.symptomNames.map codePoints).Pairwise (· < ·)
  /-- A name is listed when a rule has that symptom. -/
  listed (symptom : String) :
    symptom ∈ engine.knowledgeBase.symptomNames ↔
      ∃ rule ∈ engine.knowledgeBase.rules, rule.hasSymptom symptom = true
  /-- Nothing is found when no listed symptom was observed. -/
  nothing (observed : SymptomSet) :
    engine.diagnose observed = [] ↔
      ∀ symptom ∈ engine.knowledgeBase.symptomNames, observed.contains symptom = false
  /-- Every rule is found when the whole catalogue was observed. -/
  everything (rule : Rule) (declared : rule ∈ engine.knowledgeBase.rules) :
    ∃ finding ∈ engine.diagnose engine.wholeCatalogue, finding.ruleId = rule.id ∧
      finding.totalSymptomCount = rule.symptomCount
  /-- What is found then matches completely. -/
  completely (finding : Finding) (found : finding ∈ engine.diagnose engine.wholeCatalogue) :
    finding.matchedSymptomCount = finding.totalSymptomCount
  /-- The rule with a number is looked up. -/
  known (id : UInt32) (rule : Rule) :
    engine.knowledgeBase.rule? id = some rule ↔
      rule ∈ engine.knowledgeBase.rules ∧ rule.id = id
  /-- Nothing is looked up with a number that no rule has. -/
  unknown (id : UInt32) :
    engine.knowledgeBase.rule? id = none ↔ ∀ rule ∈ engine.knowledgeBase.rules, rule.id ≠ id
  /-- What is found carries the name and the remedy of the rule that is looked up. -/
  lookedUp
      (observed : SymptomSet)
      (finding : Finding) (found : finding ∈ engine.diagnose observed) :
    ∃ rule, engine.knowledgeBase.rule? finding.ruleId = some rule ∧
      rule.name = finding.ruleName ∧ rule.remedy = finding.remedy

/-- Every engine agrees with its catalogue. -/
theorem catalogue_agrees (engine : Engine) : AgreesWithCatalogue engine := by
  refine
    { ascending := engine.knowledgeBase.pairwise_codePoints_symptomNames
      listed := fun _ => KnowledgeBase.mem_symptomNames_iff_hasSymptom
      nothing := fun _ => diagnose_eq_nil_iff
      everything := ?everything
      completely := ?completely
      known := fun _ _ => KnowledgeBase.rule?_eq_some_iff
      unknown := fun _ => KnowledgeBase.rule?_eq_none_iff
      lookedUp := ?lookedUp }
  case everything =>
      intro rule declared
      exact ⟨engine.finding engine.wholeCatalogue rule,
        (mem_diagnose_iff _).2 ⟨rule, declared, shares_wholeCatalogue declared, rfl⟩, rfl, rfl⟩
  case completely =>
      intro finding found
      obtain ⟨rule, declared, _, rfl⟩ := (mem_diagnose_iff finding).1 found
      exact matchCount_wholeCatalogue declared
  case lookedUp =>
      intro observed finding found
      obtain ⟨rule, declared, _, rfl⟩ := (mem_diagnose_iff finding).1 found
      exact ⟨rule, KnowledgeBase.rule?_eq_some_iff.2 ⟨declared, rfl⟩, rfl, rfl⟩

/-- All standard symptoms observed: the rule of the hard disk matches with all of its symptoms. -/
theorem catalogue_agrees_standard :
    (∃ rule ∈ KnowledgeBase.standard.rules, rule.id = 3 ∧
      ∃ finding ∈ (ofKnowledgeBase .standard).diagnose (ofKnowledgeBase .standard).wholeCatalogue,
        finding.ruleId = rule.id ∧ finding.totalSymptomCount = rule.symptomCount) ∧
      (ofKnowledgeBase .standard).diagnose (.ofList ["Suara aneh"]) = [] := by
  have agrees := catalogue_agrees (ofKnowledgeBase .standard)
  constructor
  · obtain ⟨rule, declared, isThird⟩ :
        ∃ rule ∈ KnowledgeBase.standard.rules, rule.id = 3 := by
      decide +kernel
    exact ⟨rule, declared, isThird, agrees.everything rule declared⟩
  · exact (agrees.nothing _).2 (by decide +kernel)

end Engine
end FaultFinder
