import FaultFinder.KnowledgeBase

/-!
# Sound rules and tables

Nothing is wrong with a rule exactly when it is sound, and nothing is wrong
with a table exactly when it has rules, each of them is sound, and no two have
the same number.
-/

namespace FaultFinder

/-- No element is repeated exactly when all differ from each other and from those seen. -/
theorem firstRepeatedAfter_eq_none_iff
    {α : Type}
    [DecidableEq α]
    {seen elements : List α} :
    firstRepeatedAfter seen elements = none ↔
      elements.Nodup ∧ ∀ element ∈ elements, element ∉ seen := by
  induction elements generalizing seen with
  | nil => simp [firstRepeatedAfter]
  | cons first rest inductionHypothesis =>
      by_cases repeated : first ∈ seen
      · simp [firstRepeatedAfter, repeated]
      · rw [firstRepeatedAfter, if_neg repeated, inductionHypothesis, List.nodup_cons]
        constructor
        · rintro ⟨distinct, unseen⟩
          refine ⟨⟨?_, distinct⟩, ?_⟩
          · intro member
            exact unseen first member List.mem_cons_self
          · intro element member
            rcases List.mem_cons.1 member with rfl | later
            · exact repeated
            · intro inSeen
              exact unseen element later (List.mem_cons_of_mem first inSeen)
        · rintro ⟨⟨notLater, distinct⟩, unseen⟩
          refine ⟨distinct, ?_⟩
          intro element later inSeen
          rcases List.mem_cons.1 inSeen with rfl | before
          · exact notLater later
          · exact unseen element (List.mem_cons_of_mem first later) before

/-- A rule has symptoms, lists none of them twice, and its confidence is in range. -/
structure Rule.IsSound (rule : Rule) : Prop where
  /-- The rule has symptoms. -/
  hasSymptoms : rule.symptoms ≠ []
  /-- The confidence is greater than zero and at most one. -/
  inRange : rule.baseConfidence.inUnitInterval = true
  /-- No symptom is listed twice. -/
  distinct : rule.symptoms.Nodup

theorem Rule.fault?_eq_none_iff (rule : Rule) : rule.fault? = none ↔ rule.IsSound := by
  unfold Rule.fault?
  split
  · next empty =>
      apply iff_of_false nofun
      intro sound
      exact sound.hasSymptoms (List.isEmpty_iff.1 empty)
  · next nonempty =>
      split
      · next outside =>
          apply iff_of_false nofun
          intro sound
          rw [sound.inRange] at outside
          exact absurd outside Bool.false_ne_true
      · next inside =>
          rw [Option.map_eq_none_iff, firstRepeatedAfter_eq_none_iff]
          constructor
          · rintro ⟨distinct, _⟩
            refine ⟨?_, ?_, distinct⟩
            · intro empty
              exact nonempty (List.isEmpty_iff.2 empty)
            · simpa using inside
          · intro sound
            exact ⟨sound.distinct, fun _ _ => List.not_mem_nil⟩

namespace KnowledgeBase

theorem firstFaultAfter_eq_none_iff
    {taken : List UInt32}
    {rules : List Rule} :
    firstFaultAfter taken rules = none ↔
      (∀ rule ∈ rules, rule.IsSound) ∧ (rules.map (·.id)).Nodup ∧
        ∀ rule ∈ rules, rule.id ∉ taken := by
  induction rules generalizing taken with
  | nil => simp [firstFaultAfter]
  | cons first rest inductionHypothesis =>
      unfold firstFaultAfter
      split
      · next fault isFault =>
          apply iff_of_false nofun
          rintro ⟨sound, _⟩
          rw [(Rule.fault?_eq_none_iff first).2 (sound first List.mem_cons_self)] at isFault
          cases isFault
      · next noFault =>
          have soundFirst := (Rule.fault?_eq_none_iff first).1 noFault
          by_cases repeated : first.id ∈ taken
          · rw [if_pos repeated]
            apply iff_of_false nofun
            rintro ⟨_, _, free⟩
            exact free first List.mem_cons_self repeated
          · rw [if_neg repeated, inductionHypothesis, List.map_cons, List.nodup_cons]
            simp only [List.mem_cons, forall_eq_or_imp, List.mem_map, not_exists, not_and,
              not_or, soundFirst, repeated, true_and, not_false_eq_true]
            constructor
            · rintro ⟨sound, distinct, free⟩
              refine ⟨sound, ⟨?_, distinct⟩, ?_⟩
              · intro rule member
                exact (free rule member).1
              · intro rule member
                exact (free rule member).2
            · rintro ⟨sound, ⟨different, distinct⟩, free⟩
              refine ⟨sound, distinct, ?_⟩
              intro rule member
              exact ⟨different rule member, free rule member⟩

theorem fault?_eq_none_iff (rules : List Rule) :
    fault? rules = none ↔
      rules ≠ [] ∧ (∀ rule ∈ rules, rule.IsSound) ∧ (rules.map (·.id)).Nodup := by
  unfold fault?
  split
  · next empty => exact iff_of_false nofun fun sound => sound.1 (List.isEmpty_iff.1 empty)
  · next nonempty =>
      have hasRules : rules ≠ [] := by
        intro empty
        exact nonempty (List.isEmpty_iff.2 empty)
      rw [firstFaultAfter_eq_none_iff]
      constructor
      · rintro ⟨sound, distinct, _⟩
        exact ⟨hasRules, sound, distinct⟩
      · rintro ⟨_, sound, distinct⟩
        exact ⟨sound, distinct, fun _ _ => List.not_mem_nil⟩

/-- A table with which nothing is wrong is a knowledge base. -/
theorem ofRules_of_fault?_eq_none
    {rules : List Rule}
    (sound : fault? rules = none) :
    ofRules rules = .ok ⟨rules, sound⟩ := by
  unfold ofRules
  split
  · rfl
  · next fault =>
      rw [sound] at fault
      cases fault

/-- A knowledge base has the rules of the table that it is made of. -/
theorem rules_of_ofRules
    {rules : List Rule}
    {knowledgeBase : KnowledgeBase}
    (made : ofRules rules = .ok knowledgeBase) :
    knowledgeBase.rules = rules := by
  unfold ofRules at made
  split at made
  · cases made
    rfl
  · cases made

variable (knowledgeBase : KnowledgeBase)

theorem ofRules_rules : ofRules knowledgeBase.rules = .ok knowledgeBase :=
  ofRules_of_fault?_eq_none knowledgeBase.sound

theorem isSound_of_mem
    {rule : Rule}
    (member : rule ∈ knowledgeBase.rules) :
    rule.IsSound :=
  ((fault?_eq_none_iff knowledgeBase.rules).1 knowledgeBase.sound).2.1 rule member

theorem nodup_ids : (knowledgeBase.rules.map (·.id)).Nodup :=
  ((fault?_eq_none_iff knowledgeBase.rules).1 knowledgeBase.sound).2.2

end KnowledgeBase
end FaultFinder
