import FaultFinder.Proofs.Binary64.Value
import FaultFinder.Proofs.Diagnosis.Relevance

/-!
# The faults of rule tables

A table is accepted exactly when it is sound, and then its rules are kept as
they are.  Otherwise the fault that is reported is the one at the first place
where anything is wrong.  Neither the order of the rules nor that of their
symptoms matters for whether a table is accepted.
-/

namespace FaultFinder

/-! ## Repetitions -/

/-- An element equals an earlier one, and before it no two elements are equal. -/
def FirstRepeats {α : Type} (elements : List α) (element : α) : Prop :=
  ∃ before after, elements = before ++ element :: after ∧ element ∈ before ∧ before.Nodup

theorem firstRepeatedAfter_eq_some_iff
    {α : Type}
    [DecidableEq α]
    {seen elements : List α}
    {element : α} :
    firstRepeatedAfter seen elements = some element ↔
      ∃ before after, elements = before ++ element :: after ∧
        (element ∈ seen ∨ element ∈ before) ∧ before.Nodup ∧ ∀ other ∈ before, other ∉ seen := by
  induction elements generalizing seen with
  | nil => simp [firstRepeatedAfter]
  | cons first rest inductionHypothesis =>
      by_cases repeated : first ∈ seen
      · rw [firstRepeatedAfter, if_pos repeated, Option.some.injEq]
        constructor
        · rintro rfl
          exact ⟨[], rest, rfl, .inl repeated, List.nodup_nil, List.forall_mem_nil _⟩
        · rintro ⟨before, after, split, _, _, unseen⟩
          cases before with
          | nil => exact (List.cons.inj split).1
          | cons other before =>
              obtain ⟨rfl, _⟩ := List.cons.inj split
              exact absurd repeated (unseen first List.mem_cons_self)
      · rw [firstRepeatedAfter, if_neg repeated, inductionHypothesis]
        constructor
        · rintro ⟨before, after, rfl, again, distinct, unseen⟩
          have new : first ∉ before := fun member => unseen first member List.mem_cons_self
          refine ⟨first :: before, after, rfl, ?_, List.nodup_cons.2 ⟨new, distinct⟩, ?_⟩
          · rcases again with inSeen | earlier
            · rcases List.mem_cons.1 inSeen with same | inSeen
              · exact .inr (List.mem_cons.2 (.inl same))
              · exact .inl inSeen
            · exact .inr (List.mem_cons_of_mem first earlier)
          · rw [List.forall_mem_cons]
            exact ⟨repeated, fun other member inSeen =>
              unseen other member (List.mem_cons_of_mem first inSeen)⟩
        · rintro ⟨before, after, split, again, distinct, unseen⟩
          cases before with
          | nil =>
              obtain ⟨rfl, _⟩ := List.cons.inj split
              exact absurd (again.resolve_right List.not_mem_nil) repeated
          | cons other before =>
              obtain ⟨rfl, rfl⟩ := List.cons.inj split
              rw [List.nodup_cons] at distinct
              rw [List.forall_mem_cons] at unseen
              refine ⟨before, after, rfl, ?_, distinct.2, ?_⟩
              · rw [List.mem_cons] at again ⊢
                tauto
              · intro later member inSeen
                rcases List.mem_cons.1 inSeen with rfl | inSeen
                · exact distinct.1 member
                · exact unseen.2 later member inSeen

theorem firstRepeatedAfter_nil_eq_some_iff
    {α : Type}
    [DecidableEq α]
    {elements : List α}
    {element : α} :
    firstRepeatedAfter [] elements = some element ↔ FirstRepeats elements element := by
  simp [firstRepeatedAfter_eq_some_iff, FirstRepeats]

/-! ## Faults of a rule -/

/-- What is wrong with a rule, when nothing that is checked before is. -/
inductive Rule.FirstFault (rule : Rule) : RuleFault → Prop where
  /-- The rule has no symptoms. -/
  | noSymptoms (empty : rule.symptoms = []) : rule.FirstFault .noSymptoms
  /-- The rule has symptoms, and its confidence is out of range. -/
  | confidenceOutOfRange
      (nonempty : rule.symptoms ≠ [])
      (outside : ¬rule.baseConfidence.IsInUnitInterval) :
      rule.FirstFault (.confidenceOutOfRange rule.baseConfidence)
  /-- The confidence is in range, and a symptom of the rule is the first that is repeated. -/
  | repeatedSymptom
      (inside : rule.baseConfidence.IsInUnitInterval)
      {symptom : String}
      (repeats : FirstRepeats rule.symptoms symptom) :
      rule.FirstFault (.repeatedSymptom symptom)

theorem Rule.fault?_eq_some_iff
    {rule : Rule}
    {fault : RuleFault} :
    rule.fault? = some fault ↔ rule.FirstFault fault := by
  unfold Rule.fault?
  split
  · next empty =>
      have noSymptoms : rule.symptoms = [] := List.isEmpty_iff.1 empty
      rw [Option.some.injEq]
      constructor
      · rintro rfl
        exact .noSymptoms noSymptoms
      · rintro (_ | ⟨nonempty, _⟩ | ⟨_, before, after, split, _⟩)
        · rfl
        · exact absurd noSymptoms nonempty
        · rw [noSymptoms] at split
          exact absurd split (List.append_ne_nil_of_right_ne_nil before (List.cons_ne_nil _ _)).symm
  · next someSymptoms =>
      have nonempty : rule.symptoms ≠ [] := fun empty => someSymptoms (List.isEmpty_iff.2 empty)
      split
      · next notInside =>
          have outside : ¬rule.baseConfidence.IsInUnitInterval := by
            rw [← Binary64.inUnitInterval_iff]
            simpa using notInside
          rw [Option.some.injEq]
          constructor
          · rintro rfl
            exact .confidenceOutOfRange nonempty outside
          · rintro (empty | _ | ⟨inside, _⟩)
            · exact absurd empty nonempty
            · rfl
            · exact absurd inside outside
      · next isInside =>
          have inside : rule.baseConfidence.IsInUnitInterval := by
            rw [← Binary64.inUnitInterval_iff]
            simpa using isInside
          simp only [Option.map_eq_some_iff, firstRepeatedAfter_nil_eq_some_iff]
          constructor
          · rintro ⟨symptom, repeats, rfl⟩
            exact .repeatedSymptom inside repeats
          · rintro (empty | ⟨_, outside⟩ | ⟨_, repeats⟩)
            · exact absurd empty nonempty
            · exact absurd inside outside
            · exact ⟨_, repeats, rfl⟩

namespace KnowledgeBase

/-! ## Faults of a table -/

/--
What is wrong with the rule at a place of a table, of which the given numbers
are already taken.  The faults of the rule come before a repeated number.
-/
inductive FaultAt (taken : List UInt32) (rules : List Rule) (place : Nat) : TableError → Prop where
  /-- The rule itself is not sound. -/
  | invalidRule
      {rule : Rule}
      (declared : rules[place]? = some rule)
      {fault : RuleFault}
      (isFirst : rule.FirstFault fault) :
      FaultAt taken rules place (.invalidRule rule.id fault)
  /-- The rule is sound, and an earlier one has the same number. -/
  | repeatedRuleId
      {rule : Rule}
      (declared : rules[place]? = some rule)
      (sound : ∀ fault, ¬rule.FirstFault fault)
      (repeats : rule.id ∈ taken ∨ ∃ earlier ∈ rules.take place, earlier.id = rule.id) :
      FaultAt taken rules place (.repeatedRuleId rule.id)

/-- Something is wrong at a place of a table, and nothing is at the places before it. -/
def FirstFaultAt
    (taken : List UInt32)
    (rules : List Rule)
    (place : Nat)
    (error : TableError) : Prop :=
  FaultAt taken rules place error ∧ ∀ earlier < place, ∀ other, ¬FaultAt taken rules earlier other

section Places

variable
    {taken : List UInt32}
    {first : Rule}
    {rest : List Rule}
    {error : TableError}

theorem faultAt_zero_iff :
    FaultAt taken (first :: rest) 0 error ↔
      (∃ fault, first.FirstFault fault ∧ error = .invalidRule first.id fault) ∨
        (∀ fault, ¬first.FirstFault fault) ∧ first.id ∈ taken ∧
          error = .repeatedRuleId first.id := by
  constructor
  · rintro (⟨declared, isFirst⟩ | ⟨declared, sound, repeats⟩)
    · cases declared
      exact .inl ⟨_, isFirst, rfl⟩
    · cases declared
      exact .inr ⟨sound, by simpa using repeats, rfl⟩
  · rintro (⟨fault, isFirst, rfl⟩ | ⟨sound, repeats, rfl⟩)
    · exact .invalidRule rfl isFirst
    · exact .repeatedRuleId rfl sound (.inl repeats)

theorem faultAt_succ_iff (place : Nat) :
    FaultAt taken (first :: rest) (place + 1) error ↔
      FaultAt (first.id :: taken) rest place error := by
  have repeats_iff (id : UInt32) :
      (id ∈ taken ∨ ∃ earlier ∈ (first :: rest).take (place + 1), earlier.id = id) ↔
        id ∈ first.id :: taken ∨ ∃ earlier ∈ rest.take place, earlier.id = id := by
    rw [List.take_succ_cons, List.exists_mem_cons_iff, List.mem_cons, eq_comm (a := id)]
    tauto
  constructor
  · rintro (⟨declared, isFirst⟩ | ⟨declared, sound, repeats⟩)
    · rw [List.getElem?_cons_succ] at declared
      exact .invalidRule declared isFirst
    · rw [List.getElem?_cons_succ] at declared
      exact .repeatedRuleId declared sound ((repeats_iff _).1 repeats)
  · rintro (⟨declared, isFirst⟩ | ⟨declared, sound, repeats⟩)
    · rw [← List.getElem?_cons_succ (a := first)] at declared
      exact .invalidRule declared isFirst
    · rw [← List.getElem?_cons_succ (a := first)] at declared
      exact .repeatedRuleId declared sound ((repeats_iff _).2 repeats)

/-- Where something is wrong with the first rule, that is the first fault. -/
theorem exists_firstFaultAt_of_zero
    {fault : TableError}
    (atFirst : FaultAt taken (first :: rest) 0 fault) :
    (∃ place, FirstFaultAt taken (first :: rest) place error) ↔
      FaultAt taken (first :: rest) 0 error := by
  constructor
  · rintro ⟨place, isFault, noneBefore⟩
    cases place with
    | zero => exact isFault
    | succ place => exact absurd atFirst (noneBefore 0 place.succ_pos fault)
  · intro isFault
    exact ⟨0, isFault, fun earlier before => absurd before earlier.not_lt_zero⟩

/-- Where nothing is wrong with the first rule, the first fault is that of the others. -/
theorem exists_firstFaultAt_cons_iff
    (noneAtFirst : ∀ fault, ¬FaultAt taken (first :: rest) 0 fault) :
    (∃ place, FirstFaultAt taken (first :: rest) place error) ↔
      ∃ place, FirstFaultAt (first.id :: taken) rest place error := by
  constructor
  · rintro ⟨place, isFault, noneBefore⟩
    cases place with
    | zero => exact absurd isFault (noneAtFirst error)
    | succ place =>
        refine ⟨place, (faultAt_succ_iff place).1 isFault, ?_⟩
        intro earlier before other
        rw [← faultAt_succ_iff]
        exact noneBefore (earlier + 1) (Nat.succ_lt_succ before) other
  · rintro ⟨place, isFault, noneBefore⟩
    refine ⟨place + 1, (faultAt_succ_iff place).2 isFault, ?_⟩
    intro earlier before other
    cases earlier with
    | zero => exact noneAtFirst other
    | succ earlier =>
        rw [faultAt_succ_iff]
        exact noneBefore earlier (Nat.lt_of_succ_lt_succ before) other

end Places

theorem firstFaultAfter_eq_some_iff
    {taken : List UInt32}
    {rules : List Rule}
    {error : TableError} :
    firstFaultAfter taken rules = some error ↔
      ∃ place, FirstFaultAt taken rules place error := by
  induction rules generalizing taken with
  | nil =>
      apply iff_of_false (Option.some_ne_none error).symm
      rintro ⟨place, ⟨declared, _⟩ | ⟨declared, _⟩, _⟩ <;> cases declared
  | cons first rest inductionHypothesis =>
      unfold firstFaultAfter
      cases found : first.fault? with
      | some fault =>
          have isFirst := Rule.fault?_eq_some_iff.1 found
          rw [exists_firstFaultAt_of_zero (faultAt_zero_iff.2 (.inl ⟨fault, isFirst, rfl⟩)),
            faultAt_zero_iff, Option.some.injEq]
          constructor
          · rintro rfl
            exact .inl ⟨fault, isFirst, rfl⟩
          · rintro (⟨other, otherIsFirst, rfl⟩ | ⟨sound, _⟩)
            · rw [← Rule.fault?_eq_some_iff, found, Option.some.injEq] at otherIsFirst
              rw [otherIsFirst]
            · exact absurd isFirst (sound fault)
      | none =>
          have sound (fault : RuleFault) : ¬first.FirstFault fault := by
            rw [← Rule.fault?_eq_some_iff, found]
            exact (Option.some_ne_none fault).symm
          by_cases repeated : first.id ∈ taken
          · rw [exists_firstFaultAt_of_zero
                (faultAt_zero_iff.2 (.inr ⟨sound, repeated, rfl⟩)), faultAt_zero_iff]
            simp only [if_pos repeated, Option.some.injEq]
            constructor
            · rintro rfl
              exact .inr ⟨sound, repeated, rfl⟩
            · rintro (⟨fault, isFirst, _⟩ | ⟨_, _, rfl⟩)
              · exact absurd isFirst (sound fault)
              · rfl
          · have noneAtFirst (fault : TableError) : ¬FaultAt taken (first :: rest) 0 fault := by
              rw [faultAt_zero_iff]
              rintro (⟨fault, isFirst, _⟩ | ⟨_, repeats, _⟩)
              · exact sound fault isFirst
              · exact repeated repeats
            simp only [if_neg repeated]
            rw [inductionHypothesis, exists_firstFaultAt_cons_iff noneAtFirst]

theorem ofRules_eq_error_iff
    {rules : List Rule}
    {error : TableError} :
    ofRules rules = .error error ↔ fault? rules = some error := by
  unfold ofRules
  split
  · next sound => exact iff_of_false nofun (by rw [sound]; nofun)
  · next fault isFault => rw [isFault, Option.some.injEq, Except.error.injEq]

theorem exists_ofRules_iff {rules : List Rule} :
    (∃ knowledgeBase, ofRules rules = .ok knowledgeBase) ↔ fault? rules = none := by
  constructor
  · rintro ⟨knowledgeBase, made⟩
    rw [← rules_of_ofRules made]
    exact knowledgeBase.sound
  · intro sound
    exact ⟨_, ofRules_of_fault?_eq_none sound⟩

/-! ## Sound tables -/

/-- A table has rules, each of them is sound, and their numbers differ. -/
structure IsSoundTable (rules : List Rule) : Prop where
  /-- There is a rule. -/
  hasRules : rules ≠ []
  /-- Every rule has symptoms. -/
  hasSymptoms : ∀ rule ∈ rules, rule.symptoms ≠ []
  /-- No rule lists a symptom twice. -/
  distinctSymptoms : ∀ rule ∈ rules, rule.symptoms.Nodup
  /-- Every confidence is greater than zero and at most one. -/
  inRange : ∀ rule ∈ rules, rule.baseConfidence.IsInUnitInterval
  /-- No two rules have the same number. -/
  distinctIds : rules.Pairwise fun earlier later => earlier.id ≠ later.id

theorem isSoundTable_iff {rules : List Rule} : IsSoundTable rules ↔ fault? rules = none := by
  rw [fault?_eq_none_iff, List.Nodup, List.pairwise_map]
  constructor
  · intro table
    refine ⟨table.hasRules, ?_, table.distinctIds⟩
    intro rule member
    exact
      { hasSymptoms := table.hasSymptoms rule member
        inRange := (Binary64.inUnitInterval_iff _).2 (table.inRange rule member)
        distinct := table.distinctSymptoms rule member }
  · rintro ⟨hasRules, sound, distinctIds⟩
    exact
      { hasRules
        hasSymptoms := fun rule member => (sound rule member).hasSymptoms
        distinctSymptoms := fun rule member => (sound rule member).distinct
        inRange := fun rule member =>
          (Binary64.inUnitInterval_iff _).1 (sound rule member).inRange
        distinctIds }

theorem fault?_eq_none_iff_of_perm
    {rules others : List Rule}
    (permuted : rules.Perm others) :
    fault? others = none ↔ fault? rules = none := by
  constructor
  · intro sound
    exact Engine.fault?_of_perm (show rules.Perm (mk others sound).rules from permuted)
  · intro sound
    exact Engine.fault?_of_perm (show others.Perm (mk rules sound).rules from permuted.symm)

theorem isReordered_symm
    {rule reordered : Rule}
    (isReordered : rule.IsReordered reordered) :
    reordered.IsReordered rule := by
  obtain ⟨symptoms, permuted, rfl⟩ := isReordered
  exact ⟨rule.symptoms, permuted.symm, rfl⟩

theorem fault?_eq_none_iff_of_isReordered
    {rules others : List Rule}
    (related : List.Forall₂ Rule.IsReordered rules others) :
    fault? others = none ↔ fault? rules = none := by
  have backwards : List.Forall₂ Rule.IsReordered others rules :=
    (related.imp fun _ _ => isReordered_symm).flip
  constructor
  · intro sound
    exact Engine.fault?_of_isReordered
      (show List.Forall₂ Rule.IsReordered (mk others sound).rules rules from backwards)
  · intro sound
    exact Engine.fault?_of_isReordered
      (show List.Forall₂ Rule.IsReordered (mk rules sound).rules others from related)

/-! ## Judging tables -/

/-- Tables are accepted when they are sound, and otherwise their first fault is reported. -/
structure JudgesExactly (rules : List Rule) : Prop where
  /-- A table is accepted exactly when it is sound. -/
  accepted : (∃ knowledgeBase, ofRules rules = .ok knowledgeBase) ↔ IsSoundTable rules
  /-- The rules of an accepted table are kept, in their order. -/
  kept (knowledgeBase : KnowledgeBase) (made : ofRules rules = .ok knowledgeBase) :
    knowledgeBase.rules = rules
  /-- A table without rules is reported as such, and no other table is. -/
  noRules : ofRules rules = .error .noRules ↔ rules = []
  /-- Of a table with rules the fault at the first place with one is reported. -/
  refused (nonempty : rules ≠ []) (error : TableError) :
    ofRules rules = .error error ↔ ∃ place, FirstFaultAt [] rules place error
  /-- The orders of the rules and of their symptoms do not matter for acceptance. -/
  reordered
      (between : List Rule) (permuted : rules.Perm between)
      (others : List Rule) (related : List.Forall₂ Rule.IsReordered between others) :
    (∃ knowledgeBase, ofRules others = .ok knowledgeBase) ↔
      ∃ knowledgeBase, ofRules rules = .ok knowledgeBase

theorem fault?_eq_some_noRules_iff {rules : List Rule} :
    fault? rules = some .noRules ↔ rules = [] := by
  cases rules with
  | nil => exact iff_of_true rfl rfl
  | cons first rest =>
      apply iff_of_false _ (List.cons_ne_nil first rest)
      rw [fault?, if_neg (by simp), firstFaultAfter_eq_some_iff]
      rintro ⟨place, isFault, _⟩
      cases isFault

/-- Every table is judged by the first of its faults. -/
theorem first_fault_reported (rules : List Rule) : JudgesExactly rules := by
  refine
    { accepted := ?accepted
      kept := fun _ => rules_of_ofRules
      noRules := ?noRules
      refused := ?refused
      reordered := ?reordered }
  case accepted => rw [exists_ofRules_iff, isSoundTable_iff]
  case noRules => rw [ofRules_eq_error_iff, fault?_eq_some_noRules_iff]
  case refused =>
      intro nonempty error
      rw [ofRules_eq_error_iff, fault?, if_neg (mt List.isEmpty_iff.1 nonempty),
        firstFaultAfter_eq_some_iff]
  case reordered =>
      intro between permuted others related
      rw [exists_ofRules_iff, exists_ofRules_iff, fault?_eq_none_iff_of_isReordered related,
        fault?_eq_none_iff_of_perm permuted]

/-- A rule with the number one. -/
def numberedOne (symptoms : List String) : Rule :=
  { id := 1
    name := "Hard disk"
    symptoms
    baseConfidence := .one
    remedy := "Backup" }

/-- The second of three rules repeats two symptoms and a number, and the third has no symptoms. -/
theorem first_fault_reported_repetitions :
    [numberedOne ["a"], numberedOne ["a", "b", "b", "a"], numberedOne []] ≠ [] ∧
      ofRules [numberedOne ["a"], numberedOne ["a", "b", "b", "a"], numberedOne []] =
        .error (.invalidRule 1 (.repeatedSymptom "b")) := by
  have nonempty : [numberedOne ["a"], numberedOne ["a", "b", "b", "a"], numberedOne []] ≠ [] :=
    List.cons_ne_nil _ _
  refine ⟨nonempty, ((first_fault_reported _).refused nonempty _).2 ⟨1, ?atSecond, ?noneBefore⟩⟩
  case atSecond =>
      have inside : Binary64.one.IsInUnitInterval :=
        (Binary64.inUnitInterval_iff .one).1 (by decide +kernel)
      have repeats : FirstRepeats ["a", "b", "b", "a"] "b" :=
        ⟨["a", "b"], ["a"], rfl, by decide, by decide⟩
      rw [faultAt_succ_iff, faultAt_zero_iff]
      exact .inl ⟨_, .repeatedSymptom inside repeats, rfl⟩
  case noneBefore =>
      intro earlier before other
      obtain rfl : earlier = 0 := Nat.lt_one_iff.1 before
      have sound : (numberedOne ["a"]).fault? = none := by decide +kernel
      rw [faultAt_zero_iff]
      rintro (⟨fault, isFirst, _⟩ | ⟨_, taken, _⟩)
      · rw [← Rule.fault?_eq_some_iff, sound] at isFirst
        cases isFirst
      · cases taken

end KnowledgeBase
end FaultFinder
