import FaultFinder.Proofs.Json.Style
import Mathlib.Data.List.Nodup

/-!
# Readers of records

A record is read from an object that has each field as its only member with this
name, or from an array with each field at its place.  What the other members are
called and where they stand makes no difference.  So a reader of records respects
their shape when the readers of the fields do.
-/

namespace FaultFinder

/-! ## Lists whose elements belong together -/

section Lists

variable
    {α β : Type}
    {related other : α → β → Prop}

theorem forall₂_imp_of_mem
    {elements : List α}
    {results : List β}
    (implies : ∀ element ∈ elements, ∀ result, related element result → other element result)
    (all : List.Forall₂ related elements results) :
    List.Forall₂ other elements results := by
  induction all with
  | nil => exact .nil
  | cons first rest inductionHypothesis =>
      refine .cons (implies _ List.mem_cons_self _ first) ?_
      exact inductionHypothesis fun element member =>
        implies element (List.mem_cons_of_mem _ member)

theorem exists_of_mem_right
    {elements : List α}
    {results : List β}
    (all : List.Forall₂ related elements results)
    {result : β}
    (member : result ∈ results) :
    ∃ element ∈ elements, related element result :=
  exists_of_mem_left (List.Forall₂.flip all) member

/-- Elements belong to a list when each of them belongs to something. -/
theorem exists_forall₂_iff
    {elements : List α} :
    (∃ results, List.Forall₂ related elements results) ↔
      ∀ element ∈ elements, ∃ result, related element result := by
  constructor
  · rintro ⟨results, all⟩ element member
    obtain ⟨result, _, holds⟩ := exists_of_mem_left all member
    exact ⟨result, holds⟩
  · intro each
    induction elements with
    | nil => exact ⟨[], .nil⟩
    | cons first rest inductionHypothesis =>
        obtain ⟨result, holds⟩ := each first List.mem_cons_self
        obtain ⟨results, all⟩ := inductionHypothesis fun element member =>
          each element (List.mem_cons_of_mem first member)
        exact ⟨result :: results, .cons holds all⟩

/-- At the same place of both lists the elements belong together. -/
theorem forall₂_append_cons_iff
    {earlier later : List α}
    {before after : List β}
    (aligned : earlier.length = before.length)
    {element : α}
    {result : β} :
    List.Forall₂ related (earlier ++ element :: later) (before ++ result :: after) ↔
      List.Forall₂ related earlier before ∧ related element result ∧
        List.Forall₂ related later after := by
  induction earlier generalizing before with
  | nil =>
      cases before with
      | nil => simp
      | cons first before => cases aligned
  | cons first earlier inductionHypothesis =>
      cases before with
      | nil => cases aligned
      | cons second before =>
          have shorter : earlier.length = before.length := Nat.succ.inj aligned
          rw [List.cons_append, List.cons_append, List.forall₂_cons, List.forall₂_cons,
            inductionHypothesis shorter, and_assoc]

/-- What is mapped to both sides of an element is on both sides of one that is mapped to it. -/
theorem exists_of_map_eq_append_cons
    {mapped : α → β}
    {elements : List α}
    {before after : List β}
    {result : β}
    (isMapped : elements.map mapped = before ++ result :: after) :
    ∃ earlier element later,
      elements = earlier ++ element :: later ∧ earlier.map mapped = before ∧
        mapped element = result ∧ later.map mapped = after := by
  obtain ⟨earlier, others, rfl, mappedEarlier, mappedOthers⟩ := List.map_eq_append_iff.1 isMapped
  obtain ⟨element, later, rfl, mappedElement, mappedLater⟩ := List.map_eq_cons_iff.1 mappedOthers
  exact ⟨earlier, element, later, rfl, mappedEarlier, mappedElement, mappedLater⟩

end Lists

namespace Json

/-! ## The only member with a name -/

/-- The members with a name. -/
def membersWith (members : List (Option String × Json)) (name : String) :
    List (Option String × Json) :=
  members.filter fun member => member.1 = some name

section Members

variable
    {members before after : List (Option String × Json)}
    {name : String}
    {value found : Json}

theorem onlyMember?_eq_some_iff :
    onlyMember? members name = some value ↔ membersWith members name = [(some name, value)] := by
  unfold onlyMember? membersWith
  split
  · next first single only =>
      have isNamed : (first, single) ∈ members.filter fun member => member.1 = some name := by
        rw [only]
        exact List.mem_cons_self
      have sameName : first = some name := of_decide_eq_true (List.mem_filter.1 isNamed).2
      rw [only, sameName]
      simp
  · next notSingle =>
      apply iff_of_false nofun
      exact notSingle _ _

theorem onlyMember?_perm
    {others : List (Option String × Json)}
    (sameMembers : members.Perm others)
    (isOnly : onlyMember? members name = some value) :
    onlyMember? others name = some value := by
  rw [onlyMember?_eq_some_iff] at isOnly ⊢
  have sameNamed := sameMembers.filter fun member => decide (member.1 = some name)
  rw [membersWith] at isOnly
  rw [isOnly] at sameNamed
  exact (List.singleton_perm.1 sameNamed).symm

theorem membersWith_insert_of_ne
    {other : Option String}
    (isOther : other ≠ some name)
    (value : Json) :
    membersWith (before ++ (other, value) :: after) name = membersWith (before ++ after) name := by
  rw [membersWith, List.filter_append, List.filter_cons_of_neg (by simpa using isOther), membersWith,
    List.filter_append]

theorem onlyMember?_insert_of_ne
    {other : Option String}
    (isOther : other ≠ some name)
    (value : Json) :
    onlyMember? (before ++ (other, value) :: after) name = onlyMember? (before ++ after) name := by
  apply Option.ext
  intro found
  rw [onlyMember?_eq_some_iff, onlyMember?_eq_some_iff, membersWith_insert_of_ne isOther]

/-- A member is the only one with its name when no other one has it. -/
theorem onlyMember?_insert_iff :
    onlyMember? (before ++ (some name, value) :: after) name = some found ↔
      value = found ∧ membersWith (before ++ after) name = [] := by
  rw [onlyMember?_eq_some_iff, membersWith, List.filter_append,
    List.filter_cons_of_pos (by simp), membersWith, List.filter_append]
  generalize before.filter _ = earlier
  generalize after.filter _ = later
  cases earlier with
  | nil => simp
  | cons first earlier => simp

theorem onlyMember?_of_membersWith_eq_nil
    (absent : membersWith members name = []) :
    onlyMember? members name = none := by
  rw [Option.eq_none_iff_forall_ne_some]
  intro value isOnly
  rw [onlyMember?_eq_some_iff, absent] at isOnly
  cases isOnly

theorem eq_of_mem_of_onlyMember?
    (isOnly : onlyMember? members name = some found)
    (member : (some name, value) ∈ members) :
    value = found := by
  have isNamed : (some name, value) ∈ membersWith members name :=
    List.mem_filter.2 ⟨member, decide_eq_true rfl⟩
  rw [onlyMember?_eq_some_iff.1 isOnly, List.mem_singleton] at isNamed
  exact congrArg Prod.snd isNamed

end Members

/-! ## Readers of records -/

/-- A field of the records that are read as elements of a type. -/
structure RecordField (α : Type) where
  /-- The name of the field. -/
  name : String
  /-- The shape of its values. -/
  shape : Shape
  /-- The value fits the element. -/
  Fits : α → Json → Prop
  /-- Null fits nothing. -/
  notNull : ∀ {element}, ¬Fits element .null
  /-- Another presentation of a value fits as well. -/
  kept : ∀ {old new element}, Restyles shape old new → Fits element old → Fits element new
  /-- After other changes the value fits nothing. -/
  broken : ∀ {old new element other}, Breaks shape old new → Fits element old → ¬Fits other new

/-- The field from which a part of the elements is read. -/
def RecordField.ofPart
    {α β : Type}
    (name : String)
    (part : α → β)
    {shape : Shape}
    {read? : Json → Option β}
    (respects : Respects shape read?)
    (notNull : read? .null = none) :
    RecordField α :=
  { name
    shape
    Fits := fun element value => read? value = some (part element)
    notNull := by
      intro element isRead
      rw [notNull] at isRead
      cases isRead
    kept := respects.kept
    broken := by
      intro old new element other breaks isRead isReadAgain
      rw [respects.broken breaks isRead] at isReadAgain
      cases isReadAgain }

/-- The shape of records with some fields. -/
def Shape.ofFields {α : Type} (fields : List (RecordField α)) : Shape :=
  .record (fields.map fun field => (field.name, field.shape))

/-- What is read as an element are the records whose fields fit it. -/
def ReadsRecords {α : Type} (fields : List (RecordField α)) (read? : Json → Option α) : Prop :=
  ∀ value element,
    read? value = some element ↔
      ∃ values, value.fields? (fields.map (·.name)) = some values ∧
        List.Forall₂ (fun field value => field.Fits element value) fields values

namespace ReadsRecords

/-- The fields are taken out of a record, and the element is made of their values. -/
theorem ofParts
    {α : Type}
    {fields : List (RecordField α)}
    {parts? : List Json → Option α}
    (fit : ∀ values element,
      parts? values = some element ↔
        List.Forall₂ (fun field value => field.Fits element value) fields values) :
    ReadsRecords fields fun value => (value.fields? (fields.map (·.name))).bind parts? := by
  intro value element
  rw [Option.bind_eq_some_iff]
  apply exists_congr
  intro values
  rw [fit]

variable
    {α : Type}
    {fields : List (RecordField α)}
    {read? : Json → Option α}
    (reads : ReadsRecords fields read?)
    {element : α}

include reads

/-- An object is read when each field fits as its only member with this name. -/
theorem object_iff
    {members : List (Option String × Json)} :
    read? (.object members) = some element ↔
      (members.all fun member => member.1.isSome) = true ∧
        ∀ field ∈ fields, ∃ value,
          onlyMember? members field.name = some value ∧ field.Fits element value := by
  rw [reads, ← exists_forall₂_iff]
  constructor
  · rintro ⟨values, isFields, fit⟩
    simp only [fields?] at isFields
    split at isFields
    · next named =>
        rw [mapM_eq_some_iff_forall₂, List.forall₂_map_left_iff] at isFields
        exact ⟨named, values, List.Forall₂.mp (fun _ _ => And.intro) isFields fit⟩
    · cases isFields
  · rintro ⟨named, values, all⟩
    refine ⟨values, ?_, all.imp fun _ _ => And.right⟩
    simp only [fields?]
    rw [if_pos named, mapM_eq_some_iff_forall₂, List.forall₂_map_left_iff]
    exact all.imp fun _ _ => And.left

/-- An array is read when its items fit the fields one by one. -/
theorem array_iff
    {items : List Json} :
    read? (.array items) = some element ↔
      List.Forall₂ (fun field value => field.Fits element value) fields items := by
  rw [reads]
  constructor
  · rintro ⟨values, isFields, fit⟩
    simp only [fields?] at isFields
    split at isFields
    · cases isFields
      exact fit
    · cases isFields
  · intro fit
    refine ⟨items, ?_, fit⟩
    simp only [fields?]
    rw [if_pos]
    rw [List.length_map, fit.length_eq]

/-- A member that is no field makes no difference. -/
theorem object_insert_unknown_iff
    {before after : List (Option String × Json)}
    {name : String}
    (unknown : name ∉ fields.map (·.name))
    (value : Json) :
    read? (.object (before ++ (some name, value) :: after)) = some element ↔
      read? (.object (before ++ after)) = some element := by
  have sameMember :
      ∀ field ∈ fields,
        onlyMember? (before ++ (some name, value) :: after) field.name =
          onlyMember? (before ++ after) field.name := by
    intro field inFields
    apply onlyMember?_insert_of_ne
    intro same
    exact unknown (Option.some.inj same ▸ List.mem_map_of_mem inFields)
  rw [reads.object_iff, reads.object_iff]
  apply and_congr
  · simp only [List.all_append, List.all_cons, Option.isSome_some, Bool.true_and]
  · apply forall₂_congr
    intro field inFields
    rw [sameMember field inFields]

/-- A member that is a field has to fit, and it has to be the only one. -/
theorem object_insert_known_iff
    (distinct : (fields.map (·.name)).Nodup)
    {field : RecordField α}
    (inFields : field ∈ fields)
    {before after : List (Option String × Json)}
    {value : Json} :
    read? (.object (before ++ (some field.name, value) :: after)) = some element ↔
      field.Fits element value ∧ membersWith (before ++ after) field.name = [] ∧
        ((before ++ after).all fun member => member.1.isSome) = true ∧
        ∀ other ∈ fields, other ≠ field → ∃ found,
          onlyMember? (before ++ after) other.name = some found ∧ other.Fits element found := by
  have sameMember :
      ∀ other ∈ fields, other ≠ field →
        onlyMember? (before ++ (some field.name, value) :: after) other.name =
          onlyMember? (before ++ after) other.name := by
    intro other otherInFields isOther
    apply onlyMember?_insert_of_ne
    intro sameName
    -- Names differ, so another field has another name.
    apply isOther
    exact List.inj_on_of_nodup_map distinct otherInFields inFields (Option.some.inj sameName).symm
  rw [reads.object_iff]
  simp only [List.all_append, List.all_cons, Option.isSome_some, Bool.true_and]
  constructor
  · rintro ⟨named, each⟩
    obtain ⟨found, isOnly, fits⟩ := each field inFields
    obtain ⟨rfl, absent⟩ := onlyMember?_insert_iff.1 isOnly
    refine ⟨fits, absent, named, ?_⟩
    intro other otherInFields isOther
    rw [← sameMember other otherInFields isOther]
    exact each other otherInFields
  · rintro ⟨fits, absent, named, others⟩
    refine ⟨named, ?_⟩
    intro other otherInFields
    by_cases same : other = field
    · rw [same]
      exact ⟨value, onlyMember?_insert_iff.2 ⟨rfl, absent⟩, fits⟩
    · rw [sameMember other otherInFields same]
      exact others other otherInFields same

/-- An item of an array has to fit the field at its place. -/
theorem array_insert_iff
    {earlier later : List (RecordField α)}
    {field : RecordField α}
    (split : fields = earlier ++ field :: later)
    {before after : List Json}
    (aligned : earlier.length = before.length)
    {value : Json} :
    read? (.array (before ++ value :: after)) = some element ↔
      List.Forall₂ (fun field value => field.Fits element value) earlier before ∧
        field.Fits element value ∧
        List.Forall₂ (fun field value => field.Fits element value) later after := by
  rw [reads.array_iff, split, forall₂_append_cons_iff aligned]

/-- Without a member for each field nothing is read. -/
theorem ne_some_of_absent
    {field : RecordField α}
    (inFields : field ∈ fields)
    {members : List (Option String × Json)}
    (absent : membersWith members field.name = []) :
    read? (.object members) ≠ some element := by
  intro isRead
  obtain ⟨value, isOnly, _⟩ := (reads.object_iff.1 isRead).2 field inFields
  rw [onlyMember?_of_membersWith_eq_nil absent] at isOnly
  cases isOnly

/-- A record is presented in another way and still read as the same element. -/
theorem kept
    (distinct : (fields.map (·.name)).Nodup)
    {old new : Json}
    (restyles : Restyles (Shape.ofFields fields) old new)
    (isRead : read? old = some element) :
    read? new = some element := by
  generalize same : Shape.ofFields fields = shape at restyles
  cases restyles with
  | permuted sameMembers =>
      obtain ⟨named, each⟩ := reads.object_iff.1 isRead
      apply reads.object_iff.2
      refine ⟨?_, ?_⟩
      · rw [List.all_eq_true] at named ⊢
        exact fun member present => named member (sameMembers.mem_iff.2 present)
      · intro field inFields
        obtain ⟨value, isOnly, fits⟩ := each field inFields
        exact ⟨value, onlyMember?_perm sameMembers isOnly, fits⟩
  | inserted unknown value =>
      obtain rfl := Shape.record.inj same
      rw [List.map_map] at unknown
      exact (reads.object_insert_unknown_iff unknown value).2 isRead
  | listed fromMembers =>
      obtain rfl := Shape.record.inj same
      obtain ⟨_, each⟩ := reads.object_iff.1 isRead
      rw [List.forall₂_map_left_iff] at fromMembers
      apply reads.array_iff.2
      apply forall₂_imp_of_mem _ fromMembers
      intro field inFields item present
      -- The item comes from the only member with the name of the field.
      obtain ⟨value, isOnly, fits⟩ := each field inFields
      rw [eq_of_mem_of_onlyMember? isOnly present]
      exact fits
  | member known inside =>
      obtain rfl := Shape.record.inj same
      obtain ⟨field, inFields, isField⟩ := List.mem_map.1 known
      cases isField
      rw [reads.object_insert_known_iff distinct inFields] at isRead ⊢
      exact isRead.imp_left (field.kept inside)
  | component split aligned inside =>
      obtain rfl := Shape.record.inj same
      obtain ⟨earlier, field, later, rfl, rfl, isField, rfl⟩ := exists_of_map_eq_append_cons split
      cases isField
      rw [List.length_map] at aligned
      rw [reads.array_insert_iff rfl aligned] at isRead ⊢
      exact isRead.imp_right (And.imp_left (field.kept inside))
  | item inside => cases same

/-- What is no record any more is read as nothing. -/
theorem broken
    (distinct : (fields.map (·.name)).Nodup)
    {old new : Json}
    (breaks : Breaks (Shape.ofFields fields) old new)
    (isRead : read? old = some element)
    {other : α} :
    read? new ≠ some other := by
  intro isReadAgain
  generalize same : Shape.ofFields fields = shape at breaks
  cases breaks with
  | removed known =>
      obtain rfl := Shape.record.inj same
      rw [List.map_map] at known
      obtain ⟨field, inFields, rfl⟩ := List.mem_map.1 known
      have absent := ((reads.object_insert_known_iff distinct inFields).1 isRead).2.1
      exact reads.ne_some_of_absent inFields absent isReadAgain
  | repeated known value =>
      -- What was added would have to be the only member, but the record had one before.
      obtain rfl := Shape.record.inj same
      rw [List.map_map] at known
      obtain ⟨field, inFields, rfl⟩ := List.mem_map.1 known
      have absent := ((reads.object_insert_known_iff distinct inFields).1 isReadAgain).2.1
      exact reads.ne_some_of_absent inFields absent isRead
  | nulled known =>
      obtain rfl := Shape.record.inj same
      rw [List.map_map] at known
      obtain ⟨field, inFields, rfl⟩ := List.mem_map.1 known
      exact field.notNull ((reads.object_insert_known_iff distinct inFields).1 isReadAgain).1
  | nameless value =>
      have named := (reads.object_iff.1 isReadAgain).1
      simp at named
  | shortened =>
      have length := (reads.array_iff.1 isRead).length_eq
      have lengthAgain := (reads.array_iff.1 isReadAgain).length_eq
      rw [List.length_append] at length lengthAgain
      rw [List.length_cons] at length
      omega
  | lengthened item =>
      have length := (reads.array_iff.1 isRead).length_eq
      have lengthAgain := (reads.array_iff.1 isReadAgain).length_eq
      rw [List.length_append] at length lengthAgain
      rw [List.length_cons] at lengthAgain
      omega
  | nulledItem =>
      obtain ⟨field, _, fits⟩ :=
        exists_of_mem_right (reads.array_iff.1 isReadAgain) List.mem_append_cons_self
      exact field.notNull fits
  | member known inside =>
      obtain rfl := Shape.record.inj same
      obtain ⟨field, inFields, isField⟩ := List.mem_map.1 known
      cases isField
      rw [reads.object_insert_known_iff distinct inFields] at isRead isReadAgain
      exact field.broken inside isRead.1 isReadAgain.1
  | component split aligned inside =>
      obtain rfl := Shape.record.inj same
      obtain ⟨earlier, field, later, rfl, rfl, isField, rfl⟩ := exists_of_map_eq_append_cons split
      cases isField
      rw [List.length_map] at aligned
      rw [reads.array_insert_iff rfl aligned] at isRead isReadAgain
      exact field.broken inside isRead.2.1 isReadAgain.2.1
  | item inside => cases same

/-- A record is read like its fields. -/
theorem respects
    (distinct : (fields.map (·.name)).Nodup) :
    Respects (Shape.ofFields fields) read? := by
  refine
    { kept := ?kept
      broken := ?broken }
  case kept =>
      intro old new element restyles isRead
      exact reads.kept distinct restyles isRead
  case broken =>
      intro old new element breaks isRead
      rw [Option.eq_none_iff_forall_ne_some]
      intro other
      exact reads.broken distinct breaks isRead

end ReadsRecords

end Json
end FaultFinder
