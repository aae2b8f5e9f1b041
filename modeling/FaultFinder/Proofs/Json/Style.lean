import FaultFinder.Proofs.Json.Record
import Mathlib.Data.List.Forall2

/-!
# Styles of records

The same record can be presented in several ways: its members may stand in any
order and among others that are unknown, or it is the array of its fields.  This
is so for every record inside a value as well.  Some other changes leave no
record: a field that is missing, given twice or null, and an array of the wrong
length.

A reader respects a shape when it reads the same from another presentation, and
nothing after one of these changes.  Readers of lists do so when the readers of
their items do.
-/

namespace FaultFinder

/-! ## Lists whose elements belong together -/

theorem mapM_eq_some_iff_forall₂
    {α β : Type}
    {read? : α → Option β}
    {elements : List α}
    {results : List β} :
    elements.mapM read? = some results ↔
      List.Forall₂ (fun element result => read? element = some result) elements results := by
  induction elements generalizing results with
  | nil => simp [eq_comm]
  | cons first rest inductionHypothesis =>
      rw [List.mapM_cons]
      simp only [Option.bind_eq_bind, Option.bind_eq_some_iff]
      constructor
      · rintro ⟨head, readHead, tail, readTail, consed⟩
        cases consed
        exact .cons readHead (inductionHypothesis.1 readTail)
      · rintro (_ | ⟨readHead, readTail⟩)
        exact ⟨_, readHead, _, inductionHypothesis.2 readTail, rfl⟩

theorem exists_of_mem_left
    {α β : Type}
    {related : α → β → Prop}
    {elements : List α}
    {results : List β}
    (all : List.Forall₂ related elements results)
    {element : α}
    (member : element ∈ elements) :
    ∃ result ∈ results, related element result := by
  induction all with
  | nil => cases member
  | cons first rest inductionHypothesis =>
      rcases List.mem_cons.1 member with rfl | later
      · exact ⟨_, List.mem_cons_self, first⟩
      · obtain ⟨result, inRest, holds⟩ := inductionHypothesis later
        exact ⟨result, List.mem_cons_of_mem _ inRest, holds⟩

namespace Json

/-! ## Shapes and changes -/

/-- Where a value has records. -/
inductive Shape where
  /-- It has none. -/
  | plain
  /-- It is a list of values that all have a shape. -/
  | list (item : Shape)
  /-- It is a record of fields with names and shapes. -/
  | record (fields : List (String × Shape))

/-- One of the records of a value is presented in another way. -/
inductive Restyles : Shape → Json → Json → Prop where
  /-- The members stand in another order. -/
  | permuted
      {fields : List (String × Shape)}
      {old new : List (Option String × Json)}
      (sameMembers : old.Perm new) :
      Restyles (.record fields) (.object old) (.object new)
  /-- There is one more member, whose name is that of no field; it has any value. -/
  | inserted
      {fields : List (String × Shape)}
      {before after : List (Option String × Json)}
      {name : String}
      (unknown : name ∉ fields.map (·.1))
      (value : Json) :
      Restyles (.record fields) (.object (before ++ after))
        (.object (before ++ (some name, value) :: after))
  /-- The record is the array of the values of its fields, in their order. -/
  | listed
      {fields : List (String × Shape)}
      {members : List (Option String × Json)}
      {items : List Json}
      (fromMembers : List.Forall₂ (fun field item => (some field.1, item) ∈ members) fields items) :
      Restyles (.record fields) (.object members) (.array items)
  /-- A record inside a field is presented in another way. -/
  | member
      {fields : List (String × Shape)}
      {before after : List (Option String × Json)}
      {name : String}
      {shape : Shape}
      {old new : Json}
      (known : (name, shape) ∈ fields)
      (inside : Restyles shape old new) :
      Restyles (.record fields) (.object (before ++ (some name, old) :: after))
        (.object (before ++ (some name, new) :: after))
  /-- So is a record inside a field of an array. -/
  | component
      {fields earlier later : List (String × Shape)}
      {before after : List Json}
      {name : String}
      {shape : Shape}
      {old new : Json}
      (split : fields = earlier ++ (name, shape) :: later)
      (aligned : earlier.length = before.length)
      (inside : Restyles shape old new) :
      Restyles (.record fields) (.array (before ++ old :: after)) (.array (before ++ new :: after))
  /-- A record inside an item of a list is presented in another way. -/
  | item
      {shape : Shape}
      {before after : List Json}
      {old new : Json}
      (inside : Restyles shape old new) :
      Restyles (.list shape) (.array (before ++ old :: after)) (.array (before ++ new :: after))

/-- One of the records of a value is none any more. -/
inductive Breaks : Shape → Json → Json → Prop where
  /-- A field is missing. -/
  | removed
      {fields : List (String × Shape)}
      {before after : List (Option String × Json)}
      {name : String}
      {value : Json}
      (known : name ∈ fields.map (·.1)) :
      Breaks (.record fields) (.object (before ++ (some name, value) :: after))
        (.object (before ++ after))
  /-- A field is given once more, with any value. -/
  | repeated
      {fields : List (String × Shape)}
      {before after : List (Option String × Json)}
      {name : String}
      (known : name ∈ fields.map (·.1))
      (value : Json) :
      Breaks (.record fields) (.object (before ++ after))
        (.object (before ++ (some name, value) :: after))
  /-- A field is null. -/
  | nulled
      {fields : List (String × Shape)}
      {before after : List (Option String × Json)}
      {name : String}
      {value : Json}
      (known : name ∈ fields.map (·.1)) :
      Breaks (.record fields) (.object (before ++ (some name, value) :: after))
        (.object (before ++ (some name, .null) :: after))
  /-- There is one more member, whose name is no text. -/
  | nameless
      {fields : List (String × Shape)}
      {before after : List (Option String × Json)}
      (value : Json) :
      Breaks (.record fields) (.object (before ++ after)) (.object (before ++ (none, value) :: after))
  /-- The array of the fields has one item less. -/
  | shortened
      {fields : List (String × Shape)}
      {before after : List Json}
      {item : Json} :
      Breaks (.record fields) (.array (before ++ item :: after)) (.array (before ++ after))
  /-- The array of the fields has one item more. -/
  | lengthened
      {fields : List (String × Shape)}
      {before after : List Json}
      (item : Json) :
      Breaks (.record fields) (.array (before ++ after)) (.array (before ++ item :: after))
  /-- A field of an array is null. -/
  | nulledItem
      {fields : List (String × Shape)}
      {before after : List Json}
      {item : Json} :
      Breaks (.record fields) (.array (before ++ item :: after)) (.array (before ++ .null :: after))
  /-- A record inside a field is none any more. -/
  | member
      {fields : List (String × Shape)}
      {before after : List (Option String × Json)}
      {name : String}
      {shape : Shape}
      {old new : Json}
      (known : (name, shape) ∈ fields)
      (inside : Breaks shape old new) :
      Breaks (.record fields) (.object (before ++ (some name, old) :: after))
        (.object (before ++ (some name, new) :: after))
  /-- Neither is a record inside a field of an array. -/
  | component
      {fields earlier later : List (String × Shape)}
      {before after : List Json}
      {name : String}
      {shape : Shape}
      {old new : Json}
      (split : fields = earlier ++ (name, shape) :: later)
      (aligned : earlier.length = before.length)
      (inside : Breaks shape old new) :
      Breaks (.record fields) (.array (before ++ old :: after)) (.array (before ++ new :: after))
  /-- A record inside an item of a list is none any more. -/
  | item
      {shape : Shape}
      {before after : List Json}
      {old new : Json}
      (inside : Breaks shape old new) :
      Breaks (.list shape) (.array (before ++ old :: after)) (.array (before ++ new :: after))

/-- A reader reads the same from other presentations, and nothing after other changes. -/
structure Respects {α : Type} (shape : Shape) (read? : Json → Option α) : Prop where
  /-- Another presentation is read in the same way. -/
  kept : ∀ {old new element},
    Restyles shape old new → read? old = some element → read? new = some element
  /-- After other changes nothing is read. -/
  broken : ∀ {old new element},
    Breaks shape old new → read? old = some element → read? new = none

/-- A value without records cannot be presented in another way. -/
theorem respects_plain
    {α : Type}
    (read? : Json → Option α) :
    Respects .plain read? :=
  { kept := nofun
    broken := nofun }

/-- A list is read like its items. -/
theorem respects_list
    {α : Type}
    {shape : Shape}
    {read? : Json → Option α}
    (respects : Respects shape read?) :
    Respects (.list shape) (list? read?) := by
  refine
    { kept := ?kept
      broken := ?broken }
  case kept =>
      intro old new elements restyles isRead
      cases restyles with
      | item inside =>
          change List.mapM read? _ = _ at isRead
          obtain ⟨element, _, readItem⟩ := exists_of_mem_left (mapM_eq_some_iff_forall₂.1 isRead)
            List.mem_append_cons_self
          rw [List.mapM_append, List.mapM_cons, readItem] at isRead
          change List.mapM read? _ = _
          rw [List.mapM_append, List.mapM_cons, respects.kept inside readItem]
          exact isRead
  case broken =>
      intro old new elements breaks isRead
      cases breaks with
      | item inside =>
          change List.mapM read? _ = _ at isRead
          obtain ⟨element, _, readItem⟩ := exists_of_mem_left (mapM_eq_some_iff_forall₂.1 isRead)
            List.mem_append_cons_self
          rw [Option.eq_none_iff_forall_ne_some]
          intro others isReadAgain
          obtain ⟨other, _, readAgain⟩ :=
            exists_of_mem_left (mapM_eq_some_iff_forall₂.1 isReadAgain) List.mem_append_cons_self
          rw [respects.broken inside readItem] at readAgain
          cases readAgain

end Json
end FaultFinder
