import FaultFinder.Json.Reader

/-!
# Reading the tokens of a value

Each value has its tokens: those of its parts between brackets, with commas
between them.  The reading machine goes over the tokens of a value to the state
in which this value has been read, whatever is open around it and whatever
follows.
-/

namespace FaultFinder
namespace Json

/-- Values are made of the values that arrays and objects hold. -/
@[elab_as_elim, induction_eliminator]
theorem induction
    {motive : Json → Prop}
    (null : motive .null)
    (bool : ∀ value, motive (.bool value))
    (number : ∀ numeral, motive (.number numeral))
    (text : ∀ content, motive (.text content))
    (array : ∀ items, (∀ item ∈ items, motive item) → motive (.array items))
    (object : ∀ members, (∀ member ∈ members, motive member.2) → motive (.object members)) :
    ∀ value, motive value
  | .null => null
  | .bool value => bool value
  | .number numeral => number numeral
  | .text content => text content
  | .array items => array items fun item _ => induction null bool number text array object item
  | .object members =>
      object members fun member _ => induction null bool number text array object member.2
termination_by value => sizeOf value
decreasing_by
  · next member =>
      have smaller := List.sizeOf_lt_of_mem member
      simp only [Json.array.sizeOf_spec]
      omega
  · next present =>
      have smaller := List.sizeOf_lt_of_mem present
      cases member
      simp only [Json.object.sizeOf_spec, Prod.mk.sizeOf_spec] at smaller ⊢
      omega

/-- The parts of a list with a separator between them, one after the other. -/
theorem flatten_intersperse_cons
    {α : Type}
    (separator first : List α)
    (rest : List (List α)) :
    ((first :: rest).intersperse separator).flatten =
      first ++ rest.flatMap (separator ++ ·) := by
  induction rest generalizing first with
  | nil => simp
  | cons second rest inductionHypothesis =>
      rw [List.intersperse_cons_cons, List.flatten_cons, List.flatten_cons, inductionHypothesis,
        List.flatMap_cons, List.append_assoc]

/-! ## The tokens of a value -/

/-- Parts in brackets, with commas between them. -/
def bracketedTokens (opening closing : Token) (parts : List (List Token)) : List Token :=
  opening :: (parts.intersperse [.comma]).flatten ++ [closing]

theorem bracketedTokens_cons_append
    (opening closing : Token)
    (first : List Token)
    (others : List (List Token))
    (rest : List Token) :
    bracketedTokens opening closing (first :: others) ++ rest =
      opening :: (first ++ (others.flatMap ([.comma] ++ ·) ++ closing :: rest)) := by
  rw [bracketedTokens, flatten_intersperse_cons]
  simp only [List.append_assoc, List.cons_append, List.nil_append]

mutual

/-- The tokens of a value. -/
def toTokens : Json → List Token
  | .null => [.null]
  | .bool value => [.bool value]
  | .number numeral => [.number numeral]
  | .text content => [.text content]
  | .array items => bracketedTokens .openArray .closeArray (itemTokens items)
  | .object members => bracketedTokens .openObject .closeObject (memberTokens members)

/-- The tokens of items. -/
def itemTokens : List Json → List (List Token)
  | [] => []
  | item :: items => toTokens item :: itemTokens items

/-- The tokens of members. -/
def memberTokens : List (Option String × Json) → List (List Token)
  | [] => []
  | (name, value) :: members =>
      (.text name :: .colon :: toTokens value) :: memberTokens members

end

namespace Reading

/-! ## The reading machine -/

theorem run_inArray_toTokens
    (value : Json)
    (stack : List Frame)
    (rest : List Token) :
    (inArray stack).run (toTokens value ++ rest) =
      (atValue (.array [] :: stack)).run (toTokens value ++ rest) := by
  cases value <;> rfl

/-- The machine reads a value from its tokens. -/
def Reads (value : Json) : Prop :=
  ∀ stack rest, (atValue stack).run (toTokens value ++ rest) = (complete value stack).run rest

/-- After an item, the rest of an array is read from the tokens of the other items. -/
theorem run_items
    {items : List Json}
    (reads : ∀ item ∈ items, Reads item)
    (value : Json)
    (done : List Json)
    (stack : List Frame)
    (rest : List Token) :
    (complete value (.array done :: stack)).run
        ((itemTokens items).flatMap ([.comma] ++ ·) ++ .closeArray :: rest) =
      (complete (.array (done.reverse ++ value :: items)) stack).run rest := by
  induction items generalizing value done with
  | nil =>
      have closed :
          (complete value (.array done :: stack)).run (.closeArray :: rest) =
            (complete (.array (value :: done).reverse) stack).run rest := rfl
      rw [itemTokens, List.flatMap_nil, List.nil_append, closed, List.reverse_cons]
  | cons item items inductionHypothesis =>
      have readsItem := reads item List.mem_cons_self
      have readsItems := inductionHypothesis fun item member =>
        reads item (List.mem_cons_of_mem _ member)
      have separated (tokens : List Token) :
          (complete value (.array done :: stack)).run (.comma :: tokens) =
            (atValue (.array (value :: done) :: stack)).run tokens := rfl
      rw [itemTokens, List.flatMap_cons, List.append_assoc, List.append_assoc, List.cons_append,
        List.nil_append, separated, readsItem, readsItems, List.reverse_cons, List.append_assoc]
      rfl

/-- After a member, the rest of an object is read from the tokens of the other members. -/
theorem run_members
    {members : List (Option String × Json)}
    (reads : ∀ member ∈ members, Reads member.2)
    (name : Option String)
    (value : Json)
    (done : List (Option String × Json))
    (stack : List Frame)
    (rest : List Token) :
    (complete value (.object done name :: stack)).run
        ((memberTokens members).flatMap ([.comma] ++ ·) ++ .closeObject :: rest) =
      (complete (.object (done.reverse ++ (name, value) :: members)) stack).run rest := by
  induction members generalizing name value done with
  | nil =>
      have closed :
          (complete value (.object done name :: stack)).run (.closeObject :: rest) =
            (complete (.object ((name, value) :: done).reverse) stack).run rest := rfl
      rw [memberTokens, List.flatMap_nil, List.nil_append, closed, List.reverse_cons]
  | cons member members inductionHypothesis =>
      have readsMember := reads member List.mem_cons_self
      have readsMembers := inductionHypothesis fun member present =>
        reads member (List.mem_cons_of_mem _ present)
      obtain ⟨next, following⟩ := member
      have named (tokens : List Token) :
          (complete value (.object done name :: stack)).run
              (.comma :: .text next :: .colon :: tokens) =
            (atValue (.object ((name, value) :: done) next :: stack)).run tokens := rfl
      rw [memberTokens, List.flatMap_cons, List.append_assoc, List.append_assoc, List.cons_append,
        List.nil_append, List.cons_append, List.cons_append, named, readsMember, readsMembers,
        List.reverse_cons, List.append_assoc]
      rfl

theorem reads_array
    {items : List Json}
    (reads : ∀ item ∈ items, Reads item) :
    Reads (.array items) := by
  intro stack rest
  cases items with
  | nil => rfl
  | cons item items =>
      have readsItem := reads item List.mem_cons_self
      have readsItems := run_items fun item member => reads item (List.mem_cons_of_mem _ member)
      have opened (tokens : List Token) :
          (atValue stack).run (.openArray :: tokens) = (inArray stack).run tokens := rfl
      rw [toTokens, itemTokens, bracketedTokens_cons_append, opened, run_inArray_toTokens,
        readsItem, readsItems]
      rfl

theorem reads_object
    {members : List (Option String × Json)}
    (reads : ∀ member ∈ members, Reads member.2) :
    Reads (.object members) := by
  intro stack rest
  cases members with
  | nil => rfl
  | cons member members =>
      have readsMember := reads member List.mem_cons_self
      have readsMembers := run_members fun member present =>
        reads member (List.mem_cons_of_mem _ present)
      obtain ⟨name, value⟩ := member
      have opened (tokens : List Token) :
          (atValue stack).run (.openObject :: .text name :: .colon :: tokens) =
            (atValue (.object [] name :: stack)).run tokens := rfl
      rw [toTokens, memberTokens, bracketedTokens_cons_append, List.cons_append, List.cons_append,
        opened, readsMember, readsMembers]
      rfl

/-- Every value is read from its tokens. -/
theorem reads_all (value : Json) : Reads value := by
  induction value with
  | null => exact fun _ _ => rfl
  | bool value => exact fun _ _ => rfl
  | number numeral => exact fun _ _ => rfl
  | text content => exact fun _ _ => rfl
  | array items reads => exact reads_array reads
  | object members reads => exact reads_object reads

end Reading

/-- The tokens of a value are read as this value, and nothing is left. -/
theorem readValue_toTokens (value : Json) : readValue (toTokens value) = some (value, []) := by
  have read := Reading.reads_all value [] []
  rw [List.append_nil] at read
  rw [readValue, read]
  rfl

end Json
end FaultFinder
