import FaultFinder.Json.Record
import FaultFinder.Json.Scalar
import FaultFinder.Proofs.Text.Digits

/-!
# Reading numbers, lists and records back

Every field of a record is found again under its name when the names differ,
and so is every number that is small enough and every list of such values.
Conversely, what is read from a list or as a count is something that can be
written.
-/

namespace FaultFinder

/-- What is read from a list is read from one of its elements. -/
theorem exists_of_mem_mapM
    {α β : Type}
    {read? : α → Option β}
    {elements : List α}
    {results : List β}
    (read : elements.mapM read? = some results)
    {result : β}
    (member : result ∈ results) :
    ∃ element ∈ elements, read? element = some result := by
  induction elements generalizing results with
  | nil =>
      rw [List.mapM_nil] at read
      cases read
      cases member
  | cons first rest inductionHypothesis =>
      rw [List.mapM_cons] at read
      simp only [Option.bind_eq_bind, Option.bind_eq_some_iff] at read
      obtain ⟨head, readHead, tail, readTail, consed⟩ := read
      cases consed
      rcases List.mem_cons.1 member with rfl | later
      · exact ⟨first, List.mem_cons_self, readHead⟩
      · obtain ⟨element, present, readElement⟩ := inductionHypothesis readTail later
        exact ⟨element, List.mem_cons_of_mem first present, readElement⟩

namespace Json

/-! ## Numbers and strings -/

@[simp] theorem string?_ofString (content : String) :
    (ofString content).string? = some content := rfl

theorem natBelow?_ofNat
    {bound number : Nat}
    (fits : number < bound) :
    (ofNat number).natBelow? bound = some number := by
  have condition :
      (Numeral.ofNat number).isWhole = true ∧ ¬(Numeral.ofNat number).negative = true ∧
        (Numeral.ofNat number).whole < bound :=
    ⟨rfl, Bool.false_ne_true, fits⟩
  rw [ofNat, natBelow?, if_pos condition]
  rfl

@[simp] theorem uint8?_ofNat_toNat (number : UInt8) :
    (ofNat number.toNat).uint8? = some number := by
  rw [uint8?, natBelow?_ofNat number.toNat_lt_size, Option.map_some, UInt8.ofNat_toNat]

@[simp] theorem uint32?_ofNat_toNat (number : UInt32) :
    (ofNat number.toNat).uint32? = some number := by
  rw [uint32?, natBelow?_ofNat number.toNat_lt_size, Option.map_some, UInt32.ofNat_toNat]

theorem count?_ofNat
    {count : Nat}
    (fits : count < UInt64.size) :
    (ofNat count).count? = some count :=
  natBelow?_ofNat fits

/-- A count that is read has sixty-four bits. -/
theorem lt_of_count?
    {value : Json}
    {count : Nat}
    (read : value.count? = some count) :
    count < UInt64.size := by
  cases value with
  | number numeral =>
      rw [count?, natBelow?] at read
      split at read
      · next condition =>
          cases read
          exact condition.2.2
      · cases read
  | null => cases read
  | bool value => cases read
  | text content => cases read
  | array items => cases read
  | object members => cases read

/-! ## Lists -/

theorem list?_ofList
    {α : Type}
    {ofElement : α → Json}
    {element? : Json → Option α}
    {elements : List α}
    (reads : ∀ element ∈ elements, element? (ofElement element) = some element) :
    (ofList ofElement elements).list? element? = some elements :=
  mapM_map_eq_some reads

theorem exists_of_mem_list?
    {α : Type}
    {element? : Json → Option α}
    {value : Json}
    {elements : List α}
    (read : value.list? element? = some elements)
    {element : α}
    (member : element ∈ elements) :
    ∃ item, element? item = some element := by
  cases value with
  | array items =>
      obtain ⟨item, _, readItem⟩ := exists_of_mem_mapM read member
      exact ⟨item, readItem⟩
  | null => cases read
  | bool value => cases read
  | number numeral => cases read
  | text content => cases read
  | object members => cases read

/-- Lists with the same value are the same if this holds of their elements. -/
theorem eq_of_ofList_eq
    {α : Type}
    {ofElement : α → Json}
    (injective : ∀ left right, ofElement left = ofElement right → left = right)
    {left right : List α}
    (same : ofList ofElement left = ofList ofElement right) :
    left = right :=
  (List.map_inj_right injective).1 (Json.array.inj same)

/-! ## Records -/

/-- The members of an object whose names are texts. -/
def namedMembers (members : List (String × Json)) : List (Option String × Json) :=
  members.map fun (name, value) => (some name, value)

theorem filter_namedMembers_eq_nil
    {members : List (String × Json)}
    {name : String}
    (absent : name ∉ members.map (·.1)) :
    (namedMembers members).filter (fun member => member.1 = some name) = [] := by
  rw [List.filter_eq_nil_iff]
  intro member present
  obtain ⟨source, inMembers, rfl⟩ := List.mem_map.1 present
  intro same
  have equal : source.1 = name := Option.some.inj (of_decide_eq_true same)
  exact absent (equal ▸ List.mem_map_of_mem inMembers)

/-- A member is found under its name when no other one has this name. -/
theorem onlyMember?_of_mem
    {members : List (String × Json)}
    (distinct : (members.map (·.1)).Nodup)
    {member : String × Json}
    (present : member ∈ members) :
    onlyMember? (namedMembers members) member.1 = some member.2 := by
  have only :
      (namedMembers members).filter (fun other => other.1 = some member.1) =
        [(some member.1, member.2)] := by
    induction members with
    | nil => cases present
    | cons first rest inductionHypothesis =>
        rw [List.map_cons, List.nodup_cons] at distinct
        rcases List.mem_cons.1 present with rfl | later
        · have none := filter_namedMembers_eq_nil distinct.1
          rw [namedMembers, List.map_cons, List.filter_cons_of_pos (by simp)]
          apply congrArg
          exact none
        · have differs : first.1 ≠ member.1 := by
            intro same
            exact distinct.1 (same ▸ List.mem_map_of_mem later)
          rw [namedMembers, List.map_cons, List.filter_cons_of_neg (by simpa using differs)]
          exact inductionHypothesis distinct.2 later
  rw [onlyMember?, only]

/-- The fields of a record whose names differ are read back from its object. -/
theorem fields?_ofMembers
    {members : List (String × Json)}
    (distinct : (members.map (·.1)).Nodup) :
    (ofMembers members).fields? (members.map (·.1)) = some (members.map (·.2)) := by
  have named : ((namedMembers members).all fun member => member.1.isSome) = true := by
    rw [List.all_eq_true]
    intro member present
    obtain ⟨source, _, rfl⟩ := List.mem_map.1 present
    rfl
  have found :
      (members.map (·.1)).mapM (onlyMember? (namedMembers members)) =
        some (members.map (·.2)) :=
    mapM_map_eq_some_map fun _ present => onlyMember?_of_mem distinct present
  change (if ((namedMembers members).all fun member => member.1.isSome) = true then _ else _) = _
  rw [if_pos named]
  exact found

end Json
end FaultFinder
