import FaultFinder.Proofs.Json.Exact
import FaultFinder.Proofs.Json.Format
import FaultFinder.Service.Body

/-!
# What bodies ask for

A value asks for the diagnosis of a list of symptoms when it is an object or an
array of the right shape.  Reading a body gives a list of symptoms exactly when
the body starts with a value that asks for them, so each part of the reading is
described by the tokens of the values that it accepts.
-/

namespace FaultFinder

theorem bind_eq_ok_iff
    {ε α β : Type}
    {first : Except ε α}
    {next : α → Except ε β}
    {result : β} :
    first >>= next = .ok result ↔ ∃ value, first = .ok value ∧ next value = .ok result := by
  cases first with
  | error cause => exact iff_of_false nofun nofun
  | ok value =>
      constructor
      · intro isResult
        exact ⟨value, rfl, isResult⟩
      · rintro ⟨_, same, isResult⟩
        cases same
        exact isResult

namespace Service

open Json (Token toTokens nameTokens)

/-- The value of a list of symptoms. -/
abbrev symptomsJson (symptoms : List String) : Json :=
  .ofList .ofString symptoms

/-- The value asks for the diagnosis of a list of symptoms. -/
inductive Asks : Json → List String → Prop where
  /-- An object without the list asks about no symptoms. -/
  | silent
      {members : List (Option String × Json)}
      (named : ∀ member ∈ members, member.1.isSome = true)
      (absent : members.filter (·.1 = some "symptoms") = []) :
      Asks (.object members) []
  /-- An object has the list once, among any members with other names. -/
  | named
      {members : List (Option String × Json)}
      {symptoms : List String}
      (named : ∀ member ∈ members, member.1.isSome = true)
      (present :
        members.filter (·.1 = some "symptoms") = [(some "symptoms", symptomsJson symptoms)]) :
      Asks (.object members) symptoms
  /-- An array without the list asks about no symptoms. -/
  | empty : Asks (.array []) []
  /-- An array has nothing but the list. -/
  | single (symptoms : List String) : Asks (.array [symptomsJson symptoms]) symptoms

namespace Body

variable
    {tokens rest : List Token}
    {symptoms : List String}

/-- The tokens of symptoms, each after a comma. -/
def furtherTokens (symptoms : List String) : List Token :=
  symptoms.flatMap fun symptom => [.comma, .text (some symptom)]

theorem toTokens_symptomsJson_cons
    (symptom : String)
    (symptoms : List String)
    (rest : List Token) :
    toTokens (symptomsJson (symptom :: symptoms)) ++ rest =
      .openArray :: .text (some symptom) ::
        (furtherTokens symptoms ++ .closeArray :: rest) := by
  have further :
      (Json.itemTokens (symptoms.map .ofString)).flatMap ([.comma] ++ ·) =
        furtherTokens symptoms := by
    rw [Json.itemTokens_eq_map, List.map_map, List.flatMap_map, furtherTokens]
    rfl
  rw [symptomsJson, Json.ofList, List.map_cons, toTokens, Json.itemTokens,
    Json.bracketedTokens_cons_append, further]
  rfl

theorem readMore_eq_ok_iff :
    readMore tokens = .ok (symptoms, rest) ↔
      tokens = furtherTokens symptoms ++ .closeArray :: rest := by
  fun_induction readMore tokens generalizing symptoms with
  | case1 remaining =>
      cases symptoms with
      | nil => simp [furtherTokens, eq_comm]
      | cons symptom symptoms => simp [furtherTokens]
  | case2 symptom remaining inductionHypothesis =>
      rw [bind_eq_ok_iff]
      cases symptoms with
      | nil => simp [furtherTokens, pure, Except.pure]
      | cons first others =>
          have following := @inductionHypothesis others
          simp only [furtherTokens, List.flatMap_cons, List.cons_append, List.nil_append,
            List.cons.injEq, true_and, Token.text.injEq, Option.some.injEq] at following ⊢
          constructor
          · rintro ⟨⟨found, left⟩, more, same⟩
            cases same
            exact ⟨rfl, following.1 more⟩
          · rintro ⟨rfl, same⟩
            exact ⟨(others, rest), following.2 same, rfl⟩
  | case3 remaining notText =>
      apply iff_of_false (by simp)
      intro same
      cases symptoms with
      | nil => simp [furtherTokens] at same
      | cons symptom symptoms =>
          simp only [furtherTokens, List.flatMap_cons, List.cons_append, List.cons.injEq,
            true_and] at same
          exact notText symptom _ same
  | case4 tokens notClosed _ notComma =>
      apply iff_of_false (by simp)
      intro same
      cases symptoms with
      | nil => exact notClosed rest same
      | cons symptom symptoms => exact notComma _ same

/-- A list of symptoms is read exactly from its tokens. -/
theorem readSymptoms_eq_ok_iff :
    readSymptoms tokens = .ok (symptoms, rest) ↔
      tokens = toTokens (symptomsJson symptoms) ++ rest := by
  have nil : toTokens (symptomsJson []) = [.openArray, .closeArray] := rfl
  unfold readSymptoms
  split
  · next remaining =>
      cases symptoms with
      | nil => simp [nil, eq_comm]
      | cons symptom symptoms => simp [toTokens_symptomsJson_cons]
  · next symptom remaining =>
      rw [bind_eq_ok_iff]
      cases symptoms with
      | nil => simp [nil, pure, Except.pure]
      | cons first others =>
          rw [toTokens_symptomsJson_cons]
          simp only [List.cons.injEq, true_and, Token.text.injEq, Option.some.injEq]
          constructor
          · rintro ⟨⟨found, left⟩, more, same⟩
            cases same
            exact ⟨rfl, readMore_eq_ok_iff.1 more⟩
          · rintro ⟨rfl, same⟩
            exact ⟨(others, rest), readMore_eq_ok_iff.2 same, rfl⟩
  · next remaining notClosed notText =>
      apply iff_of_false (by simp)
      intro same
      cases symptoms with
      | nil =>
          rw [nil] at same
          exact notClosed rest (List.cons.inj same).2
      | cons symptom symptoms =>
          rw [toTokens_symptomsJson_cons] at same
          exact notText symptom _ (List.cons.inj same).2
  · next tokens _ _ notOpened =>
      apply iff_of_false (by simp)
      intro same
      cases symptoms with
      | nil =>
          rw [nil] at same
          exact notOpened _ same
      | cons symptom symptoms =>
          rw [toTokens_symptomsJson_cons] at same
          exact notOpened _ same

/-! ## Members -/

/-- What is known of the list of symptoms after one more member. -/
inductive Learns : Option (List String) → Option String × Json → Option (List String) → Prop where
  /-- The list may come once. -/
  | symptoms (symptoms : List String) :
      Learns none (some "symptoms", symptomsJson symptoms) (some symptoms)
  /-- Any other member says nothing about it. -/
  | other
      {name : String}
      (different : name ≠ "symptoms")
      (found : Option (List String))
      (value : Json) :
      Learns found (some name, value) found

variable
    {found result : Option (List String)}

/-- A member is read exactly from its tokens. -/
theorem readMember_eq_ok_iff :
    readMember found tokens = .ok (result, rest) ↔
      ∃ member, Learns found member result ∧ tokens = nameTokens member ++ rest := by
  constructor
  · intro isRead
    unfold readMember at isRead
    split at isRead
    · next name remaining =>
        split at isRead
        · next isSymptoms =>
            subst isSymptoms
            split at isRead
            · cases isRead
            · next notFound =>
                rw [Option.not_isSome_iff_eq_none] at notFound
                subst notFound
                split at isRead
                · next following =>
                    obtain ⟨⟨symptoms, left⟩, list, same⟩ := bind_eq_ok_iff.1 isRead
                    cases same
                    rw [readSymptoms_eq_ok_iff] at list
                    refine ⟨_, .symptoms symptoms, ?_⟩
                    rw [list]
                    rfl
                · cases isRead
        · next different =>
            split at isRead
            · next following =>
                split at isRead
                · next value left skipped =>
                    cases isRead
                    rw [Json.readValue_eq_some_iff] at skipped
                    refine ⟨_, .other different found value, ?_⟩
                    rw [skipped]
                    rfl
                · cases isRead
            · cases isRead
    · cases isRead
  · rintro ⟨member, learns, rfl⟩
    cases learns with
    | symptoms symptoms =>
        have list :
            readSymptoms (toTokens (symptomsJson symptoms) ++ rest) = .ok (symptoms, rest) :=
          readSymptoms_eq_ok_iff.2 rfl
        change readMember none
          (.text (some "symptoms") :: .colon :: (toTokens (symptomsJson symptoms) ++ rest)) = _
        rw [readMember, if_pos rfl]
        simp only [Option.isSome_none, Bool.false_eq_true, if_false, list]
        rfl
    | @other name different found value =>
        have skipped : Json.readValue (toTokens value ++ rest) = some (value, rest) :=
          Json.readValue_eq_some_iff.2 rfl
        change readMember found (.text (some name) :: .colon :: (toTokens value ++ rest)) = _
        rw [readMember, if_neg different]
        simp only [skipped]

/-- What is known of the list of symptoms after some more members. -/
inductive Gathers :
    Option (List String) → List (Option String × Json) → Option (List String) → Prop where
  /-- Without members nothing changes. -/
  | nil (found : Option (List String)) : Gathers found [] found
  /-- The members come one after the other. -/
  | cons
      {found next result : Option (List String)}
      {member : Option String × Json}
      {members : List (Option String × Json)}
      (learns : Learns found member next)
      (gathers : Gathers next members result) :
      Gathers found (member :: members) result

theorem gathers_cons_iff
    {member : Option String × Json}
    {members : List (Option String × Json)} :
    Gathers found (member :: members) result ↔
      ∃ next, Learns found member next ∧ Gathers next members result := by
  constructor
  · rintro ⟨⟩
    exact ⟨_, ‹_›, ‹_›⟩
  · rintro ⟨next, learns, gathers⟩
    exact .cons learns gathers

/-- The list does not come a second time. -/
theorem gathers_some_iff
    {members : List (Option String × Json)} :
    Gathers (some symptoms) members result ↔
      (∀ member ∈ members, member.1.isSome = true) ∧
        members.filter (·.1 = some "symptoms") = [] ∧ result = some symptoms := by
  induction members with
  | nil =>
      constructor
      · rintro ⟨⟩
        exact ⟨nofun, rfl, rfl⟩
      · rintro ⟨_, _, rfl⟩
        exact .nil _
  | cons member members inductionHypothesis =>
      obtain ⟨name, value⟩ := member
      constructor
      · intro gathers
        cases gathers with
        | cons learns gathers =>
            cases learns with
            | other different =>
                obtain ⟨named, absent, same⟩ := inductionHypothesis.1 gathers
                refine ⟨?_, ?_, same⟩
                · simpa using named
                · rw [List.filter_cons_of_neg (by simpa using different)]
                  exact absent
      · rintro ⟨named, absent, same⟩
        have isSome := named _ List.mem_cons_self
        obtain ⟨content, rfl⟩ := Option.isSome_iff_exists.1 isSome
        have different : content ≠ "symptoms" := by
          rintro rfl
          rw [List.filter_cons_of_pos (by simp)] at absent
          cases absent
        rw [List.filter_cons_of_neg (by simpa using different)] at absent
        refine .cons (.other different _ _) (inductionHypothesis.2 ⟨?_, absent, same⟩)
        intro member present
        exact named member (List.mem_cons_of_mem _ present)

/-- The list comes at most once, and is missing unless it comes. -/
theorem gathers_none_iff
    {members : List (Option String × Json)} :
    Gathers none members result ↔
      (∀ member ∈ members, member.1.isSome = true) ∧
        (members.filter (·.1 = some "symptoms") = [] ∧ result = none ∨
          ∃ symptoms,
            members.filter (·.1 = some "symptoms") =
                [(some "symptoms", symptomsJson symptoms)] ∧
              result = some symptoms) := by
  induction members with
  | nil =>
      constructor
      · rintro ⟨⟩
        exact ⟨nofun, .inl ⟨rfl, rfl⟩⟩
      · rintro ⟨_, ⟨_, rfl⟩ | ⟨_, absurdity, _⟩⟩
        · exact .nil _
        · cases absurdity
  | cons member members inductionHypothesis =>
      obtain ⟨name, value⟩ := member
      constructor
      · intro gathers
        cases gathers with
        | cons learns gathers =>
            cases learns with
            | symptoms symptoms =>
                obtain ⟨named, absent, same⟩ := gathers_some_iff.1 gathers
                refine ⟨?_, .inr ⟨symptoms, ?_, same⟩⟩
                · simpa using named
                · rw [List.filter_cons_of_pos (by simp), absent]
            | other different =>
                obtain ⟨named, cases⟩ := inductionHypothesis.1 gathers
                refine ⟨?_, ?_⟩
                · simpa using named
                · rw [List.filter_cons_of_neg (by simpa using different)]
                  exact cases
      · rintro ⟨named, cases⟩
        have isSome := named _ List.mem_cons_self
        obtain ⟨content, rfl⟩ := Option.isSome_iff_exists.1 isSome
        have later : ∀ member ∈ members, member.1.isSome = true := by
          intro member present
          exact named member (List.mem_cons_of_mem _ present)
        by_cases isSymptoms : content = "symptoms"
        · subst isSymptoms
          rw [List.filter_cons_of_pos (by simp)] at cases
          rcases cases with ⟨absurdity, _⟩ | ⟨symptoms, present, same⟩
          · cases absurdity
          · obtain ⟨sameMember, absent⟩ := List.cons.inj present
            obtain rfl : value = symptomsJson symptoms := congrArg Prod.snd sameMember
            exact .cons (.symptoms symptoms) (gathers_some_iff.2 ⟨later, absent, same⟩)
        · rw [List.filter_cons_of_neg (by simpa using isSymptoms)] at cases
          exact .cons (.other isSymptoms _ _) (inductionHypothesis.2 ⟨later, cases⟩)

theorem readMember_nameTokens
    {member : Option String × Json}
    (learns : Learns found member result)
    (rest : List Token) :
    readMember found (nameTokens member ++ rest) = .ok (result, rest) :=
  readMember_eq_ok_iff.2 ⟨member, learns, rfl⟩

/-- The tokens of members, each after a comma, and those that follow the object. -/
def furtherMembers (members : List (Option String × Json)) (rest : List Token) : List Token :=
  (members.map nameTokens).flatMap ([.comma] ++ ·) ++ .closeObject :: rest

theorem furtherMembers_cons
    (member : Option String × Json)
    (members : List (Option String × Json))
    (rest : List Token) :
    furtherMembers (member :: members) rest =
      .comma :: (nameTokens member ++ furtherMembers members rest) := by
  rw [furtherMembers, List.map_cons, List.flatMap_cons, List.append_assoc, List.append_assoc]
  rfl

/-- The members of an object are read exactly from their tokens, up to the end of the object. -/
theorem readMembers_eq_ok_iff :
    readMembers found tokens = .ok symptoms ↔
      ∃ member members result rest,
        Gathers found (member :: members) result ∧ symptoms = result.getD [] ∧
          tokens = nameTokens member ++ furtherMembers members rest := by
  fun_induction readMembers found tokens with
  | case1 found tokens fault isRead =>
      apply iff_of_false (by simp)
      rintro ⟨member, members, result, rest, gathers, rfl, rfl⟩
      -- The tokens of a member are read as this member, whatever follows them.
      obtain ⟨next, learns, _⟩ := gathers_cons_iff.1 gathers
      rw [readMember_nameTokens learns] at isRead
      cases isRead
  | case2 found tokens next remaining isRead =>
      constructor
      · rintro ⟨⟩
        obtain ⟨member, learns, same⟩ := readMember_eq_ok_iff.1 isRead
        exact ⟨member, [], next, remaining, .cons learns (.nil next), rfl, same⟩
      · rintro ⟨member, members, result, rest, gathers, rfl, rfl⟩
        obtain ⟨found, learns, gathers⟩ := gathers_cons_iff.1 gathers
        rw [readMember_nameTokens learns] at isRead
        cases members with
        | nil =>
            cases isRead
            cases gathers
            rfl
        | cons other members =>
            rw [furtherMembers_cons] at isRead
            cases isRead
  | case3 found tokens next remaining isRead inductionHypothesis =>
      rw [inductionHypothesis]
      constructor
      · rintro ⟨other, members, result, rest, gathers, same, rfl⟩
        obtain ⟨member, learns, rfl⟩ := readMember_eq_ok_iff.1 isRead
        refine ⟨member, other :: members, result, rest, .cons learns gathers, same, ?_⟩
        rw [furtherMembers_cons]
      · rintro ⟨member, members, result, rest, gathers, same, rfl⟩
        obtain ⟨found, learns, gathers⟩ := gathers_cons_iff.1 gathers
        rw [readMember_nameTokens learns] at isRead
        cases members with
        | nil => cases isRead
        | cons other members =>
            rw [furtherMembers_cons] at isRead
            cases isRead
            exact ⟨other, members, result, rest, gathers, same, rfl⟩
  | case4 found tokens next notClosed notComma isRead =>
      apply iff_of_false (by simp)
      rintro ⟨member, members, result, rest, gathers, rfl, rfl⟩
      obtain ⟨found, learns, _⟩ := gathers_cons_iff.1 gathers
      rw [readMember_nameTokens learns] at isRead
      cases isRead
      cases members with
      | nil => exact notClosed found rest rfl
      | cons other members => exact notComma found _ (by rw [furtherMembers_cons])

/-! ## Requests -/

theorem toTokens_object_cons
    (member : Option String × Json)
    (members : List (Option String × Json))
    (rest : List Token) :
    toTokens (.object (member :: members)) ++ rest =
      .openObject :: (nameTokens member ++ furtherMembers members rest) := by
  have tokens : Json.memberTokens (member :: members) = (member :: members).map nameTokens :=
    Json.memberTokens_eq_map _
  rw [toTokens, tokens, List.map_cons, Json.bracketedTokens_cons_append, furtherMembers]

/-- An object asks for a list of symptoms when its members tell of it. -/
theorem asks_object_iff
    {members : List (Option String × Json)} :
    Asks (.object members) symptoms ↔
      ∃ result, Gathers none members result ∧ symptoms = result.getD [] := by
  constructor
  · intro asks
    cases asks with
    | silent named absent => exact ⟨none, gathers_none_iff.2 ⟨named, .inl ⟨absent, rfl⟩⟩, rfl⟩
    | named named present =>
        exact ⟨some symptoms, gathers_none_iff.2 ⟨named, .inr ⟨symptoms, present, rfl⟩⟩, rfl⟩
  · rintro ⟨result, gathers, rfl⟩
    obtain ⟨named, ⟨absent, rfl⟩ | ⟨symptoms, present, rfl⟩⟩ := gathers_none_iff.1 gathers
    · exact .silent named absent
    · exact .named named present

theorem toTokens_array_single (value : Json) (rest : List Token) :
    toTokens (.array [value]) ++ rest = .openArray :: (toTokens value ++ .closeArray :: rest) := by
  rw [toTokens, Json.itemTokens, Json.bracketedTokens_cons_append]
  rfl

/-- A value that asks for symptoms is read as a request for them. -/
theorem readRequest_toTokens
    {value : Json}
    (asks : Asks value symptoms)
    (rest : List Token) :
    readRequest (toTokens value ++ rest) = .ok symptoms := by
  cases value with
  | object members =>
      obtain ⟨result, gathers, same⟩ := asks_object_iff.1 asks
      cases members with
      | nil =>
          cases gathers
          rw [same]
          rfl
      | cons member members =>
          rw [toTokens_object_cons]
          exact readMembers_eq_ok_iff.2 ⟨member, members, result, rest, gathers, same, rfl⟩
  | array items =>
      cases asks with
      | empty => rfl
      | single =>
          have list :
              readSymptoms (toTokens (symptomsJson symptoms) ++ .closeArray :: rest) =
                .ok (symptoms, .closeArray :: rest) :=
            readSymptoms_eq_ok_iff.2 rfl
          rw [toTokens_array_single]
          exact bind_eq_ok_iff.2 ⟨_, list, rfl⟩
  | null => cases asks
  | bool value => cases asks
  | number numeral => cases asks
  | text content => cases asks

/-- A request is read exactly from the tokens of a value that asks for its symptoms. -/
theorem readRequest_eq_ok_iff :
    readRequest tokens = .ok symptoms ↔
      ∃ value rest, tokens = toTokens value ++ rest ∧ Asks value symptoms := by
  constructor
  · intro isRead
    unfold readRequest at isRead
    split at isRead
    · next remaining =>
        cases isRead
        exact ⟨.object [], remaining, rfl, asks_object_iff.2 ⟨none, .nil none, rfl⟩⟩
    · next remaining _ =>
        obtain ⟨member, members, result, rest, gathers, same, rfl⟩ :=
          readMembers_eq_ok_iff.1 isRead
        refine ⟨.object (member :: members), rest, ?_, asks_object_iff.2 ⟨result, gathers, same⟩⟩
        rw [toTokens_object_cons]
    · next remaining =>
        cases isRead
        exact ⟨.array [], remaining, rfl, .empty⟩
    · next remaining _ =>
        obtain ⟨⟨listed, left⟩, list, closed⟩ := bind_eq_ok_iff.1 isRead
        split at closed
        · next found rest same =>
            cases same
            cases closed
            rw [readSymptoms_eq_ok_iff] at list
            refine ⟨.array [symptomsJson symptoms], rest, ?_, .single symptoms⟩
            rw [list, toTokens_array_single]
        · cases closed
    · cases isRead
  · rintro ⟨value, rest, rfl, asks⟩
    exact readRequest_toTokens asks rest

/-- A body is read exactly when it starts with a value that asks for symptoms. -/
theorem read_eq_ok_iff
    {body : ByteArray} :
    read body = .ok symptoms ↔
      ∃ value rest,
        Json.tokens (Text.symbolsOfBytes body) = toTokens value ++ rest ∧ Asks value symptoms :=
  readRequest_eq_ok_iff

/-- The text of a value that asks for symptoms is a body that does. -/
theorem read_layout
    {layout : Json → String}
    (inLayouts : layout ∈ Json.layouts)
    {value : Json}
    (asks : Asks value symptoms) :
    read (layout value).toUTF8 = .ok symptoms := by
  have tokens := Json.read_eq_some_iff.1 (Json.read_layout inLayouts value)
  rw [read_eq_ok_iff, Text.symbolsOfBytes_toUTF8, tokens]
  exact ⟨value, [], (List.append_nil _).symm, asks⟩

end Body
end Service
end FaultFinder
