import FaultFinder.Proofs.Json.Writer

/-!
# Only the tokens of a value are read

In each of its states the reading machine has gone over certain tokens: those of
the brackets that are open, of the items and members before the current one,
and of the value that has just been read.  A step adds its token to them.  So a
value is read at the start of tokens exactly when they start with the tokens of
this value.
-/

namespace FaultFinder
namespace Json

/-- A name, a colon and a value. -/
def nameTokens (member : Option String × Json) : List Token :=
  .text member.1 :: .colon :: toTokens member.2

/-- Parts with a comma after each of them, the last one first. -/
def separatedTokens (parts : List (List Token)) : List Token :=
  parts.reverse.flatMap (· ++ [.comma])

theorem separatedTokens_cons (part : List Token) (parts : List (List Token)) :
    separatedTokens (part :: parts) = separatedTokens parts ++ part ++ [.comma] := by
  rw [separatedTokens, List.reverse_cons, List.flatMap_append, List.flatMap_singleton,
    List.append_assoc, separatedTokens]

theorem bracketedTokens_reverse_cons
    (opening closing : Token)
    (last : List Token)
    (parts : List (List Token)) :
    bracketedTokens opening closing (last :: parts).reverse =
      opening :: separatedTokens parts ++ last ++ [closing] := by
  have flattened :
      ((last :: parts).reverse.intersperse [.comma]).flatten =
        separatedTokens parts ++ last := by
    rw [List.reverse_cons, separatedTokens]
    induction parts.reverse with
    | nil => simp
    | cons first others inductionHypothesis =>
        cases others with
        | nil => simp
        | cons second others =>
            rw [List.cons_append, List.cons_append, List.intersperse_cons_cons,
              List.flatten_cons, List.flatten_cons, ← List.cons_append, inductionHypothesis]
            simp only [List.flatMap_cons, List.append_assoc]
  rw [bracketedTokens, flattened]
  rfl

/-- The tokens of an open array or object, up to its next value. -/
def Frame.tokens : Frame → List Token
  | .array items => .openArray :: separatedTokens (items.map toTokens)
  | .object members name =>
      .openObject :: separatedTokens (members.map nameTokens) ++ [.text name, .colon]

/-- The tokens of the arrays and objects that are open, up to the next value. -/
def stackTokens (stack : List Frame) : List Token :=
  stack.reverse.flatMap Frame.tokens

theorem stackTokens_cons (frame : Frame) (stack : List Frame) :
    stackTokens (frame :: stack) = stackTokens stack ++ frame.tokens := by
  rw [stackTokens, List.reverse_cons, List.flatMap_append, List.flatMap_singleton, stackTokens]

theorem toTokens_reverse_items (value : Json) (items : List Json) :
    toTokens (.array (value :: items).reverse) =
      .openArray :: separatedTokens (items.map toTokens) ++ toTokens value ++ [.closeArray] := by
  rw [toTokens, itemTokens_eq_map, List.map_reverse, List.map_cons, bracketedTokens_reverse_cons]

theorem toTokens_reverse_members
    (member : Option String × Json)
    (members : List (Option String × Json)) :
    toTokens (.object (member :: members).reverse) =
      .openObject :: separatedTokens (members.map nameTokens) ++ nameTokens member ++
        [.closeObject] := by
  have isMap :
      memberTokens (member :: members).reverse = (member :: members).reverse.map nameTokens :=
    memberTokens_eq_map _
  rw [toTokens, isMap, List.map_reverse, List.map_cons, bracketedTokens_reverse_cons]

namespace Reading

/-- The tokens that the machine has gone over when it is in a state. -/
def past : Reading → List Token
  | .atValue stack => stackTokens stack
  | .inArray stack => stackTokens stack ++ [.openArray]
  | .inObject stack => stackTokens stack ++ [.openObject]
  | .atName members stack =>
      stackTokens stack ++ .openObject :: separatedTokens (members.map nameTokens)
  | .atColon members name stack =>
      stackTokens stack ++ .openObject :: separatedTokens (members.map nameTokens) ++ [.text name]
  | .complete value stack => stackTokens stack ++ toTokens value

variable
    {reading next : Reading}
    {token : Token}

theorem past_startValue
    {stack : List Frame}
    (started : startValue stack token = some next) :
    next.past = stackTokens stack ++ [token] := by
  cases token <;> cases started <;> rfl

theorem past_afterValue
    {value : Json}
    {stack : List Frame}
    (followed : afterValue value stack token = some next) :
    next.past = stackTokens stack ++ toTokens value ++ [token] := by
  unfold afterValue at followed
  split at followed
  · cases followed
    simp only [past, stackTokens_cons, Frame.tokens, List.map_cons, separatedTokens_cons,
      List.append_assoc, List.cons_append]
  · cases followed
    simp only [past, stackTokens_cons, Frame.tokens, toTokens_reverse_items, List.append_assoc,
      List.cons_append]
  · cases followed
    simp only [past, stackTokens_cons, Frame.tokens, List.map_cons, separatedTokens_cons,
      nameTokens, List.append_assoc, List.cons_append, List.nil_append]
  · cases followed
    simp only [past, stackTokens_cons, Frame.tokens, toTokens_reverse_members, nameTokens,
      List.append_assoc, List.cons_append, List.nil_append]
  · cases followed

/-- A step goes over one more token. -/
theorem past_step
    (stepped : reading.step token = some next) :
    next.past = reading.past ++ [token] := by
  unfold step at stepped
  split at stepped
  · exact past_startValue stepped
  · cases stepped
    simp [past, toTokens, itemTokens, bracketedTokens]
  · rw [past_startValue stepped, stackTokens_cons]
    rfl
  · cases stepped
    simp [past, toTokens, memberTokens, bracketedTokens]
  · cases stepped
    simp [past, separatedTokens]
  · cases stepped
  · cases stepped
    rfl
  · cases stepped
  · cases stepped
    simp [past, stackTokens_cons, Frame.tokens]
  · cases stepped
  · exact past_afterValue stepped

/-- The tokens gone over are those of the value that is read in the end. -/
theorem past_run
    {tokens rest : List Token}
    {value : Json}
    (ran : reading.run tokens = some (value, rest)) :
    reading.past ++ tokens = toTokens value ++ rest := by
  fun_induction run reading tokens with
  | case1 =>
      cases ran
      rfl
  | case2 => cases ran
  | case3 reading token remaining _ inductionHypothesis =>
      simp only [Option.bind_eq_bind, Option.bind_eq_some_iff] at ran
      obtain ⟨next, stepped, ran⟩ := ran
      rw [← inductionHypothesis next ran, past_step stepped, List.append_assoc]
      rfl

end Reading

/-- A value is read at the start of its tokens, and nowhere else. -/
theorem readValue_eq_some_iff
    {tokens rest : List Token}
    {value : Json} :
    readValue tokens = some (value, rest) ↔ tokens = toTokens value ++ rest := by
  constructor
  · -- At its start a reading has gone over nothing, so the whole input lies ahead.
    exact Reading.past_run
  · rintro rfl
    have complete :
        (Reading.complete value []).run rest = some (value, rest) := by
      cases rest <;> rfl
    rw [readValue, Reading.reads_all, complete]

/-- A text spells a value exactly when it has the tokens of this value and no others. -/
theorem read_eq_some_iff
    {text : List Text.Symbol}
    {value : Json} :
    read text = some value ↔ tokens text = toTokens value := by
  constructor
  · intro isRead
    unfold read at isRead
    split at isRead
    · next spelled isValue =>
        cases isRead
        rw [readValue_eq_some_iff.1 isValue, List.append_nil]
    · cases isRead
  · intro same
    rw [read, same, readValue_toTokens]

end Json
end FaultFinder
