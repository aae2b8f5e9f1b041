import FaultFinder.Json.Tokens

/-!
# Reading JSON values

The tokens of a value are read from left to right by a machine with a stack.
The stack holds the arrays and objects that are open, the innermost first, so
values may be nested to any depth.  A text is a value when its tokens are
those of one value and nothing else.
-/

namespace FaultFinder
namespace Json

open Text (Symbol)

/-- An open array or object; what it holds so far is listed last first. -/
inductive Frame where
  /-- An array whose next item is being read. -/
  | array (items : List Json)
  /-- An object whose member with the given name is being read. -/
  | object (members : List (Option String × Json)) (name : Option String)

/-- The state of the reading machine: what may come next, and what is open. -/
inductive Reading where
  /-- A value must come next. -/
  | atValue (stack : List Frame)
  /-- An array has been opened: its first item or its end must come next. -/
  | inArray (stack : List Frame)
  /-- An object has been opened: its first name or its end must come next. -/
  | inObject (stack : List Frame)
  /-- A member has ended with a comma: a name must come next. -/
  | atName (members : List (Option String × Json)) (stack : List Frame)
  /-- A name has been read: a colon must come next. -/
  | atColon (members : List (Option String × Json)) (name : Option String) (stack : List Frame)
  /-- A value has been read. -/
  | complete (value : Json) (stack : List Frame)

namespace Reading

/-- The state after the first token of a value. -/
def startValue (stack : List Frame) : Token → Option Reading
  | .openArray => some (.inArray stack)
  | .openObject => some (.inObject stack)
  | .null => some (.complete .null stack)
  | .bool value => some (.complete (.bool value) stack)
  | .number numeral => some (.complete (.number numeral) stack)
  | .text content => some (.complete (.text content) stack)
  | _ => none

/-- The state after the token that follows a value. -/
def afterValue (value : Json) : List Frame → Token → Option Reading
  | .array items :: stack, .comma => some (.atValue (.array (value :: items) :: stack))
  | .array items :: stack, .closeArray =>
    some (.complete (.array (value :: items).reverse) stack)
  | .object members name :: stack, .comma => some (.atName ((name, value) :: members) stack)
  | .object members name :: stack, .closeObject =>
    some (.complete (.object ((name, value) :: members).reverse) stack)
  | _, _ => none

/-- The state after one more token, if it may come next. -/
def step : Reading → Token → Option Reading
  | .atValue stack, token => startValue stack token
  | .inArray stack, .closeArray => some (.complete (.array []) stack)
  | .inArray stack, token => startValue (.array [] :: stack) token
  | .inObject stack, .closeObject => some (.complete (.object []) stack)
  | .inObject stack, .text name => some (.atColon [] name stack)
  | .inObject _, _ => none
  | .atName members stack, .text name => some (.atColon members name stack)
  | .atName _ _, _ => none
  | .atColon members name stack, .colon => some (.atValue (.object members name :: stack))
  | .atColon _ _ _, _ => none
  | .complete value stack, token => afterValue value stack token

/-- Go on until the outermost value is complete; give it and the tokens that follow. -/
def run : Reading → List Token → Option (Json × List Token)
  | .complete value [], rest => some (value, rest)
  | _, [] => none
  | reading, token :: rest => do
    run (← reading.step token) rest

end Reading

/-- The value at the start of tokens, and the tokens that follow. -/
def readValue (tokens : List Token) : Option (Json × List Token) :=
  (Reading.atValue []).run tokens

theorem Reading.length_run
    {reading : Reading}
    {tokens rest : List Token}
    {value : Json}
    (ran : reading.run tokens = some (value, rest)) :
    rest.length ≤ tokens.length := by
  fun_induction Reading.run reading tokens with
  | case1 =>
    cases ran
    exact Nat.le_refl _
  | case2 => cases ran
  | case3 reading token remaining _ inductionHypothesis =>
    simp only [Option.bind_eq_bind, Option.bind_eq_some_iff] at ran
    obtain ⟨next, _, ran⟩ := ran
    have shorter := inductionHypothesis next ran
    simp only [List.length_cons]
    omega

theorem length_readValue
    {tokens rest : List Token}
    {value : Json}
    (scanned : readValue tokens = some (value, rest)) :
    rest.length ≤ tokens.length :=
  Reading.length_run scanned

/-- The value that a text spells. -/
def read (text : List Symbol) : Option Json :=
  match readValue (tokens text) with
  | some (value, []) => some value
  | _ => none

end Json
end FaultFinder
