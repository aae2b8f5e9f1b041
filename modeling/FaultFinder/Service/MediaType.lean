/-!
# Media types

A media type is a type and a subtype with a slash between them, and parameters
after semicolons.  A subtype may end in a suffix after a plus sign, which names
the format that it builds on.  Only the last plus sign counts, and one at the
start of the subtype does not.
-/

namespace FaultFinder
namespace Service

/-- Whether a character may stand in a token. -/
def isTokenChar (character : Char) : Bool :=
  character.isAlphanum || "!#$%&'*+-.^_\x60|~".toList.contains character

/-- Whether a character may stand between quotation marks. -/
def isQuotedChar (character : Char) : Bool :=
  ' ' ≤ character && character ≤ '~'

/-- A place in the parameters of a media type. -/
inductive ParameterPlace where
  /-- Before a name. -/
  | beforeName
  /-- In a name. -/
  | inName
  /-- Before a value. -/
  | beforeValue
  /-- In a value without quotation marks. -/
  | inValue
  /-- Before the first character between quotation marks. -/
  | quoteOpened
  /-- Between quotation marks. -/
  | inQuote
  /-- After the closing quotation mark. -/
  | quoteClosed

namespace ParameterPlace

/-- The place after one more character, if it may come next. -/
def step (place : ParameterPlace) (character : Char) : Option ParameterPlace :=
  match place with
  | .beforeName =>
    if character = ' ' then some .beforeName
    else if isTokenChar character then some .inName
    else none
  | .inName =>
    if character = '=' then some .beforeValue
    else if isTokenChar character then some .inName
    else none
  | .beforeValue =>
    if character = '"' then some .quoteOpened
    else if isTokenChar character then some .inValue
    else none
  | .inValue =>
    if character = ';' then some .beforeName
    else if isTokenChar character then some .inValue
    else none
  | .quoteOpened => if isQuotedChar character then some .inQuote else none
  | .inQuote =>
    if character = '"' then some .quoteClosed
    else if isQuotedChar character then some .inQuote
    else none
  | .quoteClosed =>
    if character = ';' then some .beforeName
    else if character = ' ' then some .quoteClosed
    else none

/-- Whether the parameters may end at a place. -/
def isEnd : ParameterPlace → Bool
  | .beforeName | .beforeValue | .inValue | .quoteClosed => true
  | .inName | .quoteOpened | .inQuote => false

end ParameterPlace

/-- Whether a text is a sequence of parameters. -/
def areParameters (text : List Char) : Bool :=
  (text.foldlM ParameterPlace.step .beforeName).any (·.isEnd)

/-- A type and subtype; the parameters have no influence here. -/
structure MediaType where
  /-- The type, in lower case. -/
  type : List Char
  /-- The subtype, in lower case. -/
  subtype : List Char

namespace MediaType

/-- The media type that a text spells. -/
def read (text : String) : Option MediaType :=
  let type := text.toList.takeWhile isTokenChar
  match text.toList.dropWhile isTokenChar with
  | '/' :: rest =>
    let subtype := rest.takeWhile isTokenChar
    let mediaType : MediaType := ⟨type.map Char.toLower, subtype.map Char.toLower⟩
    match rest.dropWhile isTokenChar with
    | [] => if type.isEmpty then none else some mediaType
    | ';' :: parameters =>
      if type.isEmpty || subtype.isEmpty || !areParameters parameters then none
      else some mediaType
    | _ => none
  | _ => none

/-- The subtype before its suffix, and the suffix. -/
def format (mediaType : MediaType) : List Char × Option (List Char) :=
  let suffix := (mediaType.subtype.reverse.takeWhile (· ≠ '+')).reverse
  let beginning := mediaType.subtype.take (mediaType.subtype.length - suffix.length - 1)
  if beginning.isEmpty then (mediaType.subtype, none) else (beginning, some suffix)

/-- Whether bodies of the type are JSON texts. -/
def isJson (mediaType : MediaType) : Bool :=
  let json := ['j', 's', 'o', 'n']
  mediaType.type = "application".toList &&
    (mediaType.format.1 = json || mediaType.format.2 = some json)

end MediaType
end Service
end FaultFinder
