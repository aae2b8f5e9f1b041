import FaultFinder.Proofs.Json.Reader
import FaultFinder.Proofs.Json.Tokens

/-!
# Reading written values back

The text of a value spells its tokens, with any spacing.  So every value is
read back from its text, whether it is written compactly or with one item or
member a line.
-/

namespace FaultFinder
namespace Json

open Text (Symbol)

/-- A text has the given tokens, whatever follows that is no part of a numeral. -/
def Spells (text : List Char) (spelled : List Token) : Prop :=
  ∀ rest, EndsNumeral rest → tokens (text.map some ++ rest) = spelled ++ tokens rest

theorem isSpace_of_mem_lineBreak
    {spacing : Spacing}
    {character : Char}
    (member : character ∈ spacing.lineBreak) :
    isSpace character = true := by
  cases spacing with
  | compact => cases member
  | indented depth =>
      rcases List.mem_cons.1 member with rfl | blank
      · rfl
      · rw [List.eq_of_mem_replicate blank]
        rfl

theorem tokens_lineBreak
    (spacing : Spacing)
    (rest : List Symbol) :
    tokens (spacing.lineBreak.map some ++ rest) = tokens rest :=
  tokens_spaces (fun _ member => isSpace_of_mem_lineBreak member) rest

theorem tokens_comma (rest : List Symbol) :
    tokens (some ',' :: rest) = .comma :: tokens rest :=
  tokens_mark rfl rfl rest

theorem tokens_colon
    (spacing : Spacing)
    (rest : List Symbol) :
    tokens (spacing.colon.map some ++ rest) = .colon :: tokens rest := by
  cases spacing with
  | compact => exact tokens_mark rfl rfl rest
  | indented depth =>
      have space : tokens (some ' ' :: rest) = tokens rest := tokens_space rfl rest
      rw [← space]
      exact tokens_mark rfl rfl (some ' ' :: rest)

/-- The texts of the elements after the first one, up to the closing bracket. -/
def continuation (spacing : Spacing) (closing : Char) (texts : List (List Char)) : List Char :=
  texts.flatMap (',' :: spacing.inner.lineBreak ++ ·) ++ (spacing.lineBreak ++ [closing])

theorem continuation_cons
    (spacing : Spacing)
    (closing : Char)
    (text : List Char)
    (texts : List (List Char)) :
    continuation spacing closing (text :: texts) =
      ',' :: (spacing.inner.lineBreak ++ (text ++ continuation spacing closing texts)) := by
  simp only [continuation, List.flatMap_cons, List.append_assoc, List.cons_append]

theorem bracketed_cons
    (spacing : Spacing)
    (opening closing : Char)
    (text : List Char)
    (texts : List (List Char)) :
    bracketed spacing opening closing (text :: texts) =
      opening :: (spacing.inner.lineBreak ++ (text ++ continuation spacing closing texts)) := by
  simp only [bracketed, continuation, List.isEmpty_cons, Bool.false_eq_true, if_false,
    flatten_intersperse_cons, List.append_assoc, List.cons_append]

section Brackets

variable
    {α : Type}
    {writeElement : α → List Char}
    {elementTokens : α → List Token}
    {elements : List α}
    {closing : Char}
    {closingToken : Token}
    (spells : ∀ element ∈ elements, Spells (writeElement element) (elementTokens element))
    (dark : isSpace closing = false)
    (closes : Token.ofMark? closing = some closingToken)
    (ends : continuesNumeral closing = false)

include ends

theorem endsNumeral_continuation
    (spacing : Spacing)
    (texts : List (List Char))
    (rest : List Symbol) :
    EndsNumeral ((continuation spacing closing texts).map some ++ rest) := by
  cases texts with
  | nil =>
      cases spacing with
      | compact => exact ends
      | indented depth => rfl
  | cons text texts => rfl

include spells dark closes

theorem tokens_continuation
    (spacing : Spacing)
    (rest : List Symbol) :
    tokens ((continuation spacing closing (elements.map writeElement)).map some ++ rest) =
      (elements.map elementTokens).flatMap ([.comma] ++ ·) ++ closingToken :: tokens rest := by
  induction elements with
  | nil =>
      rw [List.map_nil, continuation, List.flatMap_nil, List.nil_append, List.map_append,
        List.append_assoc, tokens_lineBreak]
      exact tokens_mark dark closes rest
  | cons element elements inductionHypothesis =>
      have spelled := spells element List.mem_cons_self
      have following := inductionHypothesis fun element member =>
        spells element (List.mem_cons_of_mem _ member)
      simp only [List.map_cons, continuation_cons, List.map_append, List.cons_append,
        List.append_assoc]
      rw [tokens_comma, tokens_lineBreak, spelled _ (endsNumeral_continuation ends _ _ _),
        following]
      simp only [List.flatMap_cons, List.append_assoc, List.cons_append, List.nil_append]

/-- Brackets spell the tokens of their elements with commas between them. -/
theorem spells_bracketed
    {opening : Char}
    {openingToken : Token}
    (openingDark : isSpace opening = false)
    (opens : Token.ofMark? opening = some openingToken)
    (spacing : Spacing) :
    Spells (bracketed spacing opening closing (elements.map writeElement))
      (bracketedTokens openingToken closingToken (elements.map elementTokens)) := by
  intro rest _
  cases elements with
  | nil =>
      have closed := tokens_mark dark closes rest
      have opened := tokens_mark openingDark opens (some closing :: rest)
      rw [closed] at opened
      exact opened
  | cons element elements =>
      have spelled := spells element List.mem_cons_self
      have following := tokens_continuation (fun element member =>
        spells element (List.mem_cons_of_mem _ member)) dark closes ends spacing rest
      simp only [List.map_cons, bracketed_cons, List.map_append, List.cons_append,
        List.append_assoc]
      rw [tokens_mark openingDark opens, tokens_lineBreak,
        spelled _ (endsNumeral_continuation ends _ _ _), following, bracketedTokens_cons_append]

end Brackets

theorem writeItems_eq_map
    (items : List Json)
    (spacing : Spacing) :
    writeItems items spacing = items.map (write · spacing) := by
  induction items with
  | nil => rfl
  | cons item items inductionHypothesis => rw [writeItems, inductionHypothesis, List.map_cons]

/-- A name, a colon and a value. -/
def writeMember (spacing : Spacing) (member : Option String × Json) : List Char :=
  quoted member.1 ++ spacing.colon ++ write member.2 spacing

theorem writeMembers_eq_map
    (members : List (Option String × Json))
    (spacing : Spacing) :
    writeMembers members spacing = members.map (writeMember spacing) := by
  induction members with
  | nil => rfl
  | cons member members inductionHypothesis =>
      rw [writeMembers, inductionHypothesis, List.map_cons, writeMember]

theorem itemTokens_eq_map (items : List Json) : itemTokens items = items.map toTokens := by
  induction items with
  | nil => rfl
  | cons item items inductionHypothesis => rw [itemTokens, inductionHypothesis, List.map_cons]

theorem memberTokens_eq_map (members : List (Option String × Json)) :
    memberTokens members =
      members.map fun member => .text member.1 :: .colon :: toTokens member.2 := by
  induction members with
  | nil => rfl
  | cons member members inductionHypothesis =>
      rw [memberTokens, inductionHypothesis, List.map_cons]

theorem spells_word
    {first : Char}
    {letters : List Char}
    {token : Token}
    (dark : isSpace first = false)
    (noMark : Token.ofMark? first = none)
    (scanned : ∀ rest, scanLong first (letters.map some ++ rest) = some (token, rest)) :
    Spells (first :: letters) [token] :=
  fun rest _ => tokens_long dark noMark (scanned rest)

theorem spells_member
    {spacing : Spacing}
    {member : Option String × Json}
    (spells : Spells (write member.2 spacing) (toTokens member.2)) :
    Spells (writeMember spacing member) (.text member.1 :: .colon :: toTokens member.2) := by
  intro rest ends
  rw [writeMember, List.map_append, List.map_append, List.append_assoc, List.append_assoc,
    tokens_quoted, tokens_colon, spells rest ends]
  rfl

/-- The text of a value spells its tokens. -/
theorem spells_write
    (value : Json)
    (spacing : Spacing) :
    Spells (write value spacing) (toTokens value) := by
  induction value generalizing spacing with
  | null => exact spells_word rfl rfl fun _ => rfl
  | bool value =>
      cases value with
      | false =>
          exact spells_word rfl rfl fun _ => rfl
      | true =>
          exact spells_word rfl rfl fun _ => rfl
  | number numeral =>
      intro rest ends
      exact tokens_numeral numeral ends
  | text content =>
      intro rest _
      exact tokens_quoted content rest
  | array items inductionHypothesis =>
      rw [write, toTokens, writeItems_eq_map, itemTokens_eq_map]
      exact spells_bracketed (fun item member => inductionHypothesis item member spacing.inner)
        rfl rfl rfl rfl rfl spacing
  | object members inductionHypothesis =>
      rw [write, toTokens, writeMembers_eq_map, memberTokens_eq_map]
      exact spells_bracketed
        (fun member present => spells_member (inductionHypothesis member present spacing.inner))
        rfl rfl rfl rfl rfl spacing

/-- Every value is read back from its text, with any spacing. -/
theorem read_write
    (value : Json)
    (spacing : Spacing) :
    read ((write value spacing).map some) = some value := by
  have spelled := spells_write value spacing [] trivial
  have ended : tokens [] = [] := by rw [tokens]
  rw [List.append_nil, ended, List.append_nil] at spelled
  rw [read, spelled, readValue_toTokens]

/-- The two layouts in which values are written. -/
def layouts : List (Json → String) :=
  [compact, indented]

theorem read_layout
    {layout : Json → String}
    (member : layout ∈ layouts)
    (value : Json) :
    read (Text.symbols (layout value)) = some value := by
  simp only [layouts, List.mem_cons, List.not_mem_nil, or_false] at member
  rcases member with rfl | rfl
  · rw [Text.symbols, compact, String.toList_ofList]
    exact read_write value .compact
  · rw [Text.symbols, indented, String.toList_ofList]
    exact read_write value (.indented 0)

end Json
end FaultFinder
