import FaultFinder.Proofs.Json.Record
import FaultFinder.Proofs.Json.Writer
import FaultFinder.Proofs.Text.Utf8

/-!
# Formats

A format writes some elements of a type as values and reads them back; what it
reads can be written.  Then the texts of these values, and their bytes, are read
back as well, in each layout, and writing what was read is final: reading and
writing it once more changes nothing.  A format of elements gives one of lists.
-/

namespace FaultFinder
namespace Json

open Text (Symbol)

/-- Writing elements of a type as values, and reading them. -/
structure Format (α : Type) where
  /-- The value of an element. -/
  toJson : α → Json
  /-- The element that a value is. -/
  ofJson? : Json → Option α
  /-- The element is one that can be read. -/
  IsWritable : α → Prop
  /-- An element is read back from its value. -/
  ofJson?_toJson : ∀ {element}, IsWritable element → ofJson? (toJson element) = some element
  /-- An element that was read can be written. -/
  isWritable_of_ofJson? : ∀ {value element}, ofJson? value = some element → IsWritable element

namespace Format

variable
    {α : Type}
    (format : Format α)

/-- The format of lists of elements. -/
def list : Format (List α) :=
  { toJson := ofList format.toJson
    ofJson? := list? format.ofJson?
    IsWritable := fun elements => ∀ element ∈ elements, format.IsWritable element
    ofJson?_toJson := by
      intro elements writable
      apply list?_ofList
      intro element member
      exact format.ofJson?_toJson (writable element member)
    isWritable_of_ofJson? := by
      intro value elements isRead element member
      obtain ⟨item, readItem⟩ := exists_of_mem_list? isRead member
      exact format.isWritable_of_ofJson? readItem }

/-- The element that a text spells. -/
def read (text : List Symbol) : Option α :=
  (Json.read text).bind format.ofJson?

/-- Read an element and write it in a layout. -/
def rewrite? (layout : Json → String) (text : List Symbol) : Option String :=
  (format.read text).map fun element => layout (format.toJson element)

theorem isWritable_of_read
    {text : List Symbol}
    {element : α}
    (isRead : format.read text = some element) :
    format.IsWritable element := by
  obtain ⟨value, _, readValue⟩ := Option.bind_eq_some_iff.1 isRead
  exact format.isWritable_of_ofJson? readValue

section Layout

variable
    {layout : Json → String}
    (inLayouts : layout ∈ layouts)

include inLayouts

/-- An element is read back from its text. -/
theorem read_symbols
    {element : α}
    (writable : format.IsWritable element) :
    format.read (Text.symbols (layout (format.toJson element))) = some element := by
  rw [read, read_layout inLayouts, Option.bind_some, format.ofJson?_toJson writable]

/-- An element is read back from the bytes of its text. -/
theorem read_symbolsOfBytes
    {element : α}
    (writable : format.IsWritable element) :
    format.read (Text.symbolsOfBytes (layout (format.toJson element)).toUTF8) = some element := by
  rw [Text.symbolsOfBytes_toUTF8]
  exact format.read_symbols inLayouts writable

/-- Writing an element that was read, in whatever layout, does not change how it is rewritten. -/
theorem rewrite?_bind
    (next : Json → String)
    (text : List Symbol) :
    ((format.rewrite? layout text).bind fun written =>
        format.rewrite? next (Text.symbols written)) =
      format.rewrite? next text := by
  cases isRead : format.read text with
  | none => simp only [rewrite?, isRead, Option.map_none, Option.bind_none]
  | some element =>
      have again := format.read_symbols inLayouts (format.isWritable_of_read isRead)
      simp only [rewrite?, isRead, again, Option.map_some, Option.bind_some]

end Layout

end Format
end Json
end FaultFinder
