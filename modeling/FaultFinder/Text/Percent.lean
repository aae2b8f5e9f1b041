import FaultFinder.Text.Digits
import FaultFinder.Text.Utf8

/-!
# Percent encoding

A percent sign and two hexadecimal digits stand for one byte; every other byte
stands for itself.
-/

namespace FaultFinder
namespace Text

/-- The byte that two hexadecimal digits stand for. -/
def hexByte? (high low : UInt8) : Option UInt8 := do
  let high ← hexDigit? (Char.ofNat high.toNat)
  let low ← hexDigit? (Char.ofNat low.toNat)
  return .ofNat (16 * high.val + low.val)

/-- The bytes that percent-encoded bytes stand for. -/
def percentDecode : List UInt8 → List UInt8
  | [] => []
  | first :: high :: low :: rest =>
    match if first = 37 then hexByte? high low else none with
    | some byte => byte :: percentDecode rest
    | none => first :: percentDecode (high :: low :: rest)
  | first :: rest => first :: percentDecode rest

/-- The symbols that a percent-encoded text stands for. -/
def percentSymbols (text : List Char) : List Symbol :=
  symbolsOfBytes ⟨(percentDecode (String.ofList text).toUTF8.toList).toArray⟩

end Text
end FaultFinder
