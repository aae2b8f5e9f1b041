import FaultFinder.Text.Number
import FaultFinder.Text.Percent

/-!
# Queries

A query is a sequence of parameters that are separated by ampersands.  Names
and values are percent-encoded, with plus signs for spaces.
-/

namespace FaultFinder
namespace Service

/-- The text that a name or value of a query stands for. -/
def parameterText (text : List Char) : List Char :=
  (Text.percentSymbols (text.map fun character => if character = '+' then ' ' else character)).map
    (·.getD '\ufffd')

/-- The name and the value of a parameter. -/
def parameter (text : List Char) : List Char × List Char :=
  (parameterText (text.takeWhile (· ≠ '=')),
    parameterText ((text.dropWhile (· ≠ '=')).drop 1))

/-- The parameters of a query. -/
def parameters (query : List Char) : List (List Char × List Char) :=
  ((query.splitOnP (· = '&')).filter (· ≠ [])).map parameter

/-- Why a query has no limit that can be used. -/
inductive QueryFault where
  /-- The limit is given more than once. -/
  | repeatedLimit
  /-- The limit is not a count. -/
  | badLimit

/-- The limit that a query sets, if it sets one. -/
def limit? (query : List Char) : Except QueryFault (Option Nat) :=
  match (parameters query).filter fun named => named.1 = "limit".toList with
  | [] => .ok none
  | [(_, value)] =>
    match Text.readCount value with
    | some count => .ok (some count)
    | none => .error .badLimit
  | _ => .error .repeatedLimit

end Service
end FaultFinder
