import FaultFinder.Json.Reader
import FaultFinder.Json.Scalar

/-!
# Bodies that ask for a diagnosis

The body is an object with a list of symptoms under the name `symptoms`, or an
array with nothing but that list.  A missing list is empty, other members are
skipped, and whatever follows the value is not looked at.

The body is read from left to right, and the first fault ends the reading.
A fault is either one of JSON itself, or a value of another shape than expected.
-/

namespace FaultFinder
namespace Service

open Json (Token)

/-- Why a body cannot be used. -/
inductive BodyFault where
  /-- The text is not JSON. -/
  | malformed
  /-- The value does not have the shape of a request. -/
  | misshapen
  deriving DecidableEq

namespace Body

/-- The fault at a place where a value of another kind is expected. -/
def mismatch : List Token → BodyFault
  | .null :: _ => .misshapen
  | .bool _ :: _ => .misshapen
  | .openArray :: _ => .misshapen
  | .openObject :: _ => .misshapen
  | .text (some _) :: _ => .misshapen
  | .number numeral :: _ =>
    match numeral.toBinary64 with
    | .infinity _ => .malformed
    | _ => .misshapen
  | _ => .malformed

/-- The further symptoms of a list, after one of them. -/
def readMore : List Token → Except BodyFault (List String × List Token)
  | .closeArray :: rest => .ok ([], rest)
  | .comma :: .text (some symptom) :: rest => do
    let (symptoms, rest) ← readMore rest
    return (symptom :: symptoms, rest)
  | .comma :: rest => .error (mismatch rest)
  | _ => .error .malformed

/-- A list of symptoms. -/
def readSymptoms : List Token → Except BodyFault (List String × List Token)
  | .openArray :: .closeArray :: rest => .ok ([], rest)
  | .openArray :: .text (some symptom) :: rest => do
    let (symptoms, rest) ← readMore rest
    return (symptom :: symptoms, rest)
  | .openArray :: rest => .error (mismatch rest)
  | tokens => .error (mismatch tokens)

/-- The symptoms after a member has been read, given those that were found before it. -/
def readMember
    (found : Option (List String)) :
    List Token → Except BodyFault (Option (List String) × List Token)
  | .text (some name) :: rest =>
    if name = "symptoms" then
      if found.isSome then .error .misshapen
      else
        match rest with
        | .colon :: rest => do
          let (symptoms, rest) ← readSymptoms rest
          return (some symptoms, rest)
        | _ => .error .malformed
    else
      match rest with
      | .colon :: rest =>
        match Json.readValue rest with
        | some (_, rest) => .ok (found, rest)
        | none => .error .malformed
      | _ => .error .malformed
  | _ => .error .malformed

theorem length_readMore
    {tokens rest : List Token}
    {symptoms : List String}
    (scanned : readMore tokens = .ok (symptoms, rest)) :
    rest.length < tokens.length := by
  fun_induction readMore tokens generalizing symptoms rest with
  | case1 =>
    cases scanned
    simp
  | case2 symptom remaining inductionHypothesis =>
    cases more : readMore remaining with
    | error fault =>
      rw [more] at scanned
      cases scanned
    | ok found =>
      rw [more] at scanned
      cases scanned
      have shorter := inductionHypothesis more
      simp only [List.length_cons]
      omega
  | case3 => cases scanned
  | case4 => cases scanned

theorem length_readSymptoms
    {tokens rest : List Token}
    {symptoms : List String}
    (scanned : readSymptoms tokens = .ok (symptoms, rest)) :
    rest.length < tokens.length := by
  unfold readSymptoms at scanned
  split at scanned
  · cases scanned
    simp only [List.length_cons]
    omega
  · next remaining =>
    cases more : readMore remaining with
    | error fault =>
      rw [more] at scanned
      cases scanned
    | ok found =>
      rw [more] at scanned
      cases scanned
      have shorter := length_readMore more
      simp only [List.length_cons]
      omega
  · cases scanned
  · cases scanned

theorem length_readMember
    {found : Option (List String)}
    {tokens rest : List Token}
    {symptoms : Option (List String)}
    (scanned : readMember found tokens = .ok (symptoms, rest)) :
    rest.length < tokens.length := by
  unfold readMember at scanned
  split at scanned
  · split at scanned
    · split at scanned
      · cases scanned
      · split at scanned
        · next remaining =>
          cases list : readSymptoms remaining with
          | error fault =>
            rw [list] at scanned
            cases scanned
          | ok found =>
            rw [list] at scanned
            cases scanned
            have shorter := length_readSymptoms list
            simp only [List.length_cons]
            omega
        · cases scanned
    · split at scanned
      · split at scanned
        · next skipped =>
          cases scanned
          have shorter := Json.length_readValue skipped
          simp only [List.length_cons]
          omega
        · cases scanned
      · cases scanned
  · cases scanned

/-- The symptoms of an object, from one of its members on. -/
def readMembers (found : Option (List String)) (tokens : List Token) :
    Except BodyFault (List String) :=
  match _scanned : readMember found tokens with
  | .error fault => .error fault
  | .ok (found, .closeObject :: _) => .ok (found.getD [])
  | .ok (found, .comma :: rest) => readMembers found rest
  | .ok _ => .error .malformed
termination_by tokens.length
decreasing_by
  have shorter := length_readMember _scanned
  simp only [List.length_cons] at shorter
  omega

/-- The symptoms of a request. -/
def readRequest : List Token → Except BodyFault (List String)
  | .openObject :: .closeObject :: _ => .ok []
  | .openObject :: rest => readMembers none rest
  | .openArray :: .closeArray :: _ => .ok []
  | .openArray :: rest => do
    match ← readSymptoms rest with
    | (symptoms, .closeArray :: _) => return symptoms
    | _ => .error .malformed
  | tokens => .error (mismatch tokens)

/-- The symptoms that a body asks about. -/
def read (body : ByteArray) : Except BodyFault (List String) :=
  readRequest (Json.tokens (Text.symbolsOfBytes body))

end Body
end Service
end FaultFinder
