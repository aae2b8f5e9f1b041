import FaultFinder.History
import FaultFinder.Json.Writer

/-!
# Replies

A reply has a status and a body.  Requests that name nothing or cannot be read
are refused with a bare status; other errors have a body with their message.
-/

namespace FaultFinder
namespace Service

/-- What comes with the status of a reply. -/
inductive ReplyBody where
  /-- Nothing that is specified. -/
  | bare
  /-- A JSON value. -/
  | json (value : Json)
  /-- A plain text. -/
  | text (content : String)

/-- The answer to a request. -/
structure Reply where
  /-- The status code. -/
  status : Nat
  /-- The body. -/
  body : ReplyBody

/-- Why a request that can be read is not fulfilled. -/
inductive RequestError where
  /-- The request asks for something impossible. -/
  | badRequest (detail : String)
  /-- The request asks for something that does not exist. -/
  | notFound (detail : String)
  /-- The history fails. -/
  | storage (error : StorageError)
  /-- The service fails. -/
  | internal (detail : String)
  deriving DecidableEq

namespace RequestError

/-- The message about a request that is not fulfilled. -/
def message : RequestError → String
  | .badRequest detail => detail
  | .notFound detail => detail
  | .storage error => s!"Storage error: {error.message}"
  | .internal detail => s!"Internal error: {detail}"

/-- The status code of an error. -/
def status : RequestError → Nat
  | .badRequest _ => 400
  | .notFound _ => 404
  | .storage _ => 500
  | .internal _ => 500

end RequestError

namespace Reply

/-- A refusal without a message. -/
def refusal (status : Nat) : Reply :=
  ⟨status, .bare⟩

/-- A success with a value. -/
def ok (value : Json) : Reply :=
  ⟨200, .json value⟩

/-- The reply about an error. -/
def ofError (error : RequestError) : Reply :=
  ⟨error.status, .json (.ofMembers [("error", .ofString error.message)])⟩

/-- The reply with the same status and no body. -/
def withoutBody (reply : Reply) : Reply :=
  ⟨reply.status, .bare⟩

end Reply
end Service
end FaultFinder
