/-!
# Requests

A request asks for a method on a target.  The target is a path, which may be
followed by a query after a question mark and by a fragment after a number
sign; the fragment has no meaning here.
-/

namespace FaultFinder
namespace Service

/-- What a request wants to do. -/
inductive Method where
  /-- Read. -/
  | get
  /-- Read, but leave out the body of the reply. -/
  | head
  /-- Submit. -/
  | post
  /-- Remove. -/
  | delete
  /-- Anything else. -/
  | other (name : String)
  deriving DecidableEq

/-- The method with a name. -/
def Method.ofName (name : String) : Method :=
  if name = "GET" then .get
  else if name = "HEAD" then .head
  else if name = "POST" then .post
  else if name = "DELETE" then .delete
  else .other name

/-- A request. -/
structure Request where
  /-- What to do. -/
  method : Method
  /-- The path, query and fragment. -/
  target : String
  /-- The media type of the body, if one is given. -/
  contentType : Option String
  /-- The body. -/
  body : ByteArray

namespace Request

/-- The greatest size of a body in bytes. -/
def greatestBodySize : Nat := 2097152

/-- Whether the body is too great to be looked at. -/
def isTooLarge (request : Request) : Bool :=
  greatestBodySize < request.body.size

/-- The target without its fragment. -/
def address (request : Request) : List Char :=
  request.target.toList.takeWhile (· ≠ '#')

/-- The path. -/
def path (request : Request) : List Char :=
  request.address.takeWhile (· ≠ '?')

/-- The query; an empty one if there is none. -/
def query (request : Request) : List Char :=
  (request.address.dropWhile (· ≠ '?')).drop 1

end Request
end Service
end FaultFinder
