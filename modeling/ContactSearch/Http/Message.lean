import ContactSearch.Http.Target
import ContactSearch.Json.Writing
import ContactSearch.Text.Utf8

namespace ContactSearch
namespace Http

/-!
# Requests and responses

Names of headers are compared without regard to case, methods are not.  A
request may carry several headers of one name; where one is expected, the
first counts.
-/

/-- The methods that make a difference here; every other one is kept as it is. -/
inductive Method where
  | get
  | head
  | options
  | other (token : String)
  deriving DecidableEq

namespace Method

/-- The method that a token names. -/
def ofText (token : String) : Method :=
  if token = "GET" then .get
  else if token = "HEAD" then .head
  else if token = "OPTIONS" then .options
  else .other token

/-- The token of a method. -/
def text : Method -> String
  | .get => "GET"
  | .head => "HEAD"
  | .options => "OPTIONS"
  | .other token => token

theorem text_ofText (token : String) : (ofText token).text = token := by
  unfold ofText
  split
  · next same => exact same.symm
  · split
    · next same => exact same.symm
    · split
      · next same => exact same.symm
      · rfl

/-- Whether a method only asks to be shown something. -/
def isReading : Method -> Bool
  | .get => true
  | .head => true
  | _ => false

end Method

/-- The outcomes of a request. -/
inductive Status where
  | ok
  | noContent
  | badRequest
  | unauthorized
  | notFound
  | methodNotAllowed
  | internalError
  deriving DecidableEq

namespace Status

/-- The number of a status. -/
def code : Status -> Nat
  | .ok => 200
  | .noContent => 204
  | .badRequest => 400
  | .unauthorized => 401
  | .notFound => 404
  | .methodNotAllowed => 405
  | .internalError => 500

/-- The phrase of a status. -/
def reason : Status -> String
  | .ok => "OK"
  | .noContent => "No Content"
  | .badRequest => "Bad Request"
  | .unauthorized => "Unauthorized"
  | .notFound => "Not Found"
  | .methodNotAllowed => "Method Not Allowed"
  | .internalError => "Internal Server Error"

end Status

/-- Names and values in the order in which they are sent. -/
abbrev Headers := List (String × String)

/-- Whether two texts are the same apart from the case of ASCII letters. -/
def sameIgnoringCase (left right : String) : Bool :=
  left.toLower == right.toLower

/-- Whether a character is shown as one mark, or is a blank or a tabulator. -/
def isVisibleCharacter (c : Char) : Bool :=
  (0x20 ≤ c.toNat && c.toNat < 0x7F) || c == '\t'

/-- Whether a header value can be used as text. -/
def isVisible (value : String) : Bool :=
  value.toList.all isVisibleCharacter

/-- Whether a character may be sent in a header value: no control character, but any other. -/
def isSendableCharacter (c : Char) : Bool :=
  (0x20 ≤ c.toNat && c.toNat != 0x7F) || c == '\t'

/-- Whether a text may be sent as a header value. -/
def isSendable (value : String) : Bool :=
  value.toList.all isSendableCharacter

namespace Headers

/-- The first value of a name. -/
def first? (headers : Headers) (name : String) : Option String :=
  (headers.find? fun header => sameIgnoringCase header.1 name).map Prod.snd

/-- Whether a name occurs. -/
def contains (headers : Headers) (name : String) : Bool :=
  headers.any fun header => sameIgnoringCase header.1 name

/-- Replace all values of a name by one. -/
def set (headers : Headers) (name value : String) : Headers :=
  headers.filter (fun header => !sameIgnoringCase header.1 name) ++ [(name, value)]

/-- Add a value of a name to those that are there. -/
def add (headers : Headers) (name value : String) : Headers :=
  headers ++ [(name, value)]

end Headers

/-- A request; bodies are never looked at. -/
structure Request where
  method : Method
  target : Target
  headers : Headers

/-- The answer to a request. -/
structure Response where
  status : Status
  headers : Headers
  body : String

namespace Response

/-- A response without a body. -/
def empty (status : Status) : Response :=
  ⟨status, [], ""⟩

/-- A response with a body of a given kind. -/
def ofText (status : Status) (contentType body : String) : Response :=
  ⟨status, [("content-type", contentType)], body⟩

/-- A response with a value as its body. -/
def ofJson (status : Status) (value : Json) : Response :=
  ofText status "application/json" value.text

/-- A response that tells what is wrong. -/
def ofFault (status : Status) (message : String) : Response :=
  ofJson status (.object [("status", .integer status.code), ("error", .string status.reason),
    ("message", .string message)])

/-- Replace all values of a header by one. -/
def setHeader (response : Response) (name value : String) : Response :=
  { response with headers := response.headers.set name value }

/-- Add a value of a header to those that are there. -/
def addHeader (response : Response) (name value : String) : Response :=
  { response with headers := response.headers.add name value }

/-- How many bytes the body has. -/
def length (response : Response) : Nat :=
  response.body.utf8ByteSize

end Response
end Http
end ContactSearch
