import ContactSearch.Http.Message
import ContactSearch.Server.Config

namespace ContactSearch
namespace Server

/-!
# Headers of every response

A response passes through layers on its way out.  Each one adds headers of its
own and leaves the status and the body alone: protective headers, the number
of the request, what the response depends on, and the permission for pages of
other origins.

A request for permission alone never reaches the other layers.

Bodies are not compressed.  The encodings that a caller accepts are not read, so
every response is the one to a caller who accepts none: only that a body of
sufficient length depends on them is told.  What a caller who accepts one gets is
left out, that is a compressed body with its `content-encoding` and without a
`content-length`.
-/

namespace Layers

/-! ## Protective headers -/

/-- The headers that every answer to a request carries. -/
def protections : Http.Headers :=
  [("x-content-type-options", "nosniff"), ("x-frame-options", "DENY"),
    ("referrer-policy", "no-referrer"),
    ("content-security-policy", "default-src 'none'; frame-ancestors 'none'"),
    ("cache-control", "no-store")]

/-- Whether a request came over a protected connection, to the server or to one in front of it. -/
def isProtected (request : Http.Request) : Bool :=
  (match request.headers.first? "x-forwarded-proto" with
    | some value => Http.sameIgnoringCase value "https"
    | none => false) ||
  (match request.target.scheme with
    | some scheme => Http.sameIgnoringCase scheme "https"
    | none => false)

/-- Add the protective headers, and over a protected connection the order to stay with it. -/
def protect (request : Http.Request) (response : Http.Response) : Http.Response :=
  let guarded := protections.foldl
    (fun (response : Http.Response) header => response.setHeader header.1 header.2) response
  if isProtected request then
    guarded.setHeader "strict-transport-security" "max-age=31536000; includeSubDomains"
  else
    guarded

/-! ## The number of a request -/

/-- Add the number of the request, and return the one that the caller gave it. -/
def identify (identifier : String) (request : Http.Request) (response : Http.Response) :
    Http.Response :=
  let identified := response.setHeader "x-request-id" identifier
  match (request.headers.first? "x-request-id").filter Http.isVisible with
  | some given =>
      if given = identifier then identified else identified.setHeader "x-correlation-id" given
  | none => identified

/-! ## Compression -/

/-- Bodies below this many bytes are never compressed. -/
def compressionThreshold : Nat := 32

/--
Tell that a body of sufficient length could have been compressed.  This is told whatever the caller
accepts; the encoding itself is left out.
-/
def markCompressible (response : Http.Response) : Http.Response :=
  if compressionThreshold ≤ response.length then
    response.addHeader "vary" "accept-encoding"
  else
    response

/-! ## Other origins -/

/-- What a permission depends on. -/
def originDependence : String :=
  "origin, access-control-request-method, access-control-request-headers"

/-- The configured origins that can be sent. -/
def allowedOrigins (config : Config) : List String :=
  config.listener.origins.filter Http.isSendable

/-- The permission for the origin of a request, if it is an allowed one. -/
def originHeaders (config : Config) (request : Http.Request) : Http.Headers :=
  match request.headers.first? "origin" with
  | some origin =>
      if origin ∈ allowedOrigins config then [("access-control-allow-origin", origin)] else []
  | none => []

/-- Add the permission to a response. -/
def permit (config : Config) (request : Http.Request) (response : Http.Response) :
    Http.Response :=
  { response with
    headers := response.headers ++ [("vary", originDependence)] ++
      originHeaders config request }

/-- The permissions that do not depend on a request. -/
def generalPermissions (config : Config) : Http.Headers :=
  if allowedOrigins config = [] then []
  else [("access-control-allow-methods", "*"), ("access-control-allow-headers", "*")]

/-- The answer to a request for permission. -/
def permission (config : Config) (request : Http.Request) : Http.Response where
  status := .ok
  headers := [("vary", originDependence)] ++ originHeaders config request ++
    generalPermissions config
  body := ""

/-! ## Completion -/

/-- Tell the length of the body, unless it has been told. -/
def measure (response : Http.Response) : Http.Response :=
  if response.headers.contains "content-length" then response
  else response.addHeader "content-length" (Decimal.natText response.length)

/-- Tell the methods of a page to whoever used another one. -/
def tellMethods (method : Http.Method) (response : Http.Response) : Http.Response :=
  if method.isReading then response else response.addHeader "allow" "GET,HEAD"

/-- Complete a response; on a page, whoever asks for the head alone gets no body. -/
def complete (onPage : Bool) (method : Http.Method) (response : Http.Response) : Http.Response :=
  if onPage then
    let measured := measure (tellMethods method response)
    if method = .head then { measured with body := "" } else measured
  else
    measure response

end Layers
end Server
end ContactSearch
