import ContactSearch.Http.Message
import ContactSearch.Server.Config
import ContactSearch.Text.Base64

namespace ContactSearch
namespace Server

/-!
# Credentials

A caller names a user and the user's password in one header, encoded together.
The name ends at the first colon, so a password may hold colons and a name may
not.  Reading the header and checking the password are separate steps: only a
header that can be read is compared with the users.

A refused caller is told which credentials are asked for.
-/

/-- Why a header holds no credentials. -/
inductive HeaderFault where
  | notVisible
  | scheme
  | encoding (fault : Base64.Fault)
  | notText
  | noColon
  deriving DecidableEq

/-- Why a caller is refused. -/
inductive AccessFault where
  | missing
  | malformed (fault : HeaderFault)
  | rejected
  deriving DecidableEq

/-- The wording of a header without credentials. -/
def HeaderFault.message : HeaderFault -> String
  | .notVisible => "Authorization header is not valid UTF-8"
  | .scheme => "Authorization header must be 'Basic <credentials>'"
  | .encoding fault => "invalid base64: " ++ fault.message
  | .notText => "credentials are not valid UTF-8"
  | .noColon => "credentials must be 'name:password'"

/-- The wording of a refusal. -/
def AccessFault.message : AccessFault -> String
  | .missing => "Full authentication is required"
  | .malformed fault => "Malformed Authorization header: " ++ fault.message
  | .rejected => "Bad credentials"

namespace Credentials

/-- The ways to announce encoded credentials. -/
def announcements : List (List Char) :=
  ["Basic ".toList, "basic ".toList]

/-- What follows the announcement of encoded credentials. -/
def encodedPart? (value : List Char) : Option (List Char) :=
  announcements.findSome? fun announcement =>
    if announcement.isPrefixOf value then some (value.drop announcement.length) else none

/-- The name and the password on both sides of the first colon. -/
def splitName? (credentials : String) : Option (String × String) :=
  let cs := credentials.toList
  match cs.dropWhile (· ≠ ':') with
  | [] => none
  | _ :: password => some (String.ofList (cs.takeWhile (· ≠ ':')), String.ofList password)

/-- The name and the password in a header value. -/
def ofHeader (value : String) : Except HeaderFault (String × String) :=
  if !Http.isVisible value then .error .notVisible
  else
    match encodedPart? value.toList with
    | none => .error .scheme
    | some encoded =>
        match Base64.decode (Text.trim encoded) with
        | .error fault => .error (.encoding fault)
        | .ok data =>
            match Text.ofBytes? data with
            | none => .error .notText
            | some text =>
                match splitName? text with
                | none => .error .noColon
                | some pair => .ok pair

end Credentials

namespace Access

/-- Whoever calls while nobody has to log in. -/
def anonymous : String := "anonymous"

/-- Whether a path is served to everybody. -/
def isPublic (access : Access) (path : String) : Bool :=
  access.publicPaths.contains path

/-- Whether a name and a password belong to a user. -/
def verify (access : Access) (name password : String) : Bool :=
  match access.users.find? fun user => user.name == name with
  | none => false
  | some user => user.password == password

/-- The name of the caller, or why the caller is refused. -/
def authenticate (access : Access) (headers : Http.Headers) : Except AccessFault String :=
  if !access.enabled then .ok anonymous
  else
    match headers.first? "authorization" with
    | none => .error .missing
    | some value =>
        match Credentials.ofHeader value with
        | .error fault => .error (.malformed fault)
        | .ok (name, password) =>
            if access.verify name password then .ok name else .error .rejected

/-- The credentials that a refused caller is asked for. -/
def challenge (realm : String) : String :=
  "Basic realm=\"" ++ realm ++ "\""

/-- The response to a refused caller; a challenge that cannot be sent is left out. -/
def refusal (access : Access) (fault : AccessFault) : Http.Response :=
  let response := Http.Response.ofFault .unauthorized fault.message
  if Http.isSendable (challenge access.realm) then
    response.setHeader "www-authenticate" (challenge access.realm)
  else
    response

end Access
end Server
end ContactSearch
