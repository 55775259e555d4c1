namespace ContactSearch
namespace Http

/-!
# Request targets

A target usually begins with the path.  A complete address names a scheme and
a host first, and then the path may be left out.  A query follows a question
mark; what follows a number sign is dropped.  Nothing is decoded here.
-/

/-- What a request asks for. -/
structure Target where
  scheme : Option String
  path : String
  query : Option String

namespace Target

/-- A target without the part after a number sign. -/
def withoutFragment (cs : List Char) : List Char :=
  cs.takeWhile (· ≠ '#')

/-- A path and a query, where a path is expected. -/
def ofPathAndQuery (scheme : Option String) (cs : List Char) : Target :=
  let path := cs.takeWhile (· ≠ '?')
  let query := match cs.dropWhile (· ≠ '?') with
    | [] => none
    | _ :: query => some (String.ofList query)
  ⟨scheme, if path = [] then "/" else String.ofList path, query⟩

/-- Whether a character belongs to the host of a complete address. -/
def isAuthorityCharacter (c : Char) : Bool :=
  c != '/' && c != '?'

/-- Read a target. -/
def ofText (text : String) : Target :=
  let cs := withoutFragment text.toList
  match cs with
  | '/' :: _ => ofPathAndQuery none cs
  | ['*'] => ⟨none, "*", none⟩
  | _ =>
      let scheme := cs.takeWhile (· ≠ ':')
      match cs.drop scheme.length with
      | ':' :: '/' :: '/' :: rest =>
          ofPathAndQuery (some (String.ofList scheme)) (rest.dropWhile isAuthorityCharacter)
      | _ => ⟨none, "", none⟩

end Target
end Http
end ContactSearch
