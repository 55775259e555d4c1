import ContactSearch.Number.Reading
import ContactSearch.Server.Config

namespace ContactSearch
namespace Server

/-!
# Configuration from the environment

A variable whose name begins with `CONTACTSDB__`, in any case, writes one
setting.  Its path is the rest of the name in lower case, with two underscores
between the steps.  Its value is a flag, a number or a text, whichever it can
be first; two settings take a list with commas instead of a text.
-/

/-- The variables of a process, by name. -/
abbrev Environment := List (String × String)

namespace Environment

/-- What the names of the server's variables begin with, in lower case. -/
def marker : List Char := "contactsdb__".toList

/-- Replace every pair of underscores by a point. -/
def pointed : List Char -> List Char
  | '_' :: '_' :: rest => '.' :: pointed rest
  | c :: rest => c :: pointed rest
  | [] => []

/--
The lower case of a character, as far as it can matter in a path: of the characters beyond ASCII
only the Kelvin sign has an ASCII letter as its lower case.
-/
def lowered (c : Char) : Char :=
  if c = '\u212a' then 'k' else c.toLower

/-- The dotted key of a variable of the server. -/
def key? (name : String) : Option (List Char) :=
  let lower := name.toList.map lowered
  if marker.isPrefixOf lower then some (pointed (lower.drop marker.length)) else none

/-- Whether a character can stand in a step of a path; a space can. -/
def isStepCharacter (c : Char) : Bool :=
  c.isAlphanum || c == '_' || c == '-' || c == ' '

/-- Whether a character is a blank within brackets. -/
def isGap (c : Char) : Bool :=
  c == ' ' || c == '\t'

/-- A number, if it fits 64 bits with a sign. -/
def fitting? (value : Int) : Option Int :=
  if -(2 ^ 63) ≤ value ∧ value < 2 ^ 63 then some value else none

/-- The index written between brackets. -/
def index? (cs : List Char) : Option Int :=
  let inner := ((cs.dropWhile isGap).reverse.dropWhile isGap).reverse
  match inner with
  | '-' :: digits => (Decimal.read? digits).bind fun value => fitting? (-(value : Int))
  | digits => (Decimal.read? digits).bind fun value => fitting? value

/-- The steps that follow the first one, or nothing if the key is no path. -/
def steps? : List Char -> Option (List SettingStep)
  | [] => some []
  | mark :: rest =>
      if mark = '.' then
        let name := rest.takeWhile isStepCharacter
        if name = [] then none
        else (steps? (rest.drop name.length)).map (.name (String.ofList name) :: ·)
      else if mark = '[' then do
        let inner := rest.takeWhile (· ≠ ']')
        let position ← index? inner
        if rest.drop inner.length = [] then none
        else (steps? (rest.drop (inner.length + 1))).map (.index position :: ·)
      else
        none
termination_by cs => cs.length
decreasing_by all_goals simp only [List.length_drop, List.length_cons]; omega

/-- The path of a key; a key that is none is a name of its own. -/
def path (key : List Char) : List SettingStep :=
  (steps? ('.' :: key)).getD [.name (String.ofList key)]

/-- The keys whose texts are lists with commas. -/
def listKeys : List String :=
  ["server.cors_origins", "auth.public_paths"]

/-- The whole number that a value denotes, within 64 bits. -/
def wholeNumber? (cs : List Char) : Option Int := do
  let (negative, digits) := Double.takeSign cs
  let magnitude ← Decimal.read? digits
  fitting? (if negative then -magnitude else magnitude)

/-- The setting that a value denotes. -/
def setting (key : List Char) (value : String) : Setting :=
  let cs := value.toList
  if value.toLower = "true" then .flag true
  else if value.toLower = "false" then .flag false
  else
    match wholeNumber? cs with
    | some number => .integer number
    | none =>
        match Double.ofText? cs with
        | some number => .real number
        | none =>
            if String.ofList key ∈ listKeys then
              .list ((cs.splitOn ',').map fun item => .text (String.ofList item))
            else
              .text value

/-- Write the variables of the server into a tree of settings. -/
def writeInto (environment : Environment) (tree : Setting) : Setting :=
  environment.foldl
    (fun tree (name, value) =>
      match key? name with
      | some key => Setting.write (setting key value) (path key) tree
      | none => tree)
    tree

/-- The configuration that the environment makes of the default one. -/
def config? (environment : Environment) : Option Config :=
  Config.ofSettings? (environment.writeInto Config.default.settings)

end Environment
end Server
end ContactSearch
