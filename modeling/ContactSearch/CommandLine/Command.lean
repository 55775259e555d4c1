import ContactSearch.CommandLine.Arguments
import ContactSearch.Contact.Variant

namespace ContactSearch
namespace CommandLine

/-!
# Commands

The first argument names the command, the others belong to it.  There are four
commands: one lists the searches, one runs a search, one evaluates a script,
and one shows the tokens of a script.
-/

/-- What the program is asked to do. -/
inductive Command where
  | list (mode : Option Contact.Mode)
  | search (mode : Contact.Mode) (variant : Contact.Variant) (user email : String)
      (explained : Bool)
  | evaluate (script : String) (treeShown : Bool)
  | tokens (script : String)

namespace Command

/-- The option for a mode. -/
def modeArgument (required : Bool) : Argument where
  name := "mode"
  placeholder := some "MODE"
  required := required
  refusal value :=
    match Contact.Mode.ofText? value with
    | some _ => none
    | none => some (Contact.Mode.unknownMessage value)

/-- The option for a variant. -/
def variantArgument : Argument where
  name := "variant"
  placeholder := some "VARIANT"
  required := true
  refusal value :=
    match Contact.Variant.ofSlug? value with
    | some _ => none
    | none => some (Contact.Variant.unknownMessage value)

/-- The option for a script. -/
def scriptArgument : Argument :=
  .text "expr" "EXPR" true

/-- The user for whom a search is run unless another one is given. -/
def defaultUser : String := "user1"

/-- A command that can be named: its arguments, and how to read them. -/
structure Form where
  name : String
  summary : String
  arguments : List Argument
  read : Reading -> Option Command

/-- The listing of searches. -/
def listForm : Form where
  name := "variants"
  summary := "List the search variants available in each mode"
  arguments := [modeArgument false]
  read reading := some (.list ((reading.value? "mode").bind Contact.Mode.ofText?))

/-- A search. -/
def searchForm : Form where
  name := "search"
  summary := "Run one contact search and print the matches as JSON"
  arguments := [modeArgument true, variantArgument, .text "user" "USER" false,
    .text "email" "EMAIL" true, .switch "explain"]
  read reading := do
    let mode ← (reading.value? "mode").bind Contact.Mode.ofText?
    let variant ← (reading.value? "variant").bind Contact.Variant.ofSlug?
    let email ← reading.value? "email"
    return .search mode variant ((reading.value? "user").getD defaultUser) email
      (reading.isGiven "explain")

/-- The evaluation of a script. -/
def evaluateForm : Form where
  name := "where"
  summary := "Evaluate a raw $where expression against the seed contacts"
  arguments := [scriptArgument, .switch "ast"]
  read reading := (reading.value? "expr").map fun script =>
    .evaluate script (reading.isGiven "ast")

/-- The tokens of a script. -/
def tokensForm : Form where
  name := "tokens"
  summary := "Print the lexer tokens of an expression"
  arguments := [scriptArgument]
  read reading := (reading.value? "expr").map .tokens

/-- All commands in the order of the listing. -/
def forms : List Form :=
  [listForm, searchForm, evaluateForm, tokensForm]

/-- The command that a name stands for. -/
def form? (name : String) : Option Form :=
  forms.find? fun form => form.name == name

/-- The name that asks for help instead of a command. -/
def helpName : String := "help"

/-- Whether a name can stand in front. -/
def isKnown (name : String) : Bool :=
  name == helpName || (form? name).isSome

/-- Read a command from its arguments. -/
def ofForm (form : Form) (given : List String) : Except UsageFault Command := do
  let reading ← Reading.ofArguments form.arguments given
  match form.read reading with
  | some command => .ok command
  | none => .error (.requiredMissing form.arguments)

/-- The fault of what follows the wish for help; no command has commands of its own. -/
def helpFault : List String -> UsageFault
  | [] => .helpWanted
  | [name] => if isKnown name then .helpWanted else .commandUnknown name
  | name :: next :: _ => .commandUnknown (if isKnown name then next else name)

/-- The fault of arguments that begin with something else than a command. -/
def leadingFault (given : String) (rest : List String) : UsageFault :=
  match argumentForm given with
  | .escape =>
      match rest with
      | [] => .commandMissing
      | next :: _ => if isKnown next then .unexpected next else .commandUnknown next
  | .long name value =>
      if name = Argument.help.name then
        match value with
        | none => .helpWanted
        | some text => .valueUnneeded .help text
      else
        .unexpected ("--" ++ name)
  | .short letter =>
      if letter = 'h' then .helpWanted else .unexpected ("-" ++ String.singleton letter)
  | .plain => .commandUnknown given

/-- The command that arguments ask for. -/
def ofArguments : List String -> Except UsageFault Command
  | [] => .error .commandMissing
  | name :: rest =>
      match form? name with
      | some form => ofForm form rest
      | none =>
          if name = helpName then .error (helpFault rest) else .error (leadingFault name rest)

end Command
end CommandLine
end ContactSearch
