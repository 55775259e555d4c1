import ContactSearch.CommandLine.Command
import ContactSearch.Contact.Search
import ContactSearch.Contact.Seed

namespace ContactSearch
namespace CommandLine

/-!
# Reports

Running the program yields a report: what it prints, what it complains about,
and its exit code.  Every command runs against a store of its own that holds
the seeded contacts.

What a command prints before it fails stays printed.  Showing how a search is
put together, or the tree of a script, comes first and decides nothing.

A complaint goes to a plain stream.  The notice about arguments is written for a
terminal, so its marks are taken out, and with them all that the arguments
themselves hold for a terminal.  The complaint of a failing command bears no
marks and keeps every character.
-/

/-- The outcome of a run. -/
structure Report where
  code : Nat
  output : String
  complaint : String
  deriving DecidableEq

/-- Why a command fails, with the cause below it if there is one. -/
structure Failure where
  message : String
  cause : Option String

namespace Failure

/-- A failure without a cause. -/
def plain (message : String) : Failure :=
  ⟨message, none⟩

/-- The failure of a search; what is wrong with a script is told apart as the cause. -/
def ofStore (fault : Store.Fault) : Failure :=
  match fault with
  | .script inner => ⟨fault.message, some inner.message⟩
  | _ => .plain fault.message

/-- The failure of a contact search. -/
def ofContact (fault : Contact.Fault) : Failure :=
  match fault with
  | .unsupported _ _ => .plain fault.message
  | .store inner => ofStore inner

/-- The failure of a script that cannot be read. -/
def ofUnreadable (fault : Script.ScriptFault) : Failure :=
  ⟨"Failed to parse expression", some fault.message⟩

/-- A text whose lines all begin with four blanks. -/
def indentedLines (text : String) : String :=
  String.ofList ("    ".toList ++
    text.toList.flatMap fun c => if c = '\n' then "\n    ".toList else [c])

/-- The complaint about a failure. -/
def complaint (failure : Failure) : String :=
  "Error: " ++ failure.message ++
    (match failure.cause with
      | some cause => "\n\nCaused by:\n" ++ indentedLines cause
      | none => "") ++ "\n"

end Failure

namespace Report

/-- A run that went well. -/
def success (output : String) : Report :=
  ⟨0, output, ""⟩

/-- A run that failed. -/
def failure (failure : Failure) : Report :=
  ⟨1, "", failure.complaint⟩

/-- A report with more output in front. -/
def after (output : String) (report : Report) : Report :=
  { report with output := output ++ report.output }

end Report

/-- A text filled up with blanks on the right. -/
def padRight (width : Nat) (text : String) : String :=
  text ++ String.ofList (List.replicate (width - text.length) ' ')

/-- A text filled up with blanks on the left. -/
def padLeft (width : Nat) (text : String) : String :=
  String.ofList (List.replicate (width - text.length) ' ') ++ text

/-- What the program is for. -/
def purpose : String :=
  "Compare $where string queries with structured queries"

/-- The overview of all commands. -/
def overview : String :=
  purpose ++ "\n\nCommands:\n" ++
    String.join (Command.forms.map fun form =>
      "  " ++ padRight 9 form.name ++ form.summary ++ "\n")

namespace UsageFault

/-- The notice about arguments that cannot be read, as a terminal would show it. -/
def notice (fault : UsageFault) : String :=
  Mark.alarm.around "error:" ++ " " ++ fault.message ++
    "\n\nFor more information, try '" ++ Mark.name.around ("--" ++ Argument.help.name) ++ "'.\n"

/-- The report on arguments that cannot be read, or need not be. -/
def report (fault : UsageFault) : Report :=
  match fault with
  | .helpWanted => .success overview
  | .commandMissing => ⟨2, "", overview⟩
  | _ => ⟨2, "", Text.withoutControls fault.notice⟩

end UsageFault

namespace Command

/-- A store that holds the seeded contacts. -/
def seeded : Except Store.Fault Store.Catalog :=
  (Contact.seed .start Contact.seedDatabase Contact.seedCollection).map Prod.snd

/-- The documents that were found, as the program prints them. -/
def documentsText (documents : List Store.Document) : String :=
  (Json.array (documents.map Store.Document.toJson)).indentedText ++ "\n"

/-- The line of a search in the listing. -/
def listLine (mode : Contact.Mode) (variant : Contact.Variant) : String :=
  padRight 9 mode.text ++ " " ++ padRight 32 variant.slug ++ " " ++ variant.description ++ "\n"

/-- The listing of all searches, or of those of one mode. -/
def listText (mode : Option Contact.Mode) : String :=
  let wanted := Contact.routes.filter fun route =>
    match mode with
    | some mode => route.1 == mode
    | none => true
  String.join (wanted.map fun (mode, variant) => listLine mode variant)

/-- The line of a token. -/
def tokenLine (token : Script.Token) : String :=
  padLeft 4 (Decimal.natText token.position) ++ "  " ++
    padRight 15 token.lexeme.kindName ++ " " ++ token.lexeme.text ++ "\n"

/-- A clause as a value. -/
def clauseValue (clause : Store.Clause) : Json :=
  .object [("field", .string clause.field), ("value", clause.value)]

/-- How a predicate is explained. -/
def explanation : Store.Predicate -> String
  | .script source =>
      let verdict := match Script.Expression.parse source with
        | .ok expression => "parsed: " ++ expression.tree.text
        | .error fault => "parse error: " ++ fault.message
      "$where: " ++ source ++ "\n" ++ verdict ++ "\n"
  | .fields clauses =>
      (Json.object [("kind", .string "fields"),
        ("clauses", .array (clauses.map clauseValue))]).indentedText ++ "\n"

/-- The report on a search in the seeded store. -/
def searchReport (order : Contact.MapOrder) (request : Contact.Request) : Report :=
  match seeded with
  | .error fault => .failure ⟨"Failed to seed contacts", some fault.message⟩
  | .ok catalog =>
      match Contact.search order catalog Contact.seedDatabase Contact.seedCollection request with
      | .error fault => .failure (.ofContact fault)
      | .ok found => .success (documentsText found)

/-- The report on a search whose predicate is explained first. -/
def explainedReport (order : Contact.MapOrder) (request : Contact.Request) : Report :=
  match Contact.predicate order request.mode request.variant request.identity request.term with
  | .error fault => .failure (.ofContact fault)
  | .ok predicate => (searchReport order request).after (explanation predicate)

/-- The report on a script that can be read, in the seeded store. -/
def selectReport (script : String) : Report :=
  match seeded with
  | .error fault => .failure ⟨"Failed to seed contacts", some fault.message⟩
  | .ok catalog =>
      match catalog.collection Contact.seedDatabase Contact.seedCollection with
      | .error fault => .failure (.ofStore fault)
      | .ok collection =>
          match collection.find (.script script) with
          | .error fault => .failure (.ofStore fault)
          | .ok found => .success (documentsText found)

/-- The report on a script; its tree is shown first, if it is to be shown. -/
def evaluateReport (script : String) (treeShown : Bool) : Report :=
  match Script.Expression.parse script with
  | .error fault => .failure (.ofUnreadable fault)
  | .ok expression =>
      let shown := if treeShown then expression.tree.text ++ "\n" else ""
      (selectReport script).after shown

/-- Run a command. -/
def report (order : Contact.MapOrder) : Command -> Report
  | .list mode => .success (listText mode)
  | .search mode variant user email explained =>
      let request : Contact.Request := ⟨mode, variant, user, email⟩
      if explained then explainedReport order request else searchReport order request
  | .evaluate script treeShown => evaluateReport script treeShown
  | .tokens script => .success (String.join ((Script.tokenize script).map tokenLine))

end Command

/-- Run the program with the given arguments. -/
def run (order : Contact.MapOrder) (given : List String) : Report :=
  match Command.ofArguments given with
  | .ok command => command.report order
  | .error fault => fault.report

end CommandLine
end ContactSearch
