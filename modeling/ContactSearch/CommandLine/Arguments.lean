import ContactSearch.CommandLine.Mark

namespace ContactSearch
namespace CommandLine

/-!
# Arguments

Arguments are read from left to right, and the first fault is the answer.  An
option takes its value from the same argument, behind an equals sign, or from
the next one.  In the second case the value is only judged when it is clear
that the option is complete, so an argument that cannot stand there at all is
the earlier fault.

Nothing may follow a double dash, since there are no arguments besides options.
-/

/-- An argument that a command understands; one without a value is a switch. -/
structure Argument where
  name : String
  placeholder : Option String
  required : Bool
  refusal : String -> Option String

namespace Argument

/-- A switch. -/
def switch (name : String) : Argument :=
  ⟨name, none, false, fun _ => none⟩

/-- An option that takes any text. -/
def text (name placeholder : String) (required : Bool) : Argument :=
  ⟨name, some placeholder, required, fun _ => none⟩

/-- How usage messages show an argument. -/
def shown (argument : Argument) : String :=
  match argument.placeholder with
  | none => "--" ++ argument.name
  | some placeholder => "--" ++ argument.name ++ " <" ++ placeholder ++ ">"

/-- The switch that every command understands. -/
def help : Argument :=
  switch "help"

end Argument

/-- Why arguments cannot be read, or need not be. -/
inductive UsageFault where
  | helpWanted
  | commandMissing
  | commandUnknown (given : String)
  | unexpected (given : String)
  | valueMissing (argument : Argument)
  | valueUnneeded (argument : Argument) (given : String)
  | valueInvalid (argument : Argument) (given reason : String)
  | repeated (argument : Argument)
  | requiredMissing (arguments : List Argument)

/-- What arguments begin with. -/
inductive ArgumentForm where
  | escape
  | long (name : String) (value : Option String)
  | short (letter : Char)
  | plain

/-- The name and the value on both sides of the first equals sign. -/
def longForm (cs : List Char) : ArgumentForm :=
  let name := String.ofList (cs.takeWhile (· ≠ '='))
  match cs.dropWhile (· ≠ '=') with
  | [] => .long name none
  | _ :: value => .long name (some (String.ofList value))

/-- The form of an argument; a single dash is no option. -/
def argumentForm (given : String) : ArgumentForm :=
  match given.toList with
  | ['-', '-'] => .escape
  | '-' :: '-' :: rest => longForm rest
  | '-' :: letter :: _ => .short letter
  | _ => .plain

/-- What has been read: values by name, and an option that is not complete yet. -/
structure Reading where
  values : List (String × String)
  pending : Option (Argument × Option String)

namespace Reading

/-- Nothing has been read. -/
def start : Reading :=
  ⟨[], none⟩

/-- The value of an argument. -/
def value? (reading : Reading) (name : String) : Option String :=
  (reading.values.find? fun entry => entry.1 == name).map Prod.snd

/-- Whether an argument was given. -/
def isGiven (reading : Reading) (name : String) : Bool :=
  (reading.value? name).isSome

/-- Keep a complete argument. -/
def keep (argument : Argument) (value : String) (reading : Reading) :
    Except UsageFault Reading :=
  if reading.isGiven argument.name then .error (.repeated argument)
  else
    match argument.refusal value with
    | some reason => .error (.valueInvalid argument value reason)
    | none => .ok { reading with values := reading.values ++ [(argument.name, value)] }

/-- Complete the pending option. -/
def settle (reading : Reading) : Except UsageFault Reading :=
  match reading.pending with
  | none => .ok reading
  | some (argument, none) => .error (.valueMissing argument)
  | some (argument, some value) => keep argument value { reading with pending := none }

/-- Read an argument that begins with two dashes and a name. -/
def takeLong (arguments : List Argument) (name : String) (value : Option String)
    (reading : Reading) : Except UsageFault Reading :=
  match (Argument.help :: arguments).find? fun argument => argument.name == name with
  | none => .error (.unexpected ("--" ++ name))
  | some argument =>
      match argument.placeholder, value with
      | none, some given => .error (.valueUnneeded argument given)
      | none, none => do
          let settled ← settle reading
          if argument.name = Argument.help.name then .error .helpWanted
          keep argument "" settled
      | some _, some given => do
          let settled ← settle reading
          keep argument given settled
      | some _, none => do
          let settled ← settle reading
          .ok { settled with pending := some (argument, none) }

/-- Read an argument that begins with one dash and a letter. -/
def takeShort (letter : Char) (reading : Reading) : Except UsageFault Reading :=
  if letter = 'h' then do
    let _ ← settle reading
    .error .helpWanted
  else
    .error (.unexpected ("-" ++ String.singleton letter))

/-- Read an argument that is no option: it can only be the value of one. -/
def takePlain (given : String) (reading : Reading) : Except UsageFault Reading :=
  match reading.pending with
  | some (argument, none) => .ok { reading with pending := some (argument, some given) }
  | _ => .error (.unexpected given)

/-- Read arguments up to their end. -/
def takeAll (arguments : List Argument) (reading : Reading) :
    List String -> Except UsageFault Reading
  | [] => settle reading
  | given :: rest =>
      match argumentForm given with
      | .escape =>
          match rest with
          | [] => settle reading
          | next :: _ => .error (.unexpected next)
      | .long name value => do takeAll arguments (← takeLong arguments name value reading) rest
      | .short letter => do takeAll arguments (← takeShort letter reading) rest
      | .plain => do takeAll arguments (← takePlain given reading) rest

/-- Read the arguments of a command, all required ones included. -/
def ofArguments (arguments : List Argument) (given : List String) : Except UsageFault Reading := do
  let reading ← takeAll arguments start given
  let missing := arguments.filter fun argument =>
    argument.required && !reading.isGiven argument.name
  if missing.isEmpty then .ok reading else .error (.requiredMissing missing)

end Reading

namespace UsageFault

/-- The wording of arguments that cannot be read, with marks for a terminal.  What is at fault
and what it was meant for are set off; the reason is told as it is. -/
def message : UsageFault -> String
  | .helpWanted => ""
  | .commandMissing => ""
  | .commandUnknown given => "unrecognized subcommand '" ++ Mark.fault.around given ++ "'"
  | .unexpected given => "unexpected argument '" ++ Mark.fault.around given ++ "' found"
  | .valueMissing argument =>
      "a value is required for '" ++ Mark.fault.around argument.shown ++
        "' but none was supplied"
  | .valueUnneeded argument given =>
      "unexpected value '" ++ Mark.fault.around given ++ "' for '" ++
        Mark.name.around argument.shown ++ "' found; no more were expected"
  | .valueInvalid argument given reason =>
      "invalid value '" ++ Mark.fault.around given ++ "' for '" ++
        Mark.name.around argument.shown ++ "': " ++ reason
  | .repeated argument =>
      "the argument '" ++ Mark.fault.around argument.shown ++ "' cannot be used multiple times"
  | .requiredMissing arguments =>
      "the following required arguments were not provided:" ++
        String.join (arguments.map fun argument => "\n  " ++ Mark.name.around argument.shown)

end UsageFault
end CommandLine
end ContactSearch
