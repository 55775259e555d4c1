import ContactSearch.Number.Layout

namespace ContactSearch
namespace Server

/-!
# Settings

A source of configuration is a tree of settings.  A later source writes single
values into the tree, at a path of names and indices, and the configuration is
then read off the tree.

Reading is forgiving about the kind of a value: a number or a flag serves as
text, a number or a word serves as a flag, and a fraction serves as a whole
number after rounding.  A record is a table of named values or a list of the
same values in their order.
-/

/-- A value in a tree of settings. -/
inductive Setting where
  | absent
  | flag (value : Bool)
  | integer (value : Int)
  | real (value : Double)
  | text (value : String)
  | list (items : List Setting)
  | table (entries : List (String × Setting))
  deriving Inhabited

/-- A step on the way to a setting. -/
inductive SettingStep where
  | name (key : String)
  | index (position : Int)

namespace Setting

/-! ## Writing -/

/-- The entries of a table; other settings have none. -/
def entries : Setting -> List (String × Setting)
  | .table entries => entries
  | _ => []

/-- The items of a list; other settings have none. -/
def items : Setting -> List Setting
  | .list items => items
  | _ => []

/-- The setting of a name in a table, absent if there is none. -/
def field (key : String) (setting : Setting) : Setting :=
  match setting.entries.find? fun entry => entry.1 == key with
  | some entry => entry.2
  | none => .absent

/-- Entries with the setting of a name replaced, or added at the end. -/
def putEntry (key : String) (value : Setting) : List (String × Setting) -> List (String × Setting)
  | [] => [(key, value)]
  | (name, old) :: rest =>
      if name = key then (key, value) :: rest else (name, old) :: putEntry key value rest

/--
The place that an index denotes, and the items with that place among them.  A negative index
counts from the end.  Places that do not exist yet, behind the items or in front of them, are
added as absent settings.
-/
def reach (position : Int) (items : List Setting) : Nat × List Setting :=
  let distance := position.natAbs
  if 0 ≤ position then
    (distance, items ++ List.replicate (distance + 1 - items.length) Setting.absent)
  else
    (items.length - distance, List.replicate (distance - items.length) Setting.absent ++ items)

/-- Write a value at a path; what stands in the way is replaced by a table or a list. -/
def write (value : Setting) : List SettingStep -> Setting -> Setting
  | [], _ => value
  | .name key :: rest, target =>
      .table (putEntry key (write value rest (target.field key)) target.entries)
  | .index position :: rest, target =>
      let (place, items) := reach position target.items
      .list (items.set place (write value rest (items.getD place Setting.absent)))

/-! ## Reading -/

/-- A part of a record: by its place in a list, by its name otherwise. -/
def part (place : Nat) (key : String) : Setting -> Setting
  | .list items => items.getD place Setting.absent
  | setting => setting.field key

/-- Words that mean yes. -/
def affirmative : List String :=
  ["true", "on", "yes"]

/-- Words that mean no. -/
def negative : List String :=
  ["false", "off", "no"]

/-- A setting as text. -/
def asText? : Setting -> Option String
  | .text value => some value
  | .flag value => some (if value then "true" else "false")
  | .integer value => some (Decimal.intText value)
  | .real value => some (String.ofList value.plainText)
  | _ => none

/-- A setting as a flag; every number but zero means yes. -/
def asFlag? : Setting -> Option Bool
  | .flag value => some value
  | .integer value => some (value != 0)
  | .real value => some !(value.equals Double.zero)
  | .text value =>
      let word := value.toLower
      if word = "1" ∨ word ∈ affirmative then some true
      else if word = "0" ∨ word ∈ negative then some false
      else none
  | _ => none

/-- The greatest whole number that a setting can hold. -/
def greatest : Nat := 2 ^ 64 - 1

/-- A double rounded to a whole number in range; a half goes up, and what is no number is zero. -/
def rounded : Double -> Nat
  | .nan => 0
  | .infinite negative => if negative then 0 else greatest
  | .finite value =>
      if value.negative then 0
      else min greatest ((value.units + unitsPerOne / 2) / unitsPerOne)

/-- A setting as a whole number.  A text other than a word is refused: a number is no text. -/
def asNatural? : Setting -> Option Nat
  | .integer value => if 0 ≤ value then some value.toNat else none
  | .real value => some (rounded value)
  | .flag value => some (if value then 1 else 0)
  | .text value =>
      let word := value.toLower
      if word ∈ affirmative then some 1
      else if word ∈ negative then some 0
      else none
  | _ => none

/-- A setting as a whole number that does not pass a bound. -/
def asBounded? (bound : Nat) (setting : Setting) : Option Nat :=
  setting.asNatural?.filter (· ≤ bound)

/-- A setting as a list of values. -/
def asList? (read : Setting -> Option α) : Setting -> Option (List α)
  | .list items => items.mapM read
  | _ => none

end Setting
end Server
end ContactSearch
