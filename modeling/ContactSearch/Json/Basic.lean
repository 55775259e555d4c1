import ContactSearch.Number.Double

namespace ContactSearch

/-!
# Document values

A value is what a document field can hold.  Integers and doubles stay apart:
the integer one and the double `1.0` are different values.  Objects keep the
order in which their keys were written, but equality does not look at it.

`Fields` is the container behind documents and queries: an ordered list of
entries in which every key stands once.  Setting a key that is present
replaces its value in place, setting a new one appends it.
-/

/-- A value in a document. -/
inductive Json where
  | null
  | bool (value : Bool)
  | integer (value : Int)
  | double (value : Finite)
  | string (text : String)
  | array (items : List Json)
  | object (entries : List (String × Json))
  deriving Inhabited

namespace Json

/-- The value of a key in an object's entries. -/
def lookup (key : String) : List (String × Json) -> Option Json
  | [] => none
  | (name, value) :: rest => if name = key then some value else lookup key rest

/-- The kind of a value, as queries name it in refusals. -/
def kind : Json -> String
  | .null => "null"
  | .bool _ => "boolean"
  | .integer _ => "number"
  | .double _ => "number"
  | .string _ => "string"
  | .array _ => "array"
  | .object _ => "object"

/-- The text of a string value. -/
def asString? : Json -> Option String
  | .string text => some text
  | _ => none

mutual

/-- Equality of values: objects with the same keys and equal values are equal in any order. -/
def equals : Json -> Json -> Bool
  | .null, .null => true
  | .bool left, .bool right => left == right
  | .integer left, .integer right => left == right
  | .double left, .double right => left.equals right
  | .string left, .string right => left == right
  | .array left, .array right => itemsEqual left right
  | .object left, .object right => left.length == right.length && entriesWithin left right
  | _, _ => false

/-- Equality of arrays, item by item. -/
def itemsEqual : List Json -> List Json -> Bool
  | [], [] => true
  | left :: lefts, right :: rights => equals left right && itemsEqual lefts rights
  | _, _ => false

/-- Whether every entry on the left has an equal value under the same key on the right. -/
def entriesWithin : List (String × Json) -> List (String × Json) -> Bool
  | [], _ => true
  | (key, value) :: rest, right =>
      (match lookup key right with
        | some other => equals value other
        | none => false) && entriesWithin rest right

end

/-- Set a key: in place when it is present, at the end when it is new. -/
def setEntry (key : String) (value : Json) : List (String × Json) -> List (String × Json)
  | [] => [(key, value)]
  | (name, old) :: rest =>
      if name = key then (key, value) :: rest else (name, old) :: setEntry key value rest

theorem lookup_setEntry (key other : String) (value : Json) (entries : List (String × Json)) :
    lookup other (setEntry key value entries) =
      if key = other then some value else lookup other entries := by
  induction entries with
  | nil => simp [setEntry, lookup]
  | cons head tail ih =>
      obtain ⟨name, old⟩ := head
      simp only [setEntry]
      by_cases same : name = key
      · subst same
        rw [if_pos rfl, lookup, lookup]
        by_cases hit : name = other
        · rw [if_pos hit, if_pos hit]
        · rw [if_neg hit, if_neg hit, if_neg hit]
      · rw [if_neg same, lookup, lookup, ih]
        by_cases hit : name = other
        · have differs : key ≠ other := fun equal => same (hit.trans equal.symm)
          rw [if_pos hit, if_neg differs, if_pos hit]
        · rw [if_neg hit, if_neg hit]

theorem keys_setEntry (key : String) (value : Json) (entries : List (String × Json)) :
    (setEntry key value entries).map Prod.fst =
      if key ∈ entries.map Prod.fst then entries.map Prod.fst
      else entries.map Prod.fst ++ [key] := by
  induction entries with
  | nil => simp [setEntry]
  | cons head tail ih =>
      obtain ⟨name, old⟩ := head
      simp only [setEntry]
      by_cases same : name = key
      · subst same
        simp
      · rw [if_neg same]
        simp only [List.map_cons, List.mem_cons, ih, Ne.symm same, false_or]
        split <;> simp

/-- Entries merged one after another, so that later values win and first places stay. -/
def mergeEntries (entries : List (String × Json)) : List (String × Json) :=
  entries.foldl (fun merged entry => setEntry entry.1 entry.2 merged) []

end Json

/-- Entries in which every key stands once. -/
structure Fields where
  entries : List (String × Json)
  distinct : (entries.map Prod.fst).Nodup

namespace Fields

def empty : Fields :=
  ⟨[], List.nodup_nil⟩

instance : Inhabited Fields :=
  ⟨empty⟩

/-- The value of a key. -/
def get? (fields : Fields) (key : String) : Option Json :=
  Json.lookup key fields.entries

/-- The keys in their order. -/
def keys (fields : Fields) : List String :=
  fields.entries.map Prod.fst

def size (fields : Fields) : Nat :=
  fields.entries.length

def isEmpty (fields : Fields) : Bool :=
  fields.entries.isEmpty

theorem nodup_keys_setEntry {entries : List (String × Json)}
    (distinct : (entries.map Prod.fst).Nodup) (key : String) (value : Json) :
    ((Json.setEntry key value entries).map Prod.fst).Nodup := by
  rw [Json.keys_setEntry]
  split
  · exact distinct
  · next fresh =>
      rw [List.nodup_append]
      refine ⟨distinct, by simp, ?_⟩
      intro first member second single
      rw [List.mem_singleton] at single
      exact fun equal => fresh (single ▸ equal ▸ member)

/-- Set a key: in place when it is present, at the end when it is new. -/
def set (fields : Fields) (key : String) (value : Json) : Fields :=
  ⟨Json.setEntry key value fields.entries, nodup_keys_setEntry fields.distinct key value⟩

/-- Set several keys in turn. -/
def setAll (fields : Fields) (entries : List (String × Json)) : Fields :=
  entries.foldl (fun merged entry => merged.set entry.1 entry.2) fields

/-- The container that holds the given entries; a repeated key keeps its last value. -/
def ofEntries (entries : List (String × Json)) : Fields :=
  empty.setAll entries

theorem get?_set (fields : Fields) (key other : String) (value : Json) :
    (fields.set key value).get? other = if key = other then some value else fields.get? other :=
  Json.lookup_setEntry key other value fields.entries

theorem keys_set (fields : Fields) (key : String) (value : Json) :
    (fields.set key value).keys =
      if key ∈ fields.keys then fields.keys else fields.keys ++ [key] :=
  Json.keys_setEntry key value fields.entries

theorem entries_setAll (fields : Fields) (entries : List (String × Json)) :
    (fields.setAll entries).entries =
      entries.foldl (fun merged entry => Json.setEntry entry.1 entry.2 merged) fields.entries := by
  induction entries generalizing fields with
  | nil => rfl
  | cons head tail ih => exact ih (fields.set head.1 head.2)

theorem entries_ofEntries (entries : List (String × Json)) :
    (ofEntries entries).entries = Json.mergeEntries entries :=
  entries_setAll empty entries

end Fields

namespace Json

mutual

/-- Values whose objects, at every depth, hold each key once. -/
def HasDistinctKeys : Json -> Prop
  | .array items => ItemsHaveDistinctKeys items
  | .object entries => (entries.map Prod.fst).Nodup ∧ EntriesHaveDistinctKeys entries
  | _ => True

/-- The condition on the items of an array. -/
def ItemsHaveDistinctKeys : List Json -> Prop
  | [] => True
  | item :: items => HasDistinctKeys item ∧ ItemsHaveDistinctKeys items

/-- The condition on the values of an object. -/
def EntriesHaveDistinctKeys : List (String × Json) -> Prop
  | [] => True
  | (_, value) :: entries => HasDistinctKeys value ∧ EntriesHaveDistinctKeys entries

end

end Json
end ContactSearch
