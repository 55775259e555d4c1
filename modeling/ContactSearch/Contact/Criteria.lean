import ContactSearch.Contact.Variant
import ContactSearch.Store.Filter
import ContactSearch.Store.Query

namespace ContactSearch
namespace Contact

/-!
# The criteria of a search

A search asks for the contacts that are shared with an identity and have a
given e-mail address.  The insecure mode writes both texts between quotation
marks into a script, exactly as they are, so a text can end its literal and go
on as code.  The secure mode binds both as literal values.

Some variants collect their criteria in a map first.  Such a map hands out its
entries in an order of its own, which is a parameter here: nothing that a
search finds may depend on it.
-/

/-- The field that names whom a contact is shared with. -/
def ownerField : String := "sharedWith"

/-- The field that holds the e-mail address. -/
def emailField : String := "email"

/-- How many clauses a secure search has to bind. -/
def secureClauses : Nat := 2

/-- The order in which a map of two entries hands them out. -/
inductive MapOrder where
  | asWritten
  | reversed
  deriving DecidableEq

/-- The entries of a map in the order in which it hands them out. -/
def MapOrder.arrange (order : MapOrder) (entries : List α) : List α :=
  match order with
  | .asWritten => entries
  | .reversed => entries.reverse

/-- Why a search fails. -/
inductive Fault where
  | unsupported (mode : Mode) (variant : Variant)
  | store (fault : Store.Fault)
  deriving DecidableEq

/-- The wording of a failed search. -/
def Fault.message : Fault -> String
  | .unsupported mode variant =>
      "Variant " ++ variant.slug ++ " is not available in " ++ mode.text ++ " mode"
  | .store fault => fault.message

/-- Whether a script is what failed. -/
def Fault.isScript : Fault -> Bool
  | .unsupported _ _ => false
  | .store fault => fault.isScript

/-- The script of the insecure mode.  Both texts are written as they are. -/
def ownershipScript (identity term : String) : String :=
  "this." ++ ownerField ++ " == \"" ++ identity ++ "\" && this." ++ emailField ++
    " == \"" ++ term ++ "\""

/-- Criteria written as text and read back. -/
def throughText (entries : List (String × Json)) : Except Store.Fault Store.Query :=
  Store.Query.parse (Json.object entries).text

/-- A query put together from entries in the way of a variant; the filter has no query. -/
def assemble (order : MapOrder) (entries : List (String × Json)) :
    Variant -> Except Store.Fault Store.Query
  | .put => .ok (entries.foldl (fun query entry => (query.put entry.1 entry.2).2) Store.Query.empty)
  | .putAll => .ok (Store.Query.empty.putAll (order.arrange entries))
  | .append =>
      .ok (entries.foldl (fun query entry => query.append entry.1 entry.2) Store.Query.empty)
  | .single =>
      match entries with
      | [] => .ok Store.Query.empty
      | (key, value) :: rest =>
          .ok (rest.foldl (fun query entry => query.append entry.1 entry.2)
            (Store.Query.single key value))
  | .ofMap => .ok (Store.Query.ofEntries (order.arrange entries))
  | .parse => throughText (order.arrange entries)
  | .builderAdd =>
      .ok (entries.foldl (fun builder entry => builder.add entry.1 entry.2)
        Store.Query.Builder.start).get
  | .builderAppend =>
      .ok (entries.foldl (fun builder entry => builder.append entry.1 entry.2)
        Store.Query.Builder.start).get
  | .builderSingle =>
      match entries with
      | [] => .ok Store.Query.empty
      | (key, value) :: rest =>
          .ok (rest.foldl (fun builder entry => builder.add entry.1 entry.2)
            (Store.Query.Builder.startWith key value)).get
  | .builderMap => .ok (Store.Query.Builder.startFrom (order.arrange entries)).get
  | .filter => .ok Store.Query.empty

/-- The predicate of a query put together in the way of a variant. -/
def assembled (order : MapOrder) (entries : List (String × Json)) (variant : Variant) :
    Except Fault Store.Predicate :=
  match assemble order entries variant with
  | .error fault => .error (.store fault)
  | .ok query =>
      match query.lower with
      | .error fault => .error (.store (.invalidQuery fault))
      | .ok predicate => .ok predicate

/-- The two criteria of a secure search. -/
def secureEntries (identity term : String) : List (String × Json) :=
  [(ownerField, .string identity), (emailField, .string term)]

/-- The filter of a secure search. -/
def secureFilter (identity term : String) : Store.Filter :=
  .and [.eq ownerField (.string identity), .eq emailField (.string term)]

/-- The predicate of an insecure search. -/
def insecurePredicate (order : MapOrder) (variant : Variant) (identity term : String) :
    Except Fault Store.Predicate :=
  if variant = .filter then
    .error (.unsupported .insecure .filter)
  else
    assembled order [(Store.scriptKey, .string (ownershipScript identity term))] variant

/-- The predicate of a secure search, before its clauses are counted. -/
def securePredicate (order : MapOrder) (variant : Variant) (identity term : String) :
    Except Fault Store.Predicate :=
  if variant = .filter then
    .ok (secureFilter identity term).lower
  else
    assembled order (secureEntries identity term) variant

/-- The predicate of a search. -/
def predicate (order : MapOrder) (mode : Mode) (variant : Variant) (identity term : String) :
    Except Fault Store.Predicate :=
  if variant.supports mode then
    match mode with
    | .insecure => insecurePredicate order variant identity term
    | .secure =>
        match securePredicate order variant identity term with
        | .error fault => .error fault
        | .ok predicate =>
            match predicate.ensureClauseCount secureClauses with
            | .error fault => .error (.store (.invalidQuery fault))
            | .ok () => .ok predicate
  else
    .error (.unsupported mode variant)

end Contact
end ContactSearch
