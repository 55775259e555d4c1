import ContactSearch.Proofs.Script.PrintedForm
import ContactSearch.Proofs.Text.Quoted

namespace ContactSearch
namespace Script

/-!
# How much a display tells of its tree

Two trees that were read can be displayed alike for two reasons.  A negation
that is the object of an access is displayed as the negation of that access,
and a number too large for a double is displayed like a name.  The shape of a
tree is what is left when these two are not told apart, and the display tells
the shape and nothing else.

That trees without negated objects can be told apart is shown by reading their
displays.  A display with characters that are shown by their code points cannot
be read.  But if two trees are displayed alike, then they still are when what
their string literals are shown as takes the place of the literals, and these
displays can be read.
-/

/-! ## Changed string literals -/

/-- A literal whose string is changed, if it is one. -/
def Literal.mapString (change : String -> String) : Literal -> Literal
  | .string value => .string (change value)
  | value => value

theorem Literal.mapString_injective {change : String -> String}
    (injective : Function.Injective change) : Function.Injective (mapString change) := by
  intro first second same
  cases first with
  | string value =>
      cases second with
      | string other => rw [injective (Literal.string.inj same)]
      | _ => cases same
  | _ =>
      cases second with
      | string other => cases same
      | _ => exact same

/-- A mark whose string is changed, if it has one. -/
def Mark.mapString (change : String -> String) : Mark -> Mark
  | .literal value => .literal (value.mapString change)
  | mark => mark

namespace Tree

/-- A tree with all its string literals changed. -/
def mapStrings (change : String -> String) : Tree -> Tree
  | .literal value => .literal (value.mapString change)
  | .this => .this
  | .identifier name => .identifier name
  | .member object property => .member (object.mapStrings change) property
  | .index object key => .index (object.mapStrings change) (key.mapStrings change)
  | .not operand => .not (operand.mapStrings change)
  | .equality operator left right =>
      .equality operator (left.mapStrings change) (right.mapStrings change)
  | .and left right => .and (left.mapStrings change) (right.mapStrings change)
  | .or left right => .or (left.mapStrings change) (right.mapStrings change)

variable (change : String -> String)

theorem isNegation_mapStrings (tree : Tree) :
    (tree.mapStrings change).isNegation = tree.isNegation := by
  cases tree <;> rfl

theorem hasPlainObjects_mapStrings (tree : Tree) :
    (tree.mapStrings change).hasPlainObjects = tree.hasPlainObjects := by
  induction tree with
  | literal value => rfl
  | this => rfl
  | identifier name => rfl
  | member object property ih =>
      rw [mapStrings, hasPlainObjects, hasPlainObjects, isNegation_mapStrings, ih]
  | index object key ih ih' =>
      rw [mapStrings, hasPlainObjects, hasPlainObjects, isNegation_mapStrings, ih, ih']
  | not operand ih => exact ih
  | equality operator left right ih ih' | and left right ih ih' | or left right ih ih' =>
      rw [mapStrings, hasPlainObjects, hasPlainObjects, ih, ih']

theorem marks_mapStrings (tree : Tree) :
    (tree.mapStrings change).marks = tree.marks.map (Mark.mapString change) := by
  induction tree with
  | literal value => rfl
  | this => rfl
  | identifier name => rfl
  | member object property ih =>
      rw [mapStrings, marks, marks, ih, List.map_append]
      rfl
  | not operand ih => exact ih
  | index left right ih ih' | equality operator left right ih ih' | and left right ih ih'
  | or left right ih ih' =>
      rw [mapStrings, marks, marks, ih, ih', List.map_append]
      rfl

variable {change}

theorem mapStrings_injective (injective : Function.Injective change) :
    Function.Injective (mapStrings change) := by
  intro first
  induction first with
  | literal value =>
      intro second same
      cases second with
      | literal other => rw [Literal.mapString_injective injective (Tree.literal.inj same)]
      | _ => cases same
  | this =>
      intro second same
      cases second with
      | this => rfl
      | _ => cases same
  | identifier name =>
      intro second same
      cases second with
      | identifier other => exact same
      | _ => cases same
  | member object property ih =>
      intro second same
      cases second with
      | member object' property' =>
          rcases Tree.member.inj same with ⟨objects, rfl⟩
          rw [ih objects]
      | _ => cases same
  | index object key ih ih' =>
      intro second same
      cases second with
      | index object' key' =>
          rcases Tree.index.inj same with ⟨objects, keys⟩
          rw [ih objects, ih' keys]
      | _ => cases same
  | not operand ih =>
      intro second same
      cases second with
      | not operand' => rw [ih (Tree.not.inj same)]
      | _ => cases same
  | equality operator left right ih ih' =>
      intro second same
      cases second with
      | equality operator' left' right' =>
          rcases Tree.equality.inj same with ⟨rfl, lefts, rights⟩
          rw [ih lefts, ih' rights]
      | _ => cases same
  | and left right ih ih' =>
      intro second same
      cases second with
      | and left' right' =>
          rcases Tree.and.inj same with ⟨lefts, rights⟩
          rw [ih lefts, ih' rights]
      | _ => cases same
  | or left right ih ih' =>
      intro second same
      cases second with
      | or left' right' =>
          rcases Tree.or.inj same with ⟨lefts, rights⟩
          rw [ih lefts, ih' rights]
      | _ => cases same

end Tree

/-! ## Displays whose string literals are spelled out -/

/-- Whether what is displayed for a mark can be told from all else; strings always can. -/
def Mark.IsTold : Mark -> Prop
  | .literal (.number value) => exists x : Finite, value = .finite x ∧ x.negative = false
  | .literal _ => True
  | .name text => IsName text
  | .operator => True

theorem isShortlyShown_of_mem_shown {c d : Char} (member : d ∈ Text.shown c) :
    IsShortlyShown d := by
  have backslash : IsShortlyShown '\\' := by decide +kernel
  have letters : forall pair, pair ∈ Text.shortEscapes -> IsShortlyShown pair.2 := by
    decide +kernel
  have others : IsShortlyShown 'u' := by decide +kernel
  rcases Text.shown_cases c with ⟨letter, listed, shape⟩ | ⟨_, shape⟩ | shape
  · rw [shape] at member
    rcases List.mem_cons.mp member with rfl | behind
    · exact backslash
    · cases List.mem_singleton.mp behind
      exact letters _ listed
  · rw [shape] at member
    cases List.mem_singleton.mp member
    exact Or.inl shape
  · rw [shape] at member
    rcases List.mem_cons.mp member with rfl | member
    · exact backslash
    rcases List.mem_cons.mp member with rfl | digits
    · exact others
    · exact Or.inl (Text.shown_of_mem_digits digits)

/-- What is told can be written once its string is spelled out. -/
theorem Mark.IsTold.isWritable {mark : Mark} (told : mark.IsTold) :
    (mark.mapString Text.spelledOut).IsWritable := by
  cases mark with
  | name text => exact told
  | operator => trivial
  | literal value =>
      cases value with
      | string text =>
          intro c member
          rw [Text.spelledOut, String.toList_ofList] at member
          rcases List.mem_flatMap.mp member with ⟨_, _, inside⟩
          exact isShortlyShown_of_mem_shown inside
      | number value => exact told
      | _ => trivial

theorem respells_quoted (text : String) :
    Text.Respells (Text.quoted text) (Text.quoted (Text.spelledOut text)) := by
  have mark : Text.Respells ['"'] ['"'] := .single (by decide)
  have inside : forall cs : List Char, Text.Respells (cs.flatMap Text.shown)
      ((cs.flatMap Text.shown).flatMap Text.shown) := by
    intro cs
    induction cs with
    | nil => exact fun _ => rfl
    | cons c cs ih =>
        rw [List.flatMap_cons, List.flatMap_append]
        exact (Text.Respells.shown c).append ih
  rw [Text.quoted, Text.quoted, Text.spelledOut, String.toList_ofList]
  exact (mark.append (inside text.toList)).append mark

theorem isNamePart_backslash : isNamePart '\\' = false := by
  decide +kernel

theorem IsName.free_of_backslash {name : String} (named : IsName name) :
    '\\' ∉ name.toList := by
  rcases named.word with ⟨c, tail, shape, start, _, parts⟩
  rw [shape]
  intro member
  have part : isNamePart '\\' = true := by
    rcases List.mem_cons.mp member with rfl | inside
    · exact isNamePart_of_isNameStart start
    · exact parts _ inside
  rw [isNamePart_backslash] at part
  cases part

theorem plainText_free_of_backslash {x : Finite} (positive : x.negative = false) :
    '\\' ∉ x.plainText := by
  rcases x.exists_plainText with ⟨whole, fraction, text, _, digits, digits', _⟩
  have unsigned : x.plainText = whole ++ Double.pointed fraction := by
    rw [text, Finite.sign, positive]
    rfl
  rw [unsigned]
  intro member
  have digit : ('\\' : Char).isDigit = false := rfl
  rcases List.mem_append.mp member with front | behind
  · rw [digits _ front] at digit
    cases digit
  · rw [Double.pointed] at behind
    split at behind
    · cases behind
    · rcases List.mem_cons.mp behind with same | inside
      · cases same
      · rw [digits' _ inside] at digit
        cases digit

/-- With its string literals spelled out, a tree is displayed as its display shown again. -/
theorem respells_display (tree : Tree) (told : forall mark, mark ∈ tree.marks -> mark.IsTold) :
    Text.Respells tree.display (tree.mapStrings Text.spelledOut).display := by
  have plain (text : List Char) (free : '\\' ∉ text) : Text.Respells text text := .plain free
  have grouped {left right left' right' : List Char} {operator : String}
      (first : Text.Respells left left') (second : Text.Respells right right')
      (free : '\\' ∉ operator.toList) :
      Text.Respells (Tree.parenthesized left operator right)
        (Tree.parenthesized left' operator right') := by
    have blank : Text.Respells [' '] [' '] := .single (by decide)
    have whole := ((((((plain ['('] (by decide)).append first).append blank).append
      (plain _ free)).append blank).append second).append (plain [')'] (by decide))
    simpa [Tree.parenthesized] using whole
  induction tree with
  | literal value =>
      have known := told _ List.mem_cons_self
      cases value with
      | string text => exact respells_quoted text
      | number value =>
          rcases known with ⟨x, rfl, positive⟩
          exact plain _ (plainText_free_of_backslash positive)
      | boolean value => cases value <;> exact plain _ (by decide)
      | null => exact plain _ (by decide)
      | undefined => exact plain _ (by decide)
  | this => exact plain _ (by decide)
  | identifier name => exact plain _ (IsName.free_of_backslash (told _ List.mem_cons_self))
  | member object property ih =>
      rw [Tree.marks, List.forall_mem_append, List.forall_mem_cons] at told
      have named : IsName property := told.2.2 (.name property) List.mem_cons_self
      have point := plain ['.'] (by decide)
      exact (ih told.1).append (point.append (plain _ named.free_of_backslash))
  | index object key ih ih' =>
      rw [Tree.marks, List.forall_mem_append, List.forall_mem_cons] at told
      have whole := (((ih told.1).append (plain ['['] (by decide))).append (ih' told.2.2)).append
        (plain [']'] (by decide))
      simpa [Tree.display, Tree.mapStrings] using whole
  | not operand ih => exact (plain ['!'] (by decide)).append (ih told)
  | equality operator left right ih ih' =>
      rw [Tree.marks, List.forall_mem_append, List.forall_mem_cons] at told
      exact grouped (ih told.1) (ih' told.2.2) (by cases operator <;> decide)
  | and left right ih ih' | or left right ih ih' =>
      rw [Tree.marks, List.forall_mem_append, List.forall_mem_cons] at told
      exact grouped (ih told.1) (ih' told.2.2) (by decide)

/-- Trees without negated objects are told by their displays. -/
theorem display_injective_of_plain {tree tree' : Tree}
    (told : forall mark, mark ∈ tree.marks -> mark.IsTold)
    (told' : forall mark, mark ∈ tree'.marks -> mark.IsTold)
    (plain : tree.hasPlainObjects = true) (plain' : tree'.hasPlainObjects = true)
    (same : tree.display = tree'.display) : tree = tree' := by
  have derived (tree : Tree) (told : forall mark, mark ∈ tree.marks -> mark.IsTold)
      (plain : tree.hasPlainObjects = true) :
      exists derivation : Derivation .expression,
        derivation.tree = tree.mapStrings Text.spelledOut ∧
        lexemes (Text.shownAgain tree.display) = derivation.yield ++ [.endOfInput] := by
    have writable : forall mark, mark ∈ (tree.mapStrings Text.spelledOut).marks ->
        mark.IsWritable := by
      rw [tree.marks_mapStrings]
      intro mark member
      rcases List.mem_map.mp member with ⟨origin, listed, rfl⟩
      exact (told origin listed).isWritable
    have shown := isShown (tree.mapStrings Text.spelledOut) writable
      ((tree.hasPlainObjects_mapStrings _).trans plain)
    rcases exists_negation shown with ⟨operand, operandShows⟩
    refine ⟨operand.asExpression, operandShows.same, ?_⟩
    have read := operandShows.writes.read [] apart_nil
    rw [List.append_nil, lexemes_nil] at read
    rw [(respells_display tree told).shownAgain, operand.yield_asExpression]
    exact read
  rcases derived tree told plain with ⟨derivation, origin, spelled⟩
  rcases derived tree' told' plain' with ⟨derivation', origin', spelled'⟩
  rw [same, spelled'] at spelled
  have yields := List.append_cancel_right spelled
  cases Derivation.yield_injective yields
  exact Tree.mapStrings_injective Text.spelledOut_injective (origin.symm.trans origin')

/-! ## The shape of a tree -/

namespace Tree

/-- An access to a tree that leaves its negations outside. -/
def accessed (access : Tree -> Tree) : Tree -> Tree
  | .not operand => .not (operand.accessed access)
  | object => access object

/-- A number that is too large for a double. -/
def tooLarge : Literal := .number (.infinite false)

/-- The name that it is displayed like. -/
def infinityName : String := "inf"

/-- A tree with negations moved out of objects and numbers that are too large taken for names. -/
def shape : Tree -> Tree
  | .literal value => if value = tooLarge then .identifier infinityName else .literal value
  | .this => .this
  | .identifier name => .identifier name
  | .member object property => object.shape.accessed (.member · property)
  | .index object key => object.shape.accessed (.index · key.shape)
  | .not operand => .not operand.shape
  | .equality operator left right => .equality operator left.shape right.shape
  | .and left right => .and left.shape right.shape
  | .or left right => .or left.shape right.shape

section Accessed

variable {access : Tree -> Tree}

theorem accessed_of_plain {tree : Tree} (plain : tree.isNegation = false) :
    tree.accessed access = access tree := by
  cases tree with
  | not operand => cases plain
  | _ => rfl

theorem display_accessed
    (moved : forall operand, (access (.not operand)).display = '!' :: (access operand).display)
    (tree : Tree) : (tree.accessed access).display = (access tree).display := by
  induction tree with
  | not operand ih => rw [accessed, display, ih, moved]
  | _ => rfl

theorem marks_accessed (more : List Mark)
    (added : forall object, (access object).marks = object.marks ++ more) (tree : Tree) :
    (tree.accessed access).marks = tree.marks ++ more := by
  induction tree with
  | not operand ih => exact ih
  | _ => exact added _

theorem hasPlainObjects_accessed {others : Bool}
    (kept : forall object, object.isNegation = false ->
      (access object).hasPlainObjects = (object.hasPlainObjects && others))
    (tree : Tree) :
    (tree.accessed access).hasPlainObjects = (tree.hasPlainObjects && others) := by
  induction tree with
  | not operand ih => exact ih
  | _ => exact kept _ rfl

end Accessed

/-- The display tells nothing but the shape. -/
theorem display_shape (tree : Tree) : tree.shape.display = tree.display := by
  induction tree with
  | literal value =>
      rw [shape]
      split
      · next same =>
          rw [same]
          rfl
      · rfl
  | this => rfl
  | identifier name => rfl
  | member object property ih =>
      rw [shape, display_accessed fun _ => rfl, display, display, ih]
  | not operand ih => rw [shape, display, display, ih]
  | index object key ih ih' =>
      rw [shape, display_accessed fun _ => rfl, display, display, ih, ih']
  | equality operator left right ih ih' | and left right ih ih' | or left right ih ih' =>
      rw [shape, display, display, ih, ih']

theorem hasPlainObjects_shape (tree : Tree) : tree.shape.hasPlainObjects = true := by
  induction tree with
  | literal value =>
      rw [shape]
      split <;> rfl
  | this => rfl
  | identifier name => rfl
  | member object property ih =>
      have kept (object : Tree) (plain : object.isNegation = false) :
          (member object property).hasPlainObjects = (object.hasPlainObjects && true) := by
        rw [hasPlainObjects, plain, Bool.not_false, Bool.true_and, Bool.and_true]
      rw [shape, hasPlainObjects_accessed kept, ih, Bool.and_true]
  | index object key ih ih' =>
      have kept (object : Tree) (plain : object.isNegation = false) :
          (index object key.shape).hasPlainObjects = (object.hasPlainObjects && true) := by
        rw [hasPlainObjects, plain, ih', Bool.not_false, Bool.true_and]
      rw [shape, hasPlainObjects_accessed kept, ih, Bool.and_true]
  | not operand ih => exact ih
  | equality operator left right ih ih' | and left right ih ih' | or left right ih ih' =>
      rw [shape, hasPlainObjects, ih, ih', Bool.and_true]

end Tree

/-- A mark in which a number that is too large is taken for a name. -/
def Mark.shape : Mark -> Mark
  | .literal value => if value = Tree.tooLarge then .name Tree.infinityName else .literal value
  | mark => mark

theorem Tree.marks_shape (tree : Tree) : tree.shape.marks = tree.marks.map Mark.shape := by
  induction tree with
  | literal value =>
      rw [shape, marks, List.map_singleton, Mark.shape]
      split <;> rfl
  | this => rfl
  | identifier name => rfl
  | member object property ih =>
      rw [shape, marks_accessed [.operator, .name property] fun _ => rfl, ih, marks,
        List.map_append]
      rfl
  | index object key ih ih' =>
      rw [shape, marks_accessed (.operator :: key.shape.marks) fun _ => rfl, ih, ih', marks,
        List.map_append]
      rfl
  | not operand ih => exact ih
  | equality operator left right ih ih' | and left right ih ih' | or left right ih ih' =>
      rw [shape, marks, marks, ih, ih', List.map_append]
      rfl

theorem isName_infinityName : IsName Tree.infinityName where
  word := ⟨'i', ['n', 'f'], rfl, by decide +kernel, rfl, List.all_eq_true.mp (by decide +kernel)⟩
  free := by decide

/-- What is left of the marks of a tree that was read is told by its display. -/
theorem isTold_shape_of_parse {source : String} {tree : Tree}
    (parsed : Tree.parse source = .ok tree) :
    forall mark, mark ∈ tree.shape.marks -> mark.IsTold := by
  rw [tree.marks_shape]
  intro mark member
  rcases List.mem_map.mp member with ⟨origin, kept, rfl⟩
  rcases exists_lexeme_of_mark parsed kept with ⟨lexeme, listed, left⟩
  cases origin with
  | operator => trivial
  | name text =>
      rw [Lexeme.eq_of_mark?_name left] at listed
      exact isName_of_mem listed
  | literal value =>
      cases value with
      | number value =>
          rcases Lexeme.exists_of_mark?_number left with ⟨digits, rfl, read⟩
          rcases ofText?_of_number_mem listed with ⟨whole, fraction, spelled⟩
          have same : value = Double.ofDigits false whole fraction 0 :=
            Option.some.inj (read.symm.trans spelled)
          rcases Double.ofDigits_cases false whole fraction 0 with ⟨x, finite⟩ | infinite
          · rw [same, finite]
            exact ⟨x, rfl, Double.negative_of_ofDigits finite⟩
          · rw [same, infinite]
            exact isName_infinityName
      | _ => trivial

/-! ## Trees that are displayed alike -/

/-- A tree whose display loses nothing. -/
structure Tree.IsPlain (tree : Tree) : Prop where
  objects : tree.hasPlainObjects = true
  finite : .literal tooLarge ∉ tree.marks

theorem Tree.IsPlain.shape_eq {tree : Tree} (plain : tree.IsPlain) : tree.shape = tree := by
  rcases plain with ⟨objects, finite⟩
  induction tree with
  | literal value =>
      have other : value ≠ tooLarge := fun same => finite (same ▸ List.mem_cons_self)
      rw [shape, if_neg other]
  | this => rfl
  | identifier name => rfl
  | member object property ih =>
      rw [hasPlainObjects, Bool.and_eq_true, Bool.not_eq_true'] at objects
      rw [marks, List.mem_append, not_or] at finite
      rw [shape, ih objects.2 finite.1, accessed_of_plain objects.1]
  | index object key ih ih' =>
      rw [hasPlainObjects, Bool.and_eq_true, Bool.and_eq_true, Bool.not_eq_true'] at objects
      rw [marks, List.mem_append, not_or] at finite
      have behind := List.not_mem_of_not_mem_cons finite.2
      rw [shape, ih objects.1.2 finite.1, ih' objects.2 behind, accessed_of_plain objects.1.1]
  | not operand ih => rw [shape, ih objects finite]
  | equality operator left right ih ih' | and left right ih ih' | or left right ih ih' =>
      rw [hasPlainObjects, Bool.and_eq_true] at objects
      rw [marks, List.mem_append, not_or] at finite
      rw [shape, ih objects.1 finite.1, ih' objects.2 (List.not_mem_of_not_mem_cons finite.2)]

/--
Two trees that were read are displayed alike exactly if they have the same shape.  Different trees
are displayed differently if no access has a negation as its object and no number is too large.
-/
theorem displayed_alike_iff_same_shape {source source' : String} {tree tree' : Tree}
    (parsed : Tree.parse source = .ok tree) (parsed' : Tree.parse source' = .ok tree') :
    (tree.text = tree'.text <-> tree.shape = tree'.shape) ∧
      (tree.IsPlain -> tree'.IsPlain -> tree ≠ tree' -> tree.text ≠ tree'.text) := by
  have alike : tree.text = tree'.text <-> tree.shape = tree'.shape := by
    constructor
    · intro same
      apply display_injective_of_plain (isTold_shape_of_parse parsed)
        (isTold_shape_of_parse parsed') tree.hasPlainObjects_shape tree'.hasPlainObjects_shape
      rw [tree.display_shape, tree'.display_shape]
      exact String.ofList_injective same
    · intro same
      rw [Tree.text, Tree.text, <- tree.display_shape, <- tree'.display_shape, same]
  refine ⟨alike, fun plain plain' different same => different ?_⟩
  rw [<- plain.shape_eq, <- plain'.shape_eq]
  exact alike.mp same

/-- A negation that is accessed. -/
def negatedObject : Tree :=
  .member (.not (.identifier "a")) "b"

/-- The negation of an access. -/
def negatedAccess : Tree :=
  .not (.member (.identifier "a") "b")

/-- A comparison with a character that is shown by its code point. -/
def comparedWithBell : Tree :=
  .equality .equal negatedAccess (.literal (.string "\x07"))

theorem parse_negatedObject : Tree.parse "(!a).b" = .ok negatedObject := by
  decide +kernel

theorem parse_negatedAccess : Tree.parse "!a.b" = .ok negatedAccess := by
  decide +kernel

theorem displayed_alike_negated :
    Tree.parse "(!a).b" = .ok negatedObject ∧ Tree.parse "!a.b" = .ok negatedAccess ∧
      negatedObject.text = negatedAccess.text ∧
      Tree.parse "!a.b == '\\u0007'" = .ok comparedWithBell ∧
      negatedAccess.text ≠ comparedWithBell.text := by
  have parsed : Tree.parse "!a.b == '\\u0007'" = .ok comparedWithBell := by decide +kernel
  have alike := (displayed_alike_iff_same_shape parse_negatedObject parse_negatedAccess).1
  have apart := (displayed_alike_iff_same_shape parse_negatedAccess parsed).2
  exact ⟨parse_negatedObject, parse_negatedAccess, alike.mpr (by decide), parsed,
    apart ⟨by decide, by decide⟩ ⟨by decide, by decide⟩ (by decide)⟩

/-- Different trees can be displayed alike. -/
theorem display_hides_negated_object :
    Tree.parse "(!a).b" = .ok negatedObject ∧ Tree.parse "!a.b" = .ok negatedAccess ∧
      negatedObject ≠ negatedAccess ∧ negatedObject.text = "!a.b" ∧
      negatedAccess.text = "!a.b" :=
  ⟨parse_negatedObject, parse_negatedAccess, by decide, by decide +kernel, by decide +kernel⟩

end Script
end ContactSearch
