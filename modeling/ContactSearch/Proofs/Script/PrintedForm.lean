import ContactSearch.Proofs.Number.ReadBack
import ContactSearch.Proofs.Script.Assembly
import ContactSearch.Proofs.Script.DepthLimit
import ContactSearch.Proofs.Script.Marks
import ContactSearch.Proofs.Script.Writing

namespace ContactSearch
namespace Script

/-!
# Displayed trees are read back

The display of a tree writes parentheses around every binary node and nowhere
else, so it opens levels of its own while its operators stay the same.  Two
things get lost in it.  A negation that is the object of an access is displayed
as the negation of that access, and a character that is shown by its code point
is shown in a form that string literals do not have.  Where neither occurs, the
display is a text of the tree that it was made from, and only its levels can
keep it from being read.

The proof gives a derivation whose tokens are those of the display, by
induction on the tree.  A negation is an operand of the binary operators as it
stands, but no object, so what is derived depends on the root of the tree.
-/

/-! ## Shapes of trees -/

namespace Tree

/-- Whether the root of a tree is a negation. -/
def isNegation : Tree -> Bool
  | .not _ => true
  | _ => false

/-- Whether no access in a tree has a negation as its object. -/
def hasPlainObjects : Tree -> Bool
  | .literal _ => true
  | .this => true
  | .identifier _ => true
  | .member object _ => !object.isNegation && object.hasPlainObjects
  | .index object key => !object.isNegation && object.hasPlainObjects && key.hasPlainObjects
  | .not operand => operand.hasPlainObjects
  | .equality _ left right => left.hasPlainObjects && right.hasPlainObjects
  | .and left right => left.hasPlainObjects && right.hasPlainObjects
  | .or left right => left.hasPlainObjects && right.hasPlainObjects

/-- How many parentheses, brackets and negation signs of the display are open at once. -/
def nesting : Tree -> Nat
  | .literal _ => 0
  | .this => 0
  | .identifier _ => 0
  | .member object _ => object.nesting
  | .index object key => max object.nesting (key.nesting + 1)
  | .not operand => operand.nesting + 1
  | .equality _ left right => max left.nesting right.nesting + 1
  | .and left right => max left.nesting right.nesting + 1
  | .or left right => max left.nesting right.nesting + 1

/-- The levels that the display opens; the whole expression is one of them. -/
def levels (tree : Tree) : Nat :=
  tree.nesting + 1

/-- What the display of a tree is derived as. -/
def category : Tree -> Category
  | .not _ => .negation
  | _ => .access

end Tree

namespace Sign

variable {level : Level} (sign : Sign level) (left right : Tree)

theorem display_combine :
    (sign.combine left right).display =
      Tree.parenthesized left.display sign.symbol.text right.display := by
  cases sign with
  | or => rfl
  | and => rfl
  | equality operator => cases operator <;> rfl

theorem nesting_combine :
    (sign.combine left right).nesting = max left.nesting right.nesting + 1 := by
  cases sign <;> rfl

theorem hasPlainObjects_combine :
    (sign.combine left right).hasPlainObjects =
      (left.hasPlainObjects && right.hasPlainObjects) := by
  cases sign <;> rfl

end Sign

/-! ## Marks that can be displayed and read again -/

/-- Whether what is displayed for a mark is a token for the same mark. -/
def Mark.IsWritable : Mark -> Prop
  | .literal (.string text) => forall c, c ∈ text.toList -> IsShortlyShown c
  | .literal (.number value) => exists x : Finite, value = .finite x ∧ x.negative = false
  | .literal _ => True
  | .name text => IsName text
  | .operator => True

/-- Every mark of a tree that was read comes from a token of the script. -/
theorem exists_lexeme_of_mark {source : String} {tree : Tree} {mark : Mark}
    (parsed : Tree.parse source = .ok tree) (member : mark ∈ tree.marks) :
    exists lexeme, lexeme ∈ lexemes source.toList ∧ lexeme.mark? = some mark := by
  rcases parse_eq_ok_iff.mp parsed with ⟨derivation, spelled, rfl, _, _⟩
  rw [derivation.marks_tree] at member
  rcases List.mem_filterMap.mp member with ⟨lexeme, listed, left⟩
  exact ⟨lexeme, spelled ▸ List.mem_append_left _ listed, left⟩

theorem Lexeme.eq_of_mark?_name {lexeme : Lexeme} {name : String}
    (left : lexeme.mark? = some (.name name)) : lexeme = .identifier name := by
  cases lexeme with
  | identifier other =>
      cases left
      rfl
  | number digits => cases spelled : Double.ofText? digits.toList <;> simp [mark?, spelled] at left
  | keyword word => cases word <;> cases left
  | symbol mark => cases mark <;> cases left
  | _ => cases left

theorem Lexeme.exists_of_mark?_number {lexeme : Lexeme} {value : Double}
    (left : lexeme.mark? = some (.literal (.number value))) :
    exists digits, lexeme = .number digits ∧ Double.ofText? digits.toList = some value := by
  cases lexeme with
  | number digits =>
      rw [mark?, Option.map_eq_some_iff] at left
      rcases left with ⟨_, spelled, same⟩
      cases same
      exact ⟨digits, rfl, spelled⟩
  | keyword word => cases word <;> cases left
  | symbol mark => cases mark <;> cases left
  | _ => cases left

/-- The names of a tree that was read can be read again, and its numbers are not negated. -/
theorem isWritable_of_parse {source : String} {tree : Tree}
    (parsed : Tree.parse source = .ok tree)
    (short : forall text, .literal (.string text) ∈ tree.marks ->
      forall c, c ∈ text.toList -> IsShortlyShown c)
    (finite : forall value, .literal (.number value) ∈ tree.marks ->
      exists x : Finite, value = .finite x) :
    forall mark, mark ∈ tree.marks -> mark.IsWritable := by
  intro mark member
  rcases exists_lexeme_of_mark parsed member with ⟨lexeme, listed, left⟩
  cases mark with
  | operator => trivial
  | name text =>
      rw [Lexeme.eq_of_mark?_name left] at listed
      exact isName_of_mem listed
  | literal value =>
      cases value with
      | string text => exact short text member
      | number value =>
          rcases finite value member with ⟨x, rfl⟩
          rcases Lexeme.exists_of_mark?_number left with ⟨digits, rfl, read⟩
          rcases ofText?_of_number_mem listed with ⟨whole, fraction, spelled⟩
          have same := Option.some.inj (spelled.symm.trans read)
          exact ⟨x, rfl, Double.negative_of_ofDigits same⟩
      | _ => trivial

/-! ## Displays as tokens -/

/-- A text that is read as the given tokens in front of what adds nothing to it. -/
structure Writes (text : List Char) (yield : List Lexeme) : Prop where
  front : exists c rest, text = c :: rest ∧ c ≠ '='
  read : forall behind, Apart behind -> lexemes (text ++ behind) = yield ++ lexemes behind

theorem writes_word {text : String} (word : IsWord text) :
    Writes text.toList [wordLexeme text] := by
  constructor
  · rcases word with ⟨c, tail, shape, start, _, _⟩
    refine ⟨c, tail, shape, ?_⟩
    rintro rfl
    cases start
  · exact fun behind apart => lexemes_word word apart

theorem writes_keyword (keyword : Keyword) :
    Writes keyword.text.toList [.keyword keyword] := by
  have word := writes_word (isWord_keyword keyword)
  rwa [wordLexeme_keyword] at word

theorem writes_quoted {text : String} (short : forall c, c ∈ text.toList -> IsShortlyShown c) :
    Writes (Text.quoted text) [.string text] :=
  ⟨⟨_, _, rfl, by decide⟩, fun behind _ => lexemes_quoted short behind⟩

/-- The plain text of a number that is not negated is a numeral for it. -/
theorem exists_writes_plainText {x : Finite} (positive : x.negative = false) :
    exists digits, Double.ofText? digits.toList = some (.finite x) ∧
      Writes x.plainText [.number digits] := by
  refine ⟨String.ofList x.plainText, ?_, ?_⟩
  · rw [String.toList_ofList]
    exact x.ofText?_plainText
  · rcases x.exists_plainText with ⟨whole, fraction, text, present, digits, digits', _⟩
    rw [Finite.sign, positive] at text
    change x.plainText = whole ++ Double.pointed fraction at text
    rw [text]
    constructor
    · cases whole with
      | nil => exact absurd rfl present
      | cons c whole =>
          refine ⟨c, whole ++ Double.pointed fraction, rfl, ?_⟩
          rintro rfl
          cases digits '=' List.mem_cons_self
    · exact fun behind apart => lexemes_numeral present digits digits' apart

/-- A literal that can be written is displayed as a token that spells it. -/
theorem exists_spelling {value : Literal} (writable : (Mark.literal value).IsWritable) :
    exists lexeme, Spells lexeme value ∧ Writes value.display [lexeme] := by
  cases value with
  | string text => exact ⟨.string text, .string text, writes_quoted writable⟩
  | number value =>
      rcases writable with ⟨x, rfl, positive⟩
      rcases exists_writes_plainText positive with ⟨digits, read, writes⟩
      exact ⟨.number digits, .number read, writes⟩
  | boolean value =>
      cases value with
      | true => exact ⟨.keyword .true, .true, writes_keyword .true⟩
      | false => exact ⟨.keyword .false, .false, writes_keyword .false⟩
  | null => exact ⟨.keyword .null, .null, writes_keyword .null⟩
  | undefined => exact ⟨.keyword .undefined, .undefined, writes_keyword .undefined⟩

section Writes

variable {text left right : List Char} {yield first second : List Lexeme}

theorem Writes.not (writes : Writes text yield) :
    Writes ('!' :: text) (.symbol .bang :: yield) := by
  refine ⟨⟨_, _, rfl, by decide⟩, ?_⟩
  intro behind apart
  rcases writes.front with ⟨c, rest, rfl, notEqual⟩
  have stops : (c :: rest ++ behind).head? ≠ some '=' := fun same =>
    notEqual (Option.some.inj same)
  rw [List.cons_append, lexemes_of_valid rfl (first_bang stops) rfl, List.drop_zero,
    writes.read behind apart, List.cons_append]

theorem Writes.member (writes : Writes text yield) {property : String} (name : IsName property) :
    Writes (text ++ '.' :: property.toList)
      (yield ++ [.symbol .dot, .identifier property]) := by
  constructor
  · rcases writes.front with ⟨c, rest, rfl, notEqual⟩
    exact ⟨c, _, List.cons_append, notEqual⟩
  · intro behind apart
    have point : Apart ('.' :: (property.toList ++ behind)) := by
      rcases name.word with ⟨c, tail, shape, _, notDigit, _⟩
      rw [shape]
      exact apart_point notDigit _
    rw [List.append_assoc, List.cons_append, writes.read _ point,
      lexemes_delimiter '.' .dot (by decide), lexemes_word name.word apart, name.lexeme,
      List.append_assoc]
    rfl

theorem Writes.index (object : Writes left first) (key : Writes right second) :
    Writes (left ++ '[' :: right ++ [']'])
      (first ++ .symbol .openBracket :: (second ++ [.symbol .closeBracket])) := by
  constructor
  · rcases object.front with ⟨c, rest, rfl, notEqual⟩
    exact ⟨c, _, rfl, notEqual⟩
  · intro behind _
    have opened : Apart ('[' :: (right ++ ']' :: behind)) := apart_of_mem (by decide) _
    have closed : Apart (']' :: behind) := apart_of_mem (by decide) _
    simp only [List.append_assoc, List.cons_append, List.nil_append]
    rw [object.read _ opened, lexemes_delimiter '[' .openBracket (by decide), key.read _ closed,
      lexemes_delimiter ']' .closeBracket (by decide)]

theorem Writes.grouped {level : Level} (sign : Sign level) (writes : Writes left first)
    (writes' : Writes right second) :
    Writes (Tree.parenthesized left sign.symbol.text right)
      (.symbol .openParen ::
        (first ++ .symbol sign.symbol :: (second ++ [.symbol .closeParen]))) := by
  refine ⟨⟨_, _, rfl, by decide⟩, ?_⟩
  intro behind _
  have blank (rest : List Char) : Apart (' ' :: rest) := apart_of_mem (by decide) rest
  have closed : Apart (')' :: behind) := apart_of_mem (by decide) behind
  have passed (rest : List Char) : lexemes (' ' :: rest) = lexemes rest := lexemes_of_blank rfl
  simp only [Tree.parenthesized, List.append_assoc, List.cons_append, List.nil_append]
  rw [lexemes_delimiter '(' .openParen (by decide), writes.read _ (blank _), passed,
    sign.lexemes_text, writes'.read _ closed, lexemes_delimiter ')' .closeParen (by decide)]

end Writes

/-! ## Derivations of displays -/

/-- A derivation of a tree whose tokens are those of the tree's display. -/
structure Derivation.Shows {category : Category} (derivation : Derivation category)
    (tree : Tree) : Prop where
  same : derivation.tree = tree
  flat : derivation.depth = tree.nesting
  writes : Writes tree.display derivation.yield

namespace Derivation

namespace Shows

variable {tree : Tree}

/-- What stands for itself, with nothing accessed. -/
theorem operand {operand : Derivation .operand} (same : operand.tree = tree)
    (flat : operand.depth = tree.nesting) (writes : Writes tree.display operand.yield) :
    (access operand .accessEnd).Shows tree where
  same := same
  flat := by rw [depth, Continuation.depth, Nat.max_zero, flat]
  writes := by rwa [yield, Continuation.yield, List.append_nil]

theorem not {operand : Derivation .negation} (operandShows : operand.Shows tree) :
    (Derivation.not operand).Shows (.not tree) where
  same := congrArg Tree.not operandShows.same
  flat := congrArg Nat.succ operandShows.flat
  writes := operandShows.writes.not

theorem plain {access : Derivation .access} (accessShows : access.Shows tree) :
    (Derivation.plain access).Shows tree :=
  ⟨accessShows.same, accessShows.flat, accessShows.writes⟩

theorem member {object : Derivation .access} {property : String}
    (objectShows : object.Shows tree) (name : IsName property) :
    (object.accessedBy (.member property .accessEnd)).Shows (.member tree property) where
  same := by rw [tree_accessedBy, objectShows.same, Continuation.extend, Continuation.extend]
  flat := by
    rw [depth_accessedBy, objectShows.flat, Continuation.depth, Continuation.depth, Nat.max_zero,
      Tree.nesting]
  writes := by
    rw [yield_accessedBy, Continuation.yield, Continuation.yield]
    exact objectShows.writes.member name

theorem index {object : Derivation .access} {key : Derivation .negation} {keyTree : Tree}
    (objectShows : object.Shows tree) (keyShows : key.Shows keyTree) :
    (object.accessedBy (.index key.asExpression .accessEnd)).Shows (.index tree keyTree) where
  same := by
    rw [tree_accessedBy, objectShows.same, Continuation.extend, Continuation.extend,
      tree_asExpression, keyShows.same]
  flat := by
    rw [depth_accessedBy, objectShows.flat, Continuation.depth, Continuation.depth, Nat.max_zero,
      depth_asExpression, keyShows.flat, Tree.nesting]
  writes := by
    rw [yield_accessedBy, Continuation.yield, Continuation.yield, yield_asExpression]
    exact objectShows.writes.index keyShows.writes

theorem grouped {level : Level} (sign : Sign level) {left right : Derivation .negation}
    {first second : Tree} (leftShows : left.Shows first) (rightShows : right.Shows second) :
    (Derivation.grouped sign left right).Shows (sign.combine first second) where
  same := by rw [tree_grouped, leftShows.same, rightShows.same]
  flat := by rw [depth_grouped, leftShows.flat, rightShows.flat, sign.nesting_combine]
  writes := by
    rw [yield_grouped, sign.display_combine]
    exact leftShows.writes.grouped sign rightShows.writes

end Shows
end Derivation

/-- Whatever the root of a tree is, its display can be derived as a negation. -/
theorem exists_negation {tree : Tree}
    (shown : exists derivation : Derivation tree.category, derivation.Shows tree) :
    exists negation : Derivation .negation, negation.Shows tree := by
  rcases shown with ⟨derivation, derivationShows⟩
  cases tree with
  | not operand => exact ⟨derivation, derivationShows⟩
  | _ => exact ⟨.plain derivation, derivationShows.plain⟩

/-- The display of anything but a negation can be derived as an object. -/
theorem exists_access {tree : Tree} (plain : tree.isNegation = false)
    (shown : exists derivation : Derivation tree.category, derivation.Shows tree) :
    exists access : Derivation .access, access.Shows tree := by
  rcases shown with ⟨derivation, derivationShows⟩
  cases tree with
  | not operand => cases plain
  | _ => exact ⟨derivation, derivationShows⟩

/-- Whether the display of a tree can be derived when its marks can be written. -/
def Tree.IsShown (tree : Tree) : Prop :=
  (forall mark, mark ∈ tree.marks -> mark.IsWritable) -> tree.hasPlainObjects = true ->
    exists derivation : Derivation tree.category, derivation.Shows tree

theorem exists_grouped {level : Level} (sign : Sign level) {left right : Tree}
    (leftShown : left.IsShown) (rightShown : right.IsShown)
    (writable : forall mark, mark ∈ (sign.combine left right).marks -> mark.IsWritable)
    (plain : (sign.combine left right).hasPlainObjects = true) :
    exists derivation : Derivation .access, derivation.Shows (sign.combine left right) := by
  rw [sign.marks_combine, List.forall_mem_append, List.forall_mem_cons] at writable
  rw [sign.hasPlainObjects_combine, Bool.and_eq_true] at plain
  rcases exists_negation (leftShown writable.1 plain.1) with ⟨first, firstShows⟩
  rcases exists_negation (rightShown writable.2.2 plain.2) with ⟨second, secondShows⟩
  exact ⟨_, .grouped sign firstShows secondShows⟩

/-- A tree without negated objects has a derivation from its own display. -/
theorem isShown (tree : Tree) : tree.IsShown := by
  induction tree with
  | literal value =>
      intro writable _
      rcases exists_spelling (writable _ List.mem_cons_self) with ⟨lexeme, spelled, writes⟩
      exact ⟨.access (.literal lexeme value spelled) .accessEnd, .operand rfl rfl writes⟩
  | this =>
      intro _ _
      exact ⟨.access .this .accessEnd, .operand rfl rfl (writes_keyword .this)⟩
  | identifier name =>
      intro writable _
      have free : IsName name := writable _ List.mem_cons_self
      have writes := writes_word free.word
      rw [free.lexeme] at writes
      exact ⟨.access (.identifier name) .accessEnd, .operand rfl rfl writes⟩
  | member object property ih =>
      intro writable plain
      rw [Tree.marks, List.forall_mem_append, List.forall_mem_cons] at writable
      rw [Tree.hasPlainObjects, Bool.and_eq_true, Bool.not_eq_true'] at plain
      have free : IsName property := writable.2.2 (.name property) List.mem_cons_self
      rcases exists_access plain.1 (ih writable.1 plain.2) with ⟨derivation, objectShows⟩
      exact ⟨_, objectShows.member free⟩
  | index object key ih ih' =>
      intro writable plain
      rw [Tree.marks, List.forall_mem_append, List.forall_mem_cons] at writable
      rw [Tree.hasPlainObjects, Bool.and_eq_true, Bool.and_eq_true, Bool.not_eq_true'] at plain
      rcases exists_access plain.1.1 (ih writable.1 plain.1.2) with ⟨derivation, objectShows⟩
      rcases exists_negation (ih' writable.2.2 plain.2) with ⟨keyDerivation, keyShows⟩
      exact ⟨_, objectShows.index keyShows⟩
  | not operand ih =>
      intro writable plain
      rcases exists_negation (ih writable plain) with ⟨derivation, operandShows⟩
      exact ⟨.not derivation, operandShows.not⟩
  | equality operator left right ih ih' => exact exists_grouped (.equality operator) ih ih'
  | and left right ih ih' => exact exists_grouped .and ih ih'
  | or left right ih ih' => exact exists_grouped .or ih ih'

/-! ## Reading the display -/

theorem operatorCount_le_of_parse {source : String} {tree : Tree}
    (parsed : Tree.parse source = .ok tree) : tree.operatorCount ≤ maxOperators := by
  rcases parse_eq_ok_iff.mp parsed with ⟨derivation, _, rfl, _, few⟩
  rw [derivation.operatorCount_tree]
  exact few

/--
A tree that was read, that has no negation as the object of an access, whose strings are shown
raw or by short escapes and whose numbers are finite, is read back from its display as long as
the display opens at most 200 levels.  Otherwise the display is refused as nested too deeply.
-/
theorem displayed_tree_reads_back {source : String} {tree : Tree}
    (parsed : Tree.parse source = .ok tree) (plain : tree.hasPlainObjects = true)
    (short : forall text, .literal (.string text) ∈ tree.marks ->
      forall c, c ∈ text.toList -> IsShortlyShown c)
    (finite : forall value, .literal (.number value) ∈ tree.marks ->
      exists x : Finite, value = .finite x) :
    Tree.parse tree.text = if tree.levels ≤ 200 then .ok tree else .error .tooDeep := by
  have writable := isWritable_of_parse parsed short finite
  rcases exists_negation (isShown tree writable plain) with ⟨operand, operandShows⟩
  have spelled : lexemes tree.text.toList = operand.asExpression.yield ++ [.endOfInput] := by
    have read := operandShows.writes.read [] apart_nil
    rw [List.append_nil, lexemes_nil] at read
    rw [Tree.text, String.toList_ofList, operand.yield_asExpression]
    exact read
  have same : operand.asExpression.tree = tree := operandShows.same
  have depth : operand.asExpression.depth = tree.levels := by
    rw [operand.depth_asExpression, operandShows.flat, Tree.levels]
  have few : operatorCount operand.asExpression.yield ≤ maxOperators := by
    rw [<- operand.asExpression.operatorCount_tree, same]
    exact operatorCount_le_of_parse parsed
  have read := parse_of_derivation spelled few
  rw [same, depth] at read
  exact read

/-- One and a half. -/
def threeHalves : Finite :=
  ⟨false, 3 * 2 ^ 1073, by decide +kernel⟩

/-- A tree with an escaped character, a negated group and a number with a fraction. -/
def taggedTree : Tree :=
  .or
    (.not (.equality .equal (.index (.member .this "tags") (.literal (.number (.finite .zero))))
      (.literal (.string "a\n"))))
    (.equality .strictNotEqual (.member (.identifier "obj") "size")
      (.literal (.number (.finite threeHalves))))

theorem displayed_tree_reads_back_tagged :
    Tree.parse "!(this.tags[0] == 'a\\n') || obj.size !== 1.50" = .ok taggedTree ∧
    taggedTree.text = "(!(this.tags[0] == \"a\\n\") || (obj.size !== 1.5))" ∧
    taggedTree.levels = 5 ∧ Tree.parse taggedTree.text = .ok taggedTree := by
  have parsed : Tree.parse "!(this.tags[0] == 'a\\n') || obj.size !== 1.50" = .ok taggedTree := by
    decide +kernel
  refine ⟨parsed, by decide +kernel, rfl, ?_⟩
  apply displayed_tree_reads_back parsed rfl
  · intro text member
    have same : text = "a\n" := by simpa [taggedTree, Tree.marks] using member
    subst same
    have shown : "a\n".toList.all (fun c => decide (IsShortlyShown c)) = true := by
      decide +kernel
    exact fun c inside => of_decide_eq_true (List.all_eq_true.mp shown c inside)
  · intro value member
    have either : value = .finite .zero ∨ value = .finite threeHalves := by
      simpa [taggedTree, Tree.marks] using member
    rcases either with rfl | rfl
    · exact ⟨_, rfl⟩
    · exact ⟨_, rfl⟩

end Script
end ContactSearch
