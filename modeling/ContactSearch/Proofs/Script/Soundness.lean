import ContactSearch.Proofs.Script.Grammar

namespace ContactSearch
namespace Script

/-!
# The reader reads nothing but the grammar

What a reader does is described by the tokens it passes.  Soundness says that
a reading of a category passes the yield of one of its derivations, that the
derivation has the tree that was read, and that it keeps to the depth limit of
the reader; the operators it has are those that are no longer allowed
afterwards.

It is proved for one reader at a time.  The readers are put together level by
level in the way in which the reader of scripts is.  A fault is followed
through as well: if it is about a numeral, then the numeral is one of the
tokens and spells no number.
-/

/-! ## Cursors -/

namespace Cursor

/-- The tokens that are still to be read, apart from their positions. -/
def lexemes (cursor : Cursor) : List Lexeme :=
  cursor.tokens.map Token.lexeme

theorem lexeme_current (cursor : Cursor) :
    cursor.current.lexeme = cursor.lexemes.headD .endOfInput := by
  unfold current lexemes
  cases cursor.tokens <;> rfl

theorem lexemes_next (cursor : Cursor) : cursor.next.lexemes = cursor.lexemes.tail :=
  List.map_tail

/-- A second cursor stands behind some tokens that begin at the first. -/
structure Passes (cursor : Cursor) (yield : List Lexeme) (after : Cursor) : Prop where
  lexemes : cursor.lexemes = yield ++ after.lexemes
  operators : cursor.operators = operatorCount yield + after.operators

theorem Passes.refl (cursor : Cursor) : cursor.Passes [] cursor where
  lexemes := rfl
  operators := (Nat.zero_add _).symm

theorem Passes.trans {first second third : Cursor} {yield yield' : List Lexeme}
    (left : first.Passes yield second) (right : second.Passes yield' third) :
    first.Passes (yield ++ yield') third where
  lexemes := by rw [left.lexemes, right.lexemes, List.append_assoc]
  operators := by
    rw [left.operators, right.operators, operatorCount, operatorCount, operatorCount,
      List.countP_append, Nat.add_assoc]

/-- The lexeme that is read next is the first of those that are left, unless none is. -/
theorem lexemes_eq_cons {cursor : Cursor} {lexeme : Lexeme}
    (current : cursor.current.lexeme = lexeme) (present : lexeme ≠ .endOfInput) :
    cursor.lexemes = lexeme :: cursor.next.lexemes := by
  rw [lexemes_next]
  rw [lexeme_current] at current
  cases shape : cursor.lexemes with
  | nil =>
      rw [shape] at current
      exact absurd current.symm present
  | cons front rest =>
      rw [shape] at current
      exact congrArg (· :: rest) current

theorem Passes.next {cursor : Cursor} {lexeme : Lexeme}
    (current : cursor.current.lexeme = lexeme) (present : lexeme ≠ .endOfInput)
    (free : lexeme.isOperator = false) : cursor.Passes [lexeme] cursor.next where
  lexemes := cursor.lexemes_eq_cons current present
  operators := by
    simp [operatorCount, free, Cursor.next]

theorem Passes.takeOperator {cursor after : Cursor} {lexeme : Lexeme}
    (current : cursor.current.lexeme = lexeme) (counted : lexeme.isOperator = true)
    (taken : cursor.takeOperator = .ok after) : cursor.Passes [lexeme] after := by
  have present : lexeme ≠ .endOfInput := by
    intro same
    rw [same] at counted
    cases counted
  have front := cursor.lexemes_eq_cons current present
  unfold Cursor.takeOperator at taken
  split at taken
  · cases taken
  · next operators left =>
      cases taken
      exact ⟨front, by simp [operatorCount, counted, left, Nat.add_comm]⟩

/-- An expected symbol that comes next is passed. -/
theorem Passes.expect {cursor after : Cursor} {mark : Symbol} {context : Context}
    (free : (Lexeme.symbol mark).isOperator = false)
    (found : cursor.expect mark context = .ok after) : cursor.Passes [.symbol mark] after := by
  unfold Cursor.expect at found
  split at found
  · next current =>
      cases found
      exact .next current Lexeme.noConfusion free
  · cases found

end Cursor

/-! ## Faults about numerals -/

/-- A refused numeral is one of the given tokens, and it spells no number. -/
def SyntaxFault.Founded (fault : SyntaxFault) (lexemes : List Lexeme) : Prop :=
  forall digits position, fault = .invalidNumber digits position ->
    .number digits ∈ lexemes ∧ Double.ofText? digits.toList = none

namespace SyntaxFault.Founded

theorem passed {fault : SyntaxFault} {cursor after : Cursor} {yield : List Lexeme}
    (founded : fault.Founded after.lexemes) (passes : cursor.Passes yield after) :
    fault.Founded cursor.lexemes := by
  intro digits position same
  rcases founded digits position same with ⟨member, refused⟩
  rw [passes.lexemes]
  exact ⟨List.mem_append_right _ member, refused⟩

theorem of_ne {fault : SyntaxFault} {lexemes : List Lexeme}
    (other : forall digits position, fault ≠ .invalidNumber digits position) :
    fault.Founded lexemes :=
  fun digits position same => absurd same (other digits position)

theorem unexpected (cursor : Cursor) (context : Context) (lexemes : List Lexeme) :
    (cursor.unexpected context).Founded lexemes := by
  apply of_ne
  intro digits position
  unfold Cursor.unexpected
  split <;> exact SyntaxFault.noConfusion

theorem takeOperator {cursor : Cursor} {fault : SyntaxFault} {lexemes : List Lexeme}
    (refused : cursor.takeOperator = .error fault) : fault.Founded lexemes := by
  unfold Cursor.takeOperator at refused
  split at refused
  · cases refused
    exact of_ne fun _ _ => SyntaxFault.noConfusion
  · cases refused

theorem expect {cursor : Cursor} {mark : Symbol} {context : Context} {fault : SyntaxFault}
    {lexemes : List Lexeme} (refused : cursor.expect mark context = .error fault) :
    fault.Founded lexemes := by
  unfold Cursor.expect at refused
  split at refused
  · cases refused
  · cases refused
    exact unexpected cursor context lexemes

end SyntaxFault.Founded

/-! ## Soundness -/

/-- The operators that the reader of a level looks for. -/
def Level.operator? : Level -> Lexeme -> Option (Tree -> Tree -> Tree)
  | .disjunction => orOperator?
  | .conjunction => andOperator?
  | .equality => equalityOperator?

theorem Level.operator?_symbol {level : Level} (sign : Sign level) :
    level.operator? (.symbol sign.symbol) = some sign.combine := by
  cases sign with
  | or => rfl
  | and => rfl
  | equality operator => cases operator <;> rfl

/-- The reader of a level finds nothing but the operators of the level. -/
theorem Level.exists_sign {level : Level} {lexeme : Lexeme} {combine : Tree -> Tree -> Tree}
    (found : level.operator? lexeme = some combine) :
    exists sign : Sign level, lexeme = .symbol sign.symbol ∧ combine = sign.combine := by
  cases level with
  | disjunction =>
      simp only [operator?, orOperator?] at found
      split at found
      · exact ⟨.or, rfl, (Option.some.inj found).symm⟩
      · cases found
  | conjunction =>
      simp only [operator?, andOperator?] at found
      split at found
      · exact ⟨.and, rfl, (Option.some.inj found).symm⟩
      · cases found
  | equality =>
      simp only [operator?, equalityOperator?] at found
      split at found
      · exact ⟨.equality .equal, rfl, (Option.some.inj found).symm⟩
      · exact ⟨.equality .notEqual, rfl, (Option.some.inj found).symm⟩
      · exact ⟨.equality .strictEqual, rfl, (Option.some.inj found).symm⟩
      · exact ⟨.equality .strictNotEqual, rfl, (Option.some.inj found).symm⟩
      · cases found

theorem Sign.isOperator_symbol {level : Level} (sign : Sign level) :
    (Lexeme.symbol sign.symbol).isOperator = true := by
  cases sign with
  | or => rfl
  | and => rfl
  | equality operator => cases operator <;> rfl

/--
A reading of a category is accounted for: what was read is the tree of a derivation of less than
the given depth, whose tokens have been passed, and a refused numeral is one of the tokens.
-/
def Accounted (category : Category) (limit : Nat) (cursor : Cursor) :
    Except SyntaxFault (Tree × Cursor) -> Prop
  | .ok (tree, after) =>
      exists derivation : Derivation category, derivation.tree = tree ∧
        derivation.depth < limit ∧ cursor.Passes derivation.yield after
  | .error fault => fault.Founded cursor.lexemes

/-- The same for what follows a tree that has been read. -/
def AccountedBehind (repetition : Repetition) (limit : Nat) (left : Tree) (cursor : Cursor) :
    Except SyntaxFault (Tree × Cursor) -> Prop
  | .ok (tree, after) =>
      exists rest : Continuation repetition, rest.extend left = tree ∧
        rest.depth < limit ∧ cursor.Passes rest.yield after
  | .error fault => fault.Founded cursor.lexemes

/-- A reader all of whose readings are accounted for. -/
def Sound (category : Category) (limit : Nat) (step : Step Tree) : Prop :=
  forall cursor, Accounted category limit cursor (step cursor)

section Sequencing

variable {category : Category} {repetition : Repetition} {limit : Nat}
  {cursor after : Cursor} {yield : List Lexeme}
  {Goal : Except SyntaxFault (Tree × Cursor) -> Prop}

/-- To account for what a reading is followed by, follow each of its two outcomes. -/
theorem Accounted.bind {outcome : Except SyntaxFault (Tree × Cursor)}
    {next : Tree × Cursor -> Except SyntaxFault (Tree × Cursor)}
    (accounted : Accounted category limit cursor outcome)
    (onFault : forall fault, fault.Founded cursor.lexemes -> Goal (.error fault))
    (onRead : forall (derivation : Derivation category) (after : Cursor),
      derivation.depth < limit -> cursor.Passes derivation.yield after ->
      Goal (next (derivation.tree, after))) :
    Goal (outcome >>= next) := by
  cases outcome with
  | error fault => exact onFault fault accounted
  | ok pair =>
      rcases pair with ⟨tree, after⟩
      rcases accounted with ⟨derivation, rfl, shallow, passes⟩
      exact onRead derivation after shallow passes

theorem takeOperator_bind {lexeme : Lexeme}
    {next : Cursor -> Except SyntaxFault (Tree × Cursor)}
    (current : cursor.current.lexeme = lexeme) (counted : lexeme.isOperator = true)
    (onFault : forall fault, fault.Founded cursor.lexemes -> Goal (.error fault))
    (onTaken : forall after, cursor.Passes [lexeme] after -> Goal (next after)) :
    Goal (cursor.takeOperator >>= next) := by
  cases taken : cursor.takeOperator with
  | error fault => exact onFault fault (.takeOperator taken)
  | ok after => exact onTaken after (.takeOperator current counted taken)

theorem expect_bind {mark : Symbol} {context : Context}
    {next : Cursor -> Except SyntaxFault (Tree × Cursor)}
    (free : (Lexeme.symbol mark).isOperator = false)
    (onFault : forall fault, fault.Founded cursor.lexemes -> Goal (.error fault))
    (onFound : forall after, cursor.Passes [.symbol mark] after -> Goal (next after)) :
    Goal (cursor.expect mark context >>= next) := by
  cases found : cursor.expect mark context with
  | error fault => exact onFault fault (.expect found)
  | ok after => exact onFound after (.expect free found)

/-- A derivation can be taken for one of another category with the same tree and yield. -/
theorem Accounted.lift {category' : Category} {limit' : Nat}
    {outcome : Except SyntaxFault (Tree × Cursor)}
    (accounted : Accounted category limit cursor outcome)
    (whole : Derivation category -> Derivation category')
    (grouped : forall derivation, (whole derivation).tree = derivation.tree)
    (shallow : forall derivation, derivation.depth < limit -> (whole derivation).depth < limit')
    (yields : forall derivation, (whole derivation).yield = derivation.yield) :
    Accounted category' limit' cursor outcome := by
  cases outcome with
  | error fault => exact accounted
  | ok pair =>
      rcases accounted with ⟨derivation, same, bounded, passes⟩
      exact ⟨whole derivation, (grouped derivation).trans same, shallow derivation bounded,
        yields derivation ▸ passes⟩

/-- A continuation is accounted for from further in front, with what was passed in between. -/
theorem AccountedBehind.wrap {left left' : Tree}
    {outcome : Except SyntaxFault (Tree × Cursor)}
    (accounted : AccountedBehind repetition limit left' after outcome)
    (passes : cursor.Passes yield after)
    (grow : Continuation repetition -> Continuation repetition)
    (grouped : forall rest, (grow rest).extend left = rest.extend left')
    (shallow : forall rest, rest.depth < limit -> (grow rest).depth < limit)
    (yields : forall rest, (grow rest).yield = yield ++ rest.yield) :
    AccountedBehind repetition limit left cursor outcome := by
  cases outcome with
  | error fault => exact accounted.passed passes
  | ok pair =>
      rcases accounted with ⟨rest, same, bounded, passes'⟩
      exact ⟨grow rest, (grouped rest).trans same, shallow rest bounded,
        yields rest ▸ passes.trans passes'⟩

/-- What follows is accounted for together with what it follows. -/
theorem AccountedBehind.close {left : Tree} {outcome : Except SyntaxFault (Tree × Cursor)}
    (accounted : AccountedBehind repetition limit left after outcome)
    (passes : cursor.Passes yield after)
    (whole : Continuation repetition -> Derivation category)
    (grouped : forall rest, (whole rest).tree = rest.extend left)
    (shallow : forall rest, rest.depth < limit -> (whole rest).depth < limit)
    (yields : forall rest, (whole rest).yield = yield ++ rest.yield) :
    Accounted category limit cursor outcome := by
  cases outcome with
  | error fault => exact accounted.passed passes
  | ok pair =>
      rcases accounted with ⟨rest, same, bounded, passes'⟩
      exact ⟨whole rest, (grouped rest).trans same, shallow rest bounded,
        yields rest ▸ passes.trans passes'⟩

end Sequencing

theorem sound_tooDeep (category : Category) (limit : Nat) : Sound category limit tooDeep :=
  fun _ => .of_ne fun _ _ => SyntaxFault.noConfusion

/-- The loop of a chain.  Every round passes one operator and one operand. -/
theorem chainFrom_accounted {level : Level} {limit : Nat} {operand : Step Tree}
    (positive : 0 < limit) (sound : Sound level.operand limit operand) :
    forall (fuel : Nat) (left : Tree) (cursor : Cursor),
      AccountedBehind (.chain level) limit left cursor
        (chainFrom level.operator? operand fuel left cursor) := by
  -- on the fuel, of which every operator uses up one
  intro fuel
  induction fuel with
  | zero =>
      intro left cursor
      unfold chainFrom
      split
      · exact ⟨.chainEnd, rfl, positive, .refl cursor⟩
      · exact .of_ne fun _ _ => SyntaxFault.noConfusion
  | succ fuel ih =>
      intro left cursor
      unfold chainFrom
      split
      · exact ⟨.chainEnd, rfl, positive, .refl cursor⟩
      · next combine found =>
          rcases level.exists_sign found with ⟨sign, current, rfl⟩
          refine takeOperator_bind current sign.isOperator_symbol (fun _ founded => founded) ?_
          intro behind first
          refine (sound behind).bind (fun _ founded => founded.passed first) ?_
          intro derivation after shallow second
          exact (ih (sign.combine left derivation.tree) after).wrap (first.trans second)
            (.chainMore sign derivation) (fun _ => rfl)
            (fun _ bounded => Nat.max_lt.mpr ⟨shallow, bounded⟩) (fun _ => rfl)

theorem sound_chain (level : Level) {limit : Nat} {operand : Step Tree}
    (sound : Sound level.operand limit operand) :
    Sound (.chain level) limit (chain level.operator? operand) := by
  intro cursor
  refine (sound cursor).bind (fun _ founded => founded) ?_
  intro derivation after shallow passes
  have loop := chainFrom_accounted (Nat.zero_lt_of_lt shallow) sound after.operators
    derivation.tree after
  exact loop.close passes (.chain derivation) (fun _ => rfl)
    (fun _ bounded => Nat.max_lt.mpr ⟨shallow, bounded⟩) (fun _ => rfl)

/-- The loop of accesses.  Every round passes a property or a key in brackets. -/
theorem accessesFrom_accounted {limit : Nat} {inner : Step Tree}
    (positive : 0 < limit) (sound : Sound .expression limit inner) :
    forall (fuel : Nat) (object : Tree) (cursor : Cursor),
      AccountedBehind .access limit object cursor (accessesFrom inner fuel object cursor) := by
  intro fuel
  induction fuel with
  | zero =>
      intro object cursor
      unfold accessesFrom
      split
      · exact .of_ne fun _ _ => SyntaxFault.noConfusion
      · exact .of_ne fun _ _ => SyntaxFault.noConfusion
      · exact ⟨.accessEnd, rfl, positive, .refl cursor⟩
  | succ fuel ih =>
      intro object cursor
      unfold accessesFrom
      split
      · next current =>
          refine takeOperator_bind current rfl (fun _ founded => founded) ?_
          intro behind first
          split
          · next name current' =>
              have second := Cursor.Passes.next current' Lexeme.noConfusion rfl
              exact (ih (.member object name) behind.next).wrap (first.trans second)
                (.member name) (fun _ => rfl) (fun _ bounded => bounded) (fun _ => rfl)
          · exact .unexpected behind .afterDot _
      · next current =>
          refine takeOperator_bind current rfl (fun _ founded => founded) ?_
          intro behind first
          refine (sound behind).bind (fun _ founded => founded.passed first) ?_
          intro key after shallow second
          refine expect_bind rfl (fun _ founded => (founded.passed second).passed first) ?_
          intro closed third
          exact (ih (.index object key.tree) closed).wrap (first.trans (second.trans third))
            (.index key) (fun _ => rfl)
            (fun _ bounded => Nat.max_lt.mpr ⟨shallow, bounded⟩)
            (fun _ => by simp [Continuation.yield])
      · exact ⟨.accessEnd, rfl, positive, .refl cursor⟩

theorem sound_primary {limit : Nat} {inner : Step Tree} (positive : 0 < limit)
    (sound : Sound .expression limit inner) : Sound .operand limit (primary inner) := by
  intro cursor
  unfold primary
  split
  · next value current =>
      exact ⟨.literal _ _ (.string value), rfl, positive,
        .next current Lexeme.noConfusion rfl⟩
  · next digits current =>
      split
      · next value read =>
          exact ⟨.literal _ _ (.number read), rfl, positive,
            .next current Lexeme.noConfusion rfl⟩
      · next refused =>
          intro digits' position same
          cases same
          rw [cursor.lexemes_eq_cons current Lexeme.noConfusion]
          exact ⟨List.mem_cons_self, refused⟩
  · next word current =>
      have passes := Cursor.Passes.next current Lexeme.noConfusion rfl
      cases word with
      | true => exact ⟨.literal _ _ .true, rfl, positive, passes⟩
      | false => exact ⟨.literal _ _ .false, rfl, positive, passes⟩
      | null => exact ⟨.literal _ _ .null, rfl, positive, passes⟩
      | undefined => exact ⟨.literal _ _ .undefined, rfl, positive, passes⟩
      | this => exact ⟨.this, rfl, positive, passes⟩
  · next name current =>
      exact ⟨.identifier name, rfl, positive, .next current Lexeme.noConfusion rfl⟩
  · next current =>
      have first := Cursor.Passes.next current Lexeme.noConfusion rfl
      refine (sound cursor.next).bind (fun _ founded => founded.passed first) ?_
      intro derivation after shallow second
      refine expect_bind rfl (fun _ founded => (founded.passed second).passed first) ?_
      intro closed third
      exact ⟨.parenthesized derivation, rfl, shallow, first.trans (second.trans third)⟩
  · exact .unexpected cursor .operand _

theorem sound_access {limit : Nat} {inner : Step Tree} (positive : 0 < limit)
    (sound : Sound .expression limit inner) : Sound .access limit (access inner) := by
  intro cursor
  refine (sound_primary positive sound cursor).bind (fun _ founded => founded) ?_
  intro object after shallow passes
  have loop := accessesFrom_accounted positive sound after.operators object.tree after
  exact loop.close passes (.access object) (fun _ => rfl)
    (fun _ bounded => Nat.max_lt.mpr ⟨shallow, bounded⟩) (fun _ => rfl)

/-- A negation sign opens a level, so its operand is read with one level less. -/
theorem sound_negation {limit : Nat} {operand inner : Step Tree}
    (nested : Sound .negation limit operand) (sound : Sound .expression (limit + 1) inner) :
    Sound .negation (limit + 1) (negation operand inner) := by
  intro cursor
  unfold negation
  split
  · next current =>
      have first := Cursor.Passes.next current Lexeme.noConfusion rfl
      refine (nested cursor.next).bind (fun _ founded => founded.passed first) ?_
      intro derivation after shallow second
      exact ⟨.not derivation, rfl, Nat.succ_lt_succ shallow, first.trans second⟩
  · exact (sound_access (Nat.succ_pos limit) sound cursor).lift .plain (fun _ => rfl)
      (fun _ bounded => bounded) (fun _ => rfl)

theorem sound_disjunction {limit : Nat} {operand : Step Tree}
    (sound : Sound .negation limit operand) :
    Sound .expression (limit + 1) (disjunction operand) := by
  intro cursor
  have equalities := sound_chain .equality sound
  have conjunctions := sound_chain .conjunction equalities
  have body := sound_chain .disjunction conjunctions cursor
  exact body.lift .expression (fun _ => rfl) (fun _ => Nat.succ_lt_succ) (fun _ => rfl)

/-- A reader for a number of levels reads derivations that open no more levels. -/
theorem sound_operand : forall levels, Sound .negation (levels + 1) (operand levels)
  | 0 => sound_negation (sound_tooDeep _ _) (sound_tooDeep _ _)
  | levels + 1 => sound_negation (sound_operand levels) (sound_disjunction (sound_operand levels))

theorem sound_expression : forall levels, Sound .expression (levels + 1) (expression levels)
  | 0 => sound_tooDeep _ _
  | levels + 1 => sound_disjunction (sound_operand levels)

end Script
end ContactSearch
