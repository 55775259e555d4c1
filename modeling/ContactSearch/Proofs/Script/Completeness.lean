import ContactSearch.Proofs.Script.Soundness

namespace ContactSearch
namespace Script

/-!
# The reader reads the whole grammar

Completeness says that a derivation within both limits is read, provided that
the token behind it does not belong to it.  The induction is on derivations.
It needs no measure of the tokens: a cursor offers the yield of a derivation,
and what a part has passed is no longer offered to the next part.

Together with soundness this tells what becomes of a whole token list.
-/

namespace Cursor

/-- A cursor stands in front of some tokens and may take all operators among them. -/
structure Offers (cursor : Cursor) (yield behind : List Lexeme) : Prop where
  lexemes : cursor.lexemes = yield ++ behind
  operators : operatorCount yield ≤ cursor.operators

namespace Offers

variable {cursor after : Cursor} {yield yield' behind : List Lexeme} {lexeme : Lexeme}

theorem front (offers : cursor.Offers (yield ++ yield') behind) :
    cursor.Offers yield (yield' ++ behind) where
  lexemes := by rw [offers.lexemes, List.append_assoc]
  operators := by
    have all := offers.operators
    rw [operatorCount, List.countP_append] at all
    exact Nat.le_of_add_right_le all

theorem passed (offers : cursor.Offers (yield ++ yield') behind)
    (passes : cursor.Passes yield after) : after.Offers yield' behind where
  lexemes := by
    have same := offers.lexemes
    rw [passes.lexemes, List.append_assoc] at same
    exact List.append_cancel_left same
  operators := by
    have all := offers.operators
    rw [passes.operators, operatorCount, List.countP_append] at all
    exact Nat.le_of_add_le_add_left all

theorem current (offers : cursor.Offers (lexeme :: yield) behind) :
    cursor.current.lexeme = lexeme := by
  rw [lexeme_current, offers.lexemes]
  rfl

theorem next (offers : cursor.Offers (lexeme :: yield) behind) (present : lexeme ≠ .endOfInput)
    (free : lexeme.isOperator = false) : cursor.next.Offers yield behind := by
  have split : cursor.Offers ([lexeme] ++ yield) behind := offers
  exact split.passed (.next offers.current present free)

/-- An operator that is offered can be taken. -/
theorem takeOperator (offers : cursor.Offers (lexeme :: yield) behind)
    (counted : lexeme.isOperator = true) :
    exists after, cursor.takeOperator = .ok after ∧ cursor.Passes [lexeme] after ∧
      after.Offers yield behind := by
  have split : cursor.Offers ([lexeme] ++ yield) behind := offers
  have allowed := offers.operators
  rw [operatorCount, List.countP_cons_of_pos counted] at allowed
  cases left : cursor.operators with
  | zero =>
      rw [left] at allowed
      exact absurd allowed (Nat.not_succ_le_zero _)
  | succ operators =>
      have taken : cursor.takeOperator = .ok ⟨cursor.tokens.tail, operators⟩ := by
        rw [Cursor.takeOperator, left]
      have passes := Passes.takeOperator offers.current counted taken
      exact ⟨_, taken, passes, split.passed passes⟩

/-- A symbol that is offered is found where it is expected. -/
theorem expect {mark : Symbol} (offers : cursor.Offers (.symbol mark :: yield) behind)
    (context : Context) : cursor.expect mark context = .ok cursor.next := by
  rw [Cursor.expect, if_pos offers.current]

/-- The token that is read next is as tight as the front of what is offered. -/
theorem tightness_current (offers : cursor.Offers [] behind) :
    cursor.current.lexeme.tightness = frontTightness behind := by
  rw [lexeme_current, offers.lexemes]
  cases behind <;> rfl

end Offers
end Cursor

/-- The fuel of a loop lasts for one more round after an operator and what it applies to. -/
theorem Cursor.Passes.fuel {cursor behind after : Cursor} {lexeme : Lexeme}
    {yield : List Lexeme} {fuel : Nat} (first : cursor.Passes [lexeme] behind)
    (counted : lexeme.isOperator = true) (second : behind.Passes yield after)
    (enough : cursor.operators ≤ fuel) :
    exists fewer, fuel = fewer + 1 ∧ after.operators ≤ fewer := by
  have taken := first.operators
  have rest := second.operators
  rw [operatorCount, List.countP_cons_of_pos counted, List.countP_nil] at taken
  exact ⟨fuel - 1, by omega, by omega⟩

/-- A looser token is no operator of a level. -/
theorem Level.operator?_eq_none {level : Level} {lexeme : Lexeme}
    (looser : lexeme.tightness < level.tightness) : level.operator? lexeme = none := by
  cases found : level.operator? lexeme with
  | none => rfl
  | some combine =>
      rcases level.exists_sign found with ⟨sign, rfl, _⟩
      rw [sign.tightness_symbol] at looser
      exact absurd looser (Nat.lt_irrefl _)

/-- The part of the reader of scripts that reads a category. -/
def readerOf (levels : Nat) : Category -> Step Tree
  | .expression => expression levels
  | .chain .disjunction =>
      chain orOperator? (chain andOperator? (chain equalityOperator? (operand levels)))
  | .chain .conjunction => chain andOperator? (chain equalityOperator? (operand levels))
  | .chain .equality => chain equalityOperator? (operand levels)
  | .negation => operand levels
  | .access => access (expression levels)
  | .operand => primary (expression levels)

/-- The part of the reader of scripts that reads what follows a tree. -/
def loopOf (levels : Nat) : Repetition -> Nat -> Tree -> Step Tree
  | .chain level => chainFrom level.operator? (readerOf levels level.operand)
  | .access => accessesFrom (expression levels)

theorem readerOf_chain (levels : Nat) (level : Level) :
    readerOf levels (.chain level) =
      chain level.operator? (readerOf levels level.operand) := by
  cases level <;> rfl

/-- A reader in which no further level may be opened reads operands all the same. -/
theorem operand_eq_negation (levels : Nat) :
    exists nested, operand levels = negation nested (expression levels) := by
  cases levels with
  | zero => exact ⟨tooDeep, rfl⟩
  | succ levels => exact ⟨operand levels, rfl⟩

theorem chain_of_read {operator? : Lexeme -> Option (Tree -> Tree -> Tree)}
    {operand : Step Tree} {cursor after : Cursor} {tree : Tree}
    (read : operand cursor = .ok (tree, after)) :
    chain operator? operand cursor =
      chainFrom operator? operand after.operators tree after := by
  rw [chain, read]
  rfl

theorem access_of_read {inner : Step Tree} {cursor after : Cursor} {tree : Tree}
    (read : primary inner cursor = .ok (tree, after)) :
    access inner cursor = accessesFrom inner after.operators tree after := by
  rw [access, read]
  rfl

theorem chainFrom_of_none {operator? : Lexeme -> Option (Tree -> Tree -> Tree)}
    {operand : Step Tree} {fuel : Nat} {left : Tree} {cursor : Cursor}
    (stops : operator? cursor.current.lexeme = none) :
    chainFrom operator? operand fuel left cursor = .ok (left, cursor) := by
  unfold chainFrom
  rw [stops]

theorem chainFrom_of_some {operator? : Lexeme -> Option (Tree -> Tree -> Tree)}
    {operand : Step Tree} {fuel : Nat} {left right : Tree} {cursor behind after : Cursor}
    {combine : Tree -> Tree -> Tree} (found : operator? cursor.current.lexeme = some combine)
    (taken : cursor.takeOperator = .ok behind) (read : operand behind = .ok (right, after)) :
    chainFrom operator? operand (fuel + 1) left cursor =
      chainFrom operator? operand fuel (combine left right) after := by
  rw [chainFrom, found]
  simp only [taken, read, bind, Except.bind]

theorem accessesFrom_of_looser {inner : Step Tree} {fuel : Nat} {object : Tree}
    {cursor : Cursor} (looser : cursor.current.lexeme.tightness < 4) :
    accessesFrom inner fuel object cursor = .ok (object, cursor) := by
  unfold accessesFrom
  split
  · next current =>
      rw [current] at looser
      exact absurd looser (Nat.lt_irrefl 4)
  · next current =>
      rw [current] at looser
      exact absurd looser (Nat.lt_irrefl 4)
  · rfl

theorem accessesFrom_of_dot {inner : Step Tree} {fuel : Nat} {object : Tree}
    {cursor behind : Cursor} {name : String} (current : cursor.current.lexeme = .symbol .dot)
    (taken : cursor.takeOperator = .ok behind)
    (named : behind.current.lexeme = .identifier name) :
    accessesFrom inner (fuel + 1) object cursor =
      accessesFrom inner fuel (.member object name) behind.next := by
  rw [accessesFrom, current]
  simp only [taken, named, bind, Except.bind]

theorem accessesFrom_of_openBracket {inner : Step Tree} {fuel : Nat} {object key : Tree}
    {cursor behind after closed : Cursor}
    (current : cursor.current.lexeme = .symbol .openBracket)
    (taken : cursor.takeOperator = .ok behind) (read : inner behind = .ok (key, after))
    (found : after.expect .closeBracket .closingBracket = .ok closed) :
    accessesFrom inner (fuel + 1) object cursor =
      accessesFrom inner fuel (.index object key) closed := by
  rw [accessesFrom, current]
  simp only [taken, read, found, bind, Except.bind]

theorem negation_of_bang {operand inner : Step Tree} {cursor after : Cursor} {tree : Tree}
    (current : cursor.current.lexeme = .symbol .bang)
    (read : operand cursor.next = .ok (tree, after)) :
    negation operand inner cursor = .ok (.not tree, after) := by
  rw [negation, if_pos current, read]
  rfl

theorem negation_of_ne {operand inner : Step Tree} {cursor : Cursor}
    (current : cursor.current.lexeme ≠ .symbol .bang) :
    negation operand inner cursor = access inner cursor := by
  rw [negation, if_neg current]

theorem primary_of_spells {inner : Step Tree} {cursor : Cursor} {lexeme : Lexeme}
    {value : Literal} (current : cursor.current.lexeme = lexeme) (spelled : Spells lexeme value) :
    primary inner cursor = .ok (.literal value, cursor.next) := by
  unfold primary
  cases spelled with
  | string text => rw [current]
  | number read => simp only [current, read]
  | _ =>
      rw [current]
      rfl

theorem primary_of_openParen {inner : Step Tree} {cursor after closed : Cursor} {tree : Tree}
    (current : cursor.current.lexeme = .symbol .openParen)
    (read : inner cursor.next = .ok (tree, after))
    (found : after.expect .closeParen .closingParenthesis = .ok closed) :
    primary inner cursor = .ok (tree, closed) := by
  unfold primary
  rw [current]
  simp only [read, found, bind, Except.bind]
  rfl

theorem Lexeme.ne_endOfInput_of_spells {lexeme : Lexeme} {value : Literal}
    (spelled : Spells lexeme value) : lexeme ≠ .endOfInput := by
  cases spelled <;> exact Lexeme.noConfusion

theorem Lexeme.isOperator_of_spells {lexeme : Lexeme} {value : Literal}
    (spelled : Spells lexeme value) : lexeme.isOperator = false := by
  cases spelled <;> rfl

mutual

/--
A derivation within both limits is read, if the token behind it does not belong to it.  The
tokens it yields are offered at the cursor, and passed by the reading.
-/
theorem Derivation.read {category : Category} :
    forall (derivation : Derivation category) {levels : Nat} {cursor : Cursor}
      {behind : List Lexeme}, derivation.depth ≤ levels ->
      cursor.Offers derivation.yield behind -> frontTightness behind < category.tightness ->
      exists after, readerOf levels category cursor = .ok (derivation.tree, after) ∧
        cursor.Passes derivation.yield after
  | .expression body, levels, cursor, behind, shallow, offers, stops => by
      cases levels with
      | zero => exact absurd shallow (Nat.not_succ_le_zero _)
      | succ levels => exact body.read (Nat.le_of_succ_le_succ shallow) offers stops
  | .chain first rest, levels, cursor, behind, shallow, offers, stops => by
      have depths := Nat.max_le.mp shallow
      rcases first.read depths.1 offers.front (rest.front_chain stops) with ⟨middle, read, passes⟩
      rcases rest.read first.tree depths.2 (offers.passed passes)
        (Nat.le_refl _) stops with ⟨after, looped, passes'⟩
      refine ⟨after, ?_, passes.trans passes'⟩
      rw [readerOf_chain, chain_of_read read]
      exact looped
  | .not operand, levels, cursor, behind, shallow, offers, stops => by
      cases levels with
      | zero => exact absurd shallow (Nat.not_succ_le_zero _)
      | succ levels =>
          have first := Cursor.Passes.next offers.current Lexeme.noConfusion rfl
          rcases operand.read (Nat.le_of_succ_le_succ shallow)
            (offers.next Lexeme.noConfusion rfl) stops with ⟨after, read, passes⟩
          exact ⟨after, negation_of_bang offers.current read, first.trans passes⟩
  | .plain access, levels, cursor, behind, shallow, offers, stops => by
      rcases access.read shallow offers stops with ⟨after, read, passes⟩
      refine ⟨after, ?_, passes⟩
      -- the reader looks for a negation sign first, and no access begins with one
      rcases operand_eq_negation levels with ⟨nested, same⟩
      rcases access.front_access with ⟨lexeme, tail, front, different⟩
      have current : cursor.current.lexeme = lexeme := by
        rw [cursor.lexeme_current, offers.lexemes, Derivation.yield, front]
        rfl
      rw [readerOf, same, negation_of_ne (current ▸ different)]
      exact read
  | .access object rest, levels, cursor, behind, shallow, offers, stops => by
      have depths := Nat.max_le.mp shallow
      rcases object.read depths.1 offers.front
        (Continuation.front_access _) with ⟨middle, read, passes⟩
      rcases rest.read object.tree depths.2 (offers.passed passes)
        (Nat.le_refl _) stops with ⟨after, looped, passes'⟩
      exact ⟨after, (access_of_read read).trans looped, passes.trans passes'⟩
  | .literal lexeme value spelled, levels, cursor, behind, _, offers, _ =>
      ⟨cursor.next, primary_of_spells offers.current spelled,
        .next offers.current (Lexeme.ne_endOfInput_of_spells spelled)
          (Lexeme.isOperator_of_spells spelled)⟩
  | .this, levels, cursor, behind, _, offers, _ => by
      refine ⟨cursor.next, ?_, .next offers.current Lexeme.noConfusion rfl⟩
      rw [readerOf, primary, offers.current]
      rfl
  | .identifier name, levels, cursor, behind, _, offers, _ => by
      refine ⟨cursor.next, ?_, .next offers.current Lexeme.noConfusion rfl⟩
      rw [readerOf, primary, offers.current]
      rfl
  | .parenthesized inner, levels, cursor, behind, shallow, offers, _ => by
      have first := Cursor.Passes.next offers.current Lexeme.noConfusion rfl
      have inside := offers.next Lexeme.noConfusion rfl
      rcases inner.read shallow inside.front (front_closeParen _) with ⟨after, read, second⟩
      have closing := inside.passed second
      have third := Cursor.Passes.next closing.current Lexeme.noConfusion rfl
      exact ⟨after.next, primary_of_openParen offers.current read (closing.expect _),
        first.trans (second.trans third)⟩

/-- What follows within both limits is read behind any tree under the same proviso. -/
theorem Continuation.read {repetition : Repetition} :
    forall (rest : Continuation repetition) (left : Tree) {levels fuel : Nat} {cursor : Cursor}
      {behind : List Lexeme}, rest.depth ≤ levels -> cursor.Offers rest.yield behind ->
      cursor.operators ≤ fuel -> frontTightness behind < repetition.tightness ->
      exists after, loopOf levels repetition fuel left cursor = .ok (rest.extend left, after) ∧
        cursor.Passes rest.yield after
  | .chainEnd, left, levels, fuel, cursor, behind, _, offers, _, stops =>
      ⟨cursor, chainFrom_of_none (Level.operator?_eq_none (offers.tightness_current ▸ stops)),
        .refl cursor⟩
  | .chainMore sign operand rest, left, levels, fuel, cursor, behind, shallow, offers, enough,
      stops => by
      have depths := Nat.max_le.mp shallow
      rcases offers.takeOperator sign.isOperator_symbol with ⟨start, taken, first, offers'⟩
      rcases operand.read depths.1 offers'.front
        (rest.front_chain stops) with ⟨middle, read, second⟩
      rcases first.fuel sign.isOperator_symbol second enough with ⟨fuel, rfl, fewer⟩
      rcases rest.read (sign.combine left operand.tree) depths.2
        (offers'.passed second) fewer stops with ⟨after, looped, third⟩
      refine ⟨after, ?_, first.trans (second.trans third)⟩
      have found := offers.current ▸ Level.operator?_symbol sign
      exact (chainFrom_of_some found taken read).trans looped
  | .accessEnd, left, levels, fuel, cursor, behind, _, offers, _, stops =>
      ⟨cursor, accessesFrom_of_looser (offers.tightness_current ▸ stops), .refl cursor⟩
  | .member property rest, left, levels, fuel, cursor, behind, shallow, offers, enough, stops => by
      rcases offers.takeOperator rfl with ⟨start, taken, first, offers'⟩
      have second := Cursor.Passes.next offers'.current Lexeme.noConfusion rfl
      rcases first.fuel rfl second enough with ⟨fuel, rfl, fewer⟩
      rcases rest.read (.member left property) shallow
        (offers'.next Lexeme.noConfusion rfl) fewer stops with ⟨after, looped, third⟩
      exact ⟨after, (accessesFrom_of_dot offers.current taken offers'.current).trans looped,
        first.trans (second.trans third)⟩
  | .index key rest, left, levels, fuel, cursor, behind, shallow, offers, enough, stops => by
      have depths := Nat.max_le.mp shallow
      rcases offers.takeOperator rfl with ⟨start, taken, first, offers'⟩
      rcases key.read depths.1 offers'.front (front_closeBracket _) with ⟨middle, read, second⟩
      have closing := offers'.passed second
      have third := Cursor.Passes.next closing.current Lexeme.noConfusion rfl
      rcases first.fuel rfl (second.trans third) enough with ⟨fuel, rfl, fewer⟩
      rcases rest.read (.index left key.tree) depths.2
        (closing.next Lexeme.noConfusion rfl) fewer stops with ⟨after, looped, fourth⟩
      refine ⟨after, (accessesFrom_of_openBracket offers.current taken read
        (closing.expect _)).trans looped, ?_⟩
      have all := first.trans (second.trans (third.trans fourth))
      simpa [Continuation.yield] using all

end

/-! ## Whole token lists -/

/-- A token list is read as the tree of a derivation within both limits that the end follows. -/
theorem ofTokens_eq_ok_iff {tokens : List Token} {tree : Tree} :
    Tree.ofTokens tokens = .ok tree <->
      exists (derivation : Derivation .expression) (behind : List Lexeme),
        tokens.map Token.lexeme = derivation.yield ++ behind ∧
        behind.headD .endOfInput = .endOfInput ∧ derivation.tree = tree ∧
        derivation.depth ≤ maxDepth ∧ operatorCount derivation.yield ≤ maxOperators := by
  constructor
  · intro accepted
    have accounted := sound_expression maxDepth ⟨tokens, maxOperators⟩
    unfold Tree.ofTokens at accepted
    cases read : expression maxDepth ⟨tokens, maxOperators⟩ with
    | error fault =>
        rw [read] at accepted
        cases accepted
    | ok pair =>
        rw [read] at accepted accounted
        rcases accounted with ⟨derivation, same, shallow, passes⟩
        simp only [bind, Except.bind] at accepted
        split at accepted
        · next finished =>
            rw [Cursor.lexeme_current] at finished
            refine ⟨derivation, pair.2.lexemes, passes.lexemes, finished, ?_,
              Nat.le_of_lt_succ shallow, ?_⟩
            · exact same.trans (Except.ok.inj accepted)
            · rw [show maxOperators = _ from passes.operators]
              exact Nat.le_add_right _ _
        · cases accepted
  · rintro ⟨derivation, behind, spelled, finished, rfl, shallow, few⟩
    have stops : frontTightness behind < Category.expression.tightness := by
      cases behind with
      | nil => exact front_nil
      | cons lexeme rest =>
          rw [show lexeme = .endOfInput from finished]
          exact Nat.zero_lt_one
    have offers : Cursor.Offers ⟨tokens, maxOperators⟩ derivation.yield behind := ⟨spelled, few⟩
    rcases derivation.read shallow offers stops with ⟨after, read, passes⟩
    have left : after.lexemes = behind :=
      List.append_cancel_left (passes.lexemes.symm.trans spelled)
    have current : after.current.lexeme = .endOfInput := by
      rw [Cursor.lexeme_current, left, finished]
    unfold Tree.ofTokens
    rw [show expression maxDepth ⟨tokens, maxOperators⟩ = _ from read]
    simp only [bind, Except.bind, current]
    rfl

/-- When a token list is refused because of a numeral, the numeral is in it and is none. -/
theorem founded_of_ofTokens_eq_error {tokens : List Token} {fault : SyntaxFault}
    (refused : Tree.ofTokens tokens = .error fault) :
    fault.Founded (tokens.map Token.lexeme) := by
  have accounted := sound_expression maxDepth ⟨tokens, maxOperators⟩
  unfold Tree.ofTokens at refused
  cases read : expression maxDepth ⟨tokens, maxOperators⟩ with
  | error fault' =>
      rw [read] at refused accounted
      cases refused
      exact accounted
  | ok pair =>
      rw [read] at refused
      simp only [bind, Except.bind] at refused
      split at refused
      · cases refused
      · cases refused
        exact .unexpected pair.2 .afterExpression _

end Script
end ContactSearch
