import ContactSearch.Proofs.Script.Parsing

namespace ContactSearch
namespace Script

/-!
# What is nested too deeply

A derivation that opens more levels than are allowed is refused, and for no
other reason as long as its operators are few enough.  The reader goes through
the tokens from the left, and everything in front of the first level that may
not be opened is read as it should be.

So for tokens that have a derivation with few operators, the depth alone
decides between the tree and the refusal.
-/

theorem chain_of_refused {operator? : Lexeme -> Option (Tree -> Tree -> Tree)}
    {operand : Step Tree} {cursor : Cursor} {fault : SyntaxFault}
    (refused : operand cursor = .error fault) :
    chain operator? operand cursor = .error fault := by
  rw [chain, refused]
  rfl

theorem chainFrom_of_refused {operator? : Lexeme -> Option (Tree -> Tree -> Tree)}
    {operand : Step Tree} {fuel : Nat} {left : Tree} {cursor behind : Cursor}
    {combine : Tree -> Tree -> Tree} {fault : SyntaxFault}
    (found : operator? cursor.current.lexeme = some combine)
    (taken : cursor.takeOperator = .ok behind) (refused : operand behind = .error fault) :
    chainFrom operator? operand (fuel + 1) left cursor = .error fault := by
  rw [chainFrom, found]
  simp only [taken, refused, bind, Except.bind]

theorem access_of_refused {inner : Step Tree} {cursor : Cursor} {fault : SyntaxFault}
    (refused : primary inner cursor = .error fault) : access inner cursor = .error fault := by
  rw [access, refused]
  rfl

theorem accessesFrom_of_refused {inner : Step Tree} {fuel : Nat} {object : Tree}
    {cursor behind : Cursor} {fault : SyntaxFault}
    (current : cursor.current.lexeme = .symbol .openBracket)
    (taken : cursor.takeOperator = .ok behind) (refused : inner behind = .error fault) :
    accessesFrom inner (fuel + 1) object cursor = .error fault := by
  rw [accessesFrom, current]
  simp only [taken, refused, bind, Except.bind]

theorem negation_of_refused {operand inner : Step Tree} {cursor : Cursor} {fault : SyntaxFault}
    (current : cursor.current.lexeme = .symbol .bang)
    (refused : operand cursor.next = .error fault) :
    negation operand inner cursor = .error fault := by
  rw [negation, if_pos current, refused]
  rfl

theorem primary_of_refused {inner : Step Tree} {cursor : Cursor} {fault : SyntaxFault}
    (current : cursor.current.lexeme = .symbol .openParen)
    (refused : inner cursor.next = .error fault) : primary inner cursor = .error fault := by
  unfold primary
  rw [current]
  simp only [refused, bind, Except.bind]

theorem lt_of_lt_max {levels first rest : Nat} (deep : levels < max first rest)
    (shallow : first ≤ levels) : levels < rest := by
  omega

mutual

/-- A derivation that opens more levels than the reader may is refused as nested too deeply. -/
theorem Derivation.refuse {category : Category} :
    forall (derivation : Derivation category) {levels : Nat} {cursor : Cursor}
      {behind : List Lexeme}, levels < derivation.depth ->
      cursor.Offers derivation.yield behind -> frontTightness behind < category.tightness ->
      readerOf levels category cursor = .error .tooDeep
  | .expression body, levels, cursor, behind, deep, offers, stops => by
      cases levels with
      | zero => rfl
      | succ levels => exact body.refuse (Nat.lt_of_succ_lt_succ deep) offers stops
  | .chain first rest, levels, cursor, behind, deep, offers, stops => by
      rw [readerOf_chain]
      by_cases shallow : first.depth ≤ levels
      · rcases first.read shallow offers.front (rest.front_chain stops) with ⟨middle, read, passes⟩
        rw [chain_of_read read]
        apply rest.refuse first.tree _ (offers.passed passes) (Nat.le_refl _) stops
        exact lt_of_lt_max deep shallow
      · apply chain_of_refused
        exact first.refuse (Nat.lt_of_not_le shallow) offers.front (rest.front_chain stops)
  | .not operand, levels, cursor, behind, deep, offers, stops => by
      cases levels with
      | zero => exact negation_of_refused offers.current rfl
      | succ levels =>
          apply negation_of_refused offers.current
          exact operand.refuse (Nat.lt_of_succ_lt_succ deep) (offers.next Lexeme.noConfusion rfl)
            stops
  | .plain access, levels, cursor, behind, deep, offers, stops => by
      rcases operand_eq_negation levels with ⟨nested, same⟩
      rcases access.front_access with ⟨lexeme, tail, front, different⟩
      have current : cursor.current.lexeme = lexeme := by
        rw [cursor.lexeme_current, offers.lexemes, Derivation.yield, front]
        rfl
      rw [readerOf, same, negation_of_ne (current ▸ different)]
      exact access.refuse deep offers stops
  | .access object rest, levels, cursor, behind, deep, offers, stops => by
      by_cases shallow : object.depth ≤ levels
      · rcases object.read shallow offers.front (Continuation.front_access _) with
          ⟨middle, read, passes⟩
        apply (access_of_read read).trans
        apply rest.refuse object.tree _ (offers.passed passes) (Nat.le_refl _) stops
        exact lt_of_lt_max deep shallow
      · apply access_of_refused
        exact object.refuse (Nat.lt_of_not_le shallow) offers.front (Continuation.front_access _)
  | .parenthesized inner, levels, cursor, behind, deep, offers, _ => by
      apply primary_of_refused offers.current
      have inside := offers.next Lexeme.noConfusion rfl
      exact inner.refuse deep inside.front (front_closeParen _)
  | .literal _ _ _, _, _, _, deep, _, _ => absurd deep (Nat.not_lt_zero _)
  | .this, _, _, _, deep, _, _ => absurd deep (Nat.not_lt_zero _)
  | .identifier _, _, _, _, deep, _, _ => absurd deep (Nat.not_lt_zero _)

/-- What follows is refused behind any tree if it opens more levels than the reader may. -/
theorem Continuation.refuse {repetition : Repetition} :
    forall (rest : Continuation repetition) (left : Tree) {levels fuel : Nat} {cursor : Cursor}
      {behind : List Lexeme}, levels < rest.depth -> cursor.Offers rest.yield behind ->
      cursor.operators ≤ fuel -> frontTightness behind < repetition.tightness ->
      loopOf levels repetition fuel left cursor = .error .tooDeep
  | .chainEnd, _, _, _, _, _, deep, _, _, _ => absurd deep (Nat.not_lt_zero _)
  | .accessEnd, _, _, _, _, _, deep, _, _, _ => absurd deep (Nat.not_lt_zero _)
  | .chainMore sign operand rest, left, levels, fuel, cursor, behind, deep, offers, enough,
      stops => by
      rcases offers.takeOperator sign.isOperator_symbol with ⟨start, taken, first, offers'⟩
      have found := offers.current ▸ Level.operator?_symbol sign
      by_cases shallow : operand.depth ≤ levels
      · rcases operand.read shallow offers'.front (rest.front_chain stops) with
          ⟨middle, read, second⟩
        rcases first.fuel sign.isOperator_symbol second enough with ⟨fuel, rfl, fewer⟩
        apply (chainFrom_of_some found taken read).trans
        apply rest.refuse (sign.combine left operand.tree) _ (offers'.passed second) fewer stops
        exact lt_of_lt_max deep shallow
      · rcases first.fuel sign.isOperator_symbol (.refl start) enough with ⟨fuel, rfl, _⟩
        apply chainFrom_of_refused found taken
        exact operand.refuse (Nat.lt_of_not_le shallow) offers'.front (rest.front_chain stops)
  | .member property rest, left, levels, fuel, cursor, behind, deep, offers, enough, stops => by
      rcases offers.takeOperator rfl with ⟨start, taken, first, offers'⟩
      have second := Cursor.Passes.next offers'.current Lexeme.noConfusion rfl
      rcases first.fuel rfl second enough with ⟨fuel, rfl, fewer⟩
      apply (accessesFrom_of_dot offers.current taken offers'.current).trans
      exact rest.refuse (.member left property) deep (offers'.next Lexeme.noConfusion rfl) fewer
        stops
  | .index key rest, left, levels, fuel, cursor, behind, deep, offers, enough, stops => by
      rcases offers.takeOperator rfl with ⟨start, taken, first, offers'⟩
      by_cases shallow : key.depth ≤ levels
      · rcases key.read shallow offers'.front (front_closeBracket _) with ⟨middle, read, second⟩
        have closing := offers'.passed second
        have third := Cursor.Passes.next closing.current Lexeme.noConfusion rfl
        rcases first.fuel rfl (second.trans third) enough with ⟨fuel, rfl, fewer⟩
        apply (accessesFrom_of_openBracket offers.current taken read (closing.expect _)).trans
        apply rest.refuse (.index left key.tree) _ (closing.next Lexeme.noConfusion rfl) fewer
          stops
        exact lt_of_lt_max deep shallow
      · rcases first.fuel rfl (.refl start) enough with ⟨fuel, rfl, _⟩
        apply accessesFrom_of_refused offers.current taken
        exact key.refuse (Nat.lt_of_not_le shallow) offers'.front (front_closeBracket _)

end

/-! ## Whole scripts -/

theorem ofTokens_of_deep {tokens : List Token} {derivation : Derivation .expression}
    (spelled : tokens.map Token.lexeme = derivation.yield ++ [.endOfInput])
    (deep : maxDepth < derivation.depth)
    (few : operatorCount derivation.yield ≤ maxOperators) :
    Tree.ofTokens tokens = .error .tooDeep := by
  have offers : Cursor.Offers ⟨tokens, maxOperators⟩ derivation.yield [.endOfInput] :=
    ⟨spelled, few⟩
  have refused : expression maxDepth ⟨tokens, maxOperators⟩ = .error .tooDeep :=
    derivation.refuse deep offers Nat.zero_lt_one
  rw [Tree.ofTokens, refused]
  rfl

/-- Of tokens with a derivation that has few operators, the depth decides what becomes. -/
theorem parse_of_derivation {source : String} {derivation : Derivation .expression}
    (spelled : lexemes source.toList = derivation.yield ++ [.endOfInput])
    (few : operatorCount derivation.yield ≤ maxOperators) :
    Tree.parse source =
      if derivation.depth ≤ maxDepth then .ok derivation.tree else .error .tooDeep := by
  by_cases shallow : derivation.depth ≤ maxDepth
  · rw [if_pos shallow]
    exact parse_eq_ok_iff.mpr ⟨derivation, spelled, rfl, shallow, few⟩
  · rw [if_neg shallow]
    exact ofTokens_of_deep spelled (Nat.lt_of_not_le shallow) few

end Script
end ContactSearch
