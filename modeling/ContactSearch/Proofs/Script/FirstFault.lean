import ContactSearch.Proofs.Script.ViablePrefix

namespace ContactSearch
namespace Script

/-!
# Where a script is refused

Apart from the two limits, a script is refused at the first token that no
expression can have there.  This separates into two obligations.  What stands
in front of the token can be completed, and with the token it cannot.

The first is what the readers keep: in front of the token at which they stop
they have passed the beginning of an expression.  For the second, note that
they would stop there whatever stood behind the token.  But the tokens of an
expression are never refused for anything but a limit, which is shown here by
induction on derivations.
-/

/-! ## Expressions are refused for nothing but a limit -/

/-- What becomes of a reader that gets to some tokens unless it is stopped by a limit. -/
inductive Limited (behind : List Lexeme) : Except SyntaxFault (Tree × Cursor) -> Prop
  | read (tree : Tree) {after : Cursor} (left : after.lexemes = behind) :
      Limited behind (.ok (tree, after))
  | tooDeep : Limited behind (.error .tooDeep)
  | tooManyOperators : Limited behind (.error .tooManyOperators)

namespace Limited

variable {cursor : Cursor} {lexeme : Lexeme} {between rest behind : List Lexeme}

theorem bind {outcome : Except SyntaxFault (Tree × Cursor)} (limited : Limited between outcome)
    (next : Tree -> Step Tree)
    (onRead : forall tree after, after.lexemes = between -> Limited behind (next tree after)) :
    Limited behind (outcome >>= fun pair => next pair.1 pair.2) := by
  cases limited with
  | read tree left => exact onRead tree _ left
  | tooDeep => exact .tooDeep
  | tooManyOperators => exact .tooManyOperators

theorem lexemes_next (offered : cursor.lexemes = lexeme :: rest) : cursor.next.lexemes = rest := by
  rw [Cursor.lexemes_next, offered]
  rfl

theorem current (offered : cursor.lexemes = lexeme :: rest) : cursor.current.lexeme = lexeme := by
  rw [Cursor.lexeme_current, offered]
  rfl

theorem tightness_current (offered : cursor.lexemes = behind) :
    cursor.current.lexeme.tightness = frontTightness behind := by
  rw [Cursor.lexeme_current, offered]
  cases behind <;> rfl

theorem takeOperator {next : Step Tree} (offered : cursor.lexemes = lexeme :: rest)
    (onTaken : forall after : Cursor, after.lexemes = rest -> Limited behind (next after)) :
    Limited behind (cursor.takeOperator >>= next) := by
  have left := lexemes_next offered
  rcases cursor with ⟨tokens, operators⟩
  cases operators with
  | zero => exact .tooManyOperators
  | succ operators => exact onTaken ⟨tokens.tail, operators⟩ left

theorem expect {mark : Symbol} {context : Context} {next : Step Tree}
    (offered : cursor.lexemes = .symbol mark :: rest)
    (onFound : forall after : Cursor, after.lexemes = rest -> Limited behind (next after)) :
    Limited behind (cursor.expect mark context >>= next) := by
  rw [Cursor.expect, if_pos (current offered)]
  exact onFound cursor.next (lexemes_next offered)

end Limited

mutual

/--
The tokens of a derivation are passed or refused for a limit, if the token behind them does not
belong to it.
-/
theorem Derivation.limited {category : Category} :
    forall (derivation : Derivation category) (levels : Nat) {cursor : Cursor}
      {behind : List Lexeme}, cursor.lexemes = derivation.yield ++ behind ->
      frontTightness behind < category.tightness ->
      Limited behind (readerOf levels category cursor)
  | .expression body, levels, cursor, behind, offered, stops => by
      cases levels with
      | zero => exact .tooDeep
      | succ levels => exact body.limited levels offered stops
  | .chain first rest, levels, cursor, behind, offered, stops => by
      rw [readerOf_chain]
      rw [Derivation.yield, List.append_assoc] at offered
      apply (first.limited levels offered (rest.front_chain stops)).bind
        (fun left after => chainFrom _ _ after.operators left after)
      intro left after offered'
      exact rest.limited left levels after.operators offered' stops
  | .not operand, levels, cursor, behind, offered, stops => by
      have bang := Limited.current offered
      have offered' := Limited.lexemes_next offered
      cases levels with
      | zero =>
          rw [readerOf, Script.operand, negation, if_pos bang]
          exact .tooDeep
      | succ levels =>
          rw [readerOf, Script.operand, negation, if_pos bang]
          apply (operand.limited levels offered' stops).bind
            (fun tree after => .ok (.not tree, after))
          exact fun tree after left => .read (.not tree) left
  | .plain access, levels, cursor, behind, offered, stops => by
      rcases operand_eq_negation levels with ⟨nested, same⟩
      rcases access.front_access with ⟨lexeme, tail, front, different⟩
      have current : cursor.current.lexeme = lexeme := by
        apply Limited.current
        rw [offered, Derivation.yield, front, List.cons_append]
      rw [readerOf, same, negation_of_ne (current ▸ different)]
      exact access.limited levels offered stops
  | .access object rest, levels, cursor, behind, offered, stops => by
      rw [Derivation.yield, List.append_assoc] at offered
      apply (object.limited levels offered (Continuation.front_access _)).bind
        (fun tree after => accessesFrom _ after.operators tree after)
      intro tree after offered'
      exact rest.limited tree levels after.operators offered' stops
  | .literal lexeme value spelled, levels, cursor, behind, offered, _ => by
      rw [readerOf, primary_of_spells (Limited.current offered) spelled]
      exact .read _ (Limited.lexemes_next offered)
  | .this, levels, cursor, behind, offered, _ => by
      rw [readerOf, primary, Limited.current offered]
      exact .read _ (Limited.lexemes_next offered)
  | .identifier name, levels, cursor, behind, offered, _ => by
      rw [readerOf, primary, Limited.current offered]
      exact .read _ (Limited.lexemes_next offered)
  | .parenthesized inner, levels, cursor, behind, offered, _ => by
      rw [Derivation.yield, List.cons_append, List.append_assoc] at offered
      rw [readerOf, primary, Limited.current offered]
      have offered' := Limited.lexemes_next offered
      apply (inner.limited levels offered' (front_closeParen behind)).bind
        (fun tree after => after.expect .closeParen .closingParenthesis >>= fun closed =>
          .ok (tree, closed))
      intro tree after closing
      exact .expect closing fun closed left => .read tree left

/-- The same holds for what follows, behind any tree and with any fuel. -/
theorem Continuation.limited {repetition : Repetition} :
    forall (rest : Continuation repetition) (left : Tree) (levels fuel : Nat) {cursor : Cursor}
      {behind : List Lexeme}, cursor.lexemes = rest.yield ++ behind ->
      frontTightness behind < repetition.tightness ->
      Limited behind (loopOf levels repetition fuel left cursor)
  | .chainEnd, left, levels, fuel, cursor, behind, offered, stops => by
      have ends := Level.operator?_eq_none (Limited.tightness_current offered ▸ stops)
      rw [loopOf, chainFrom_of_none ends]
      exact .read left offered
  | .chainMore sign operand rest, left, levels, fuel, cursor, behind, offered, stops => by
      rw [Continuation.yield, List.cons_append, List.append_assoc] at offered
      have found := Limited.current offered ▸ Level.operator?_symbol sign
      cases fuel with
      | zero =>
          rw [loopOf, chainFrom, found]
          exact .tooManyOperators
      | succ fuel =>
          rw [loopOf, chainFrom, found]
          apply Limited.takeOperator offered
          intro start offered'
          apply (operand.limited levels offered' (rest.front_chain stops)).bind
            (fun right after => chainFrom _ _ fuel (sign.combine left right) after)
          intro right after offered''
          exact rest.limited (sign.combine left right) levels fuel offered'' stops
  | .accessEnd, left, levels, fuel, cursor, behind, offered, stops => by
      rw [loopOf, accessesFrom_of_looser (Limited.tightness_current offered ▸ stops)]
      exact .read left offered
  | .member property rest, left, levels, fuel, cursor, behind, offered, stops => by
      have current := Limited.current offered
      cases fuel with
      | zero =>
          rw [loopOf, accessesFrom, current]
          exact .tooManyOperators
      | succ fuel =>
          rw [loopOf, accessesFrom, current]
          apply Limited.takeOperator offered
          intro start offered'
          simp only [Limited.current offered']
          exact rest.limited (.member left property) levels fuel
            (Limited.lexemes_next offered') stops
  | .index key rest, left, levels, fuel, cursor, behind, offered, stops => by
      rw [Continuation.yield, List.cons_append, List.append_assoc, List.cons_append] at offered
      have current := Limited.current offered
      cases fuel with
      | zero =>
          rw [loopOf, accessesFrom, current]
          exact .tooManyOperators
      | succ fuel =>
          rw [loopOf, accessesFrom, current]
          apply Limited.takeOperator offered
          intro start offered'
          apply (key.limited levels offered' (front_closeBracket _)).bind
            (fun tree after => after.expect .closeBracket .closingBracket >>=
              accessesFrom _ fuel (.index left tree))
          intro tree after closing
          apply Limited.expect closing
          intro closed offered''
          exact rest.limited (.index left tree) levels fuel offered'' stops

end

/-! ## Whole scripts -/

/-- The reader of expressions that the end of the input follows. -/
def script : Step Tree := fun cursor =>
  expression maxDepth cursor >>= fun pair =>
    if pair.2.current.lexeme = .endOfInput then .ok pair
    else .error (pair.2.unexpected .afterExpression)

theorem ofTokens_eq_error_iff {tokens : List Token} {fault : SyntaxFault} :
    Tree.ofTokens tokens = .error fault <-> script ⟨tokens, maxOperators⟩ = .error fault := by
  rw [Tree.ofTokens, script]
  cases expression maxDepth ⟨tokens, maxOperators⟩ with
  | error fault' =>
      simp only [bind, Except.bind]
      rw [Except.error.injEq, Except.error.injEq]
  | ok pair =>
      simp only [bind, Except.bind]
      split
      · constructor <;> intro same <;> cases same
      · rw [Except.error.injEq, Except.error.injEq]

theorem traces_script : Traces .expression script := by
  intro cursor closed
  apply (traces_expression maxDepth cursor closed).bind
    (fun tree after => if after.current.lexeme = .endOfInput then .ok (tree, after)
      else .error (after.unexpected .afterExpression))
    (fun behind => behind = []) closed
  · intro tree after closed'
    by_cases finished : after.current.lexeme = .endOfInput
    · refine .of_branch (.pure tree rfl) fun other head _ => ?_
      rw [Cursor.current_eq_of_head? head, if_pos finished]
    · refine .of_branch (.unexpected closed' .afterExpression ⟨[], rfl⟩) fun other head _ => ?_
      rw [Cursor.current_eq_of_head? head, if_neg finished]
  · rintro front behind derived rfl
    rwa [List.append_nil]
  · exact ⟨[], rfl⟩

/-- A token list that an expression fills is refused for nothing but a limit. -/
theorem Derivation.limited_script (derivation : Derivation .expression) {tokens : List Token}
    (spelled : tokens.map Token.lexeme = derivation.yield ++ [.endOfInput]) :
    Limited [.endOfInput] (script ⟨tokens, maxOperators⟩) := by
  have offered : Cursor.lexemes ⟨tokens, maxOperators⟩ = derivation.yield ++ [.endOfInput] :=
    spelled
  apply (derivation.limited maxDepth offered Nat.zero_lt_one).bind
    (fun tree after => if after.current.lexeme = .endOfInput then .ok (tree, after)
      else .error (after.unexpected .afterExpression))
  intro tree after left
  rw [if_pos (Limited.current left)]
  exact .read tree left

/-- Tokens with which a script that is an expression can begin. -/
def Completable (lexemes : List Lexeme) : Prop :=
  exists derivation : Derivation .expression, lexemes <+: derivation.yield ++ [.endOfInput]

theorem isClosed_tokenize (source : String) (operators : Nat) :
    Cursor.IsClosed ⟨tokenize source, operators⟩ := by
  rcases lexemes_eq_append source.toList with ⟨body, last, shape, terminal, _⟩
  have member : last ∈ (tokenize source).map Token.lexeme := by
    rw [map_lexeme_tokenize, shape]
    exact List.mem_append_right body (List.mem_singleton_self last)
  rcases List.mem_map.mp member with ⟨token, member', rfl⟩
  exact ⟨token, member', terminal⟩

/-- No token list that begins like the given one is that of an expression. -/
theorem not_completable_of_refused {front : List Token} {fault : SyntaxFault}
    (refused : forall rest, script ⟨front ++ rest, maxOperators⟩ = .error fault)
    (shallow : fault ≠ .tooDeep) (few : fault ≠ .tooManyOperators) :
    ¬ Completable (front.map Token.lexeme) := by
  rintro ⟨derivation, more, filled⟩
  have spelled : (front ++ more.map (Token.mk · 0)).map Token.lexeme =
      derivation.yield ++ [.endOfInput] := by
    rw [List.map_append, List.map_map, <- filled]
    exact congrArg (front.map Token.lexeme ++ ·) (List.map_id more)
  have limited := derivation.limited_script spelled
  rw [refused] at limited
  cases limited with
  | tooDeep => exact shallow rfl
  | tooManyOperators => exact few rfl

/--
A script that is refused for anything but a limit is refused at one of its tokens, whose position
ends the message.  The tokens in front of it begin some expression, and with it they begin none.
-/
theorem refused_at_first_impossible_token {source : String} {fault : SyntaxFault}
    (refused : Tree.parse source = .error fault) (shallow : fault ≠ .tooDeep)
    (few : fault ≠ .tooManyOperators) :
    exists index token, (tokenize source)[index]? = some token ∧
      (exists text,
        fault.message = text ++ " at position " ++ Decimal.natText token.position) ∧
      Completable (((tokenize source).take index).map Token.lexeme) ∧
      ¬ Completable (((tokenize source).take (index + 1)).map Token.lexeme) := by
  have stopped := ofTokens_eq_error_iff.mp refused
  cases traces_script ⟨tokenize source, maxOperators⟩ (isClosed_tokenize source maxOperators) with
  | read passed tree after tokens proper whole same =>
      have front : tokenize source = passed ++ after.tokens := tokens
      rw [front, same after.tokens rfl] at stopped
      cases stopped
  | excepted fault' refused' excepted =>
      cases refused'.symm.trans stopped
      rcases excepted with rfl | rfl | ⟨digits, position, rfl⟩
      · exact absurd rfl shallow
      · exact absurd rfl few
      · exact absurd refused (parse_ne_invalidNumber source digits position)
  | refused passed token rest fault' tokens position begun same =>
      have split : tokenize source = passed ++ token :: rest := tokens
      rw [split, same rest] at stopped
      cases stopped
      rcases begun with ⟨more, derivation, yield⟩
      have upTo : passed ++ token :: rest = (passed ++ [token]) ++ rest := by
        rw [List.append_assoc, List.singleton_append]
      have length : passed.length + 1 = (passed ++ [token]).length := by
        rw [List.length_append, List.length_singleton]
      refine ⟨passed.length, token, ?_, SyntaxFault.exists_message position, ?_, ?_⟩
      · rw [split, List.getElem?_append_right (Nat.le_refl _), Nat.sub_self]
        rfl
      · rw [split, List.take_left]
        refine ⟨derivation, more ++ [.endOfInput], ?_⟩
        rw [<- List.append_assoc, yield]
      · rw [split, upTo, length, List.take_left]
        apply not_completable_of_refused _ shallow few
        intro rest'
        rw [List.append_assoc]
        exact same rest'

/-- The end of a text stands where an operand is missing: `this.a ==` with nothing behind. -/
theorem missing_operand_is_first_impossible :
    Tree.parse "this.a ==" = .error (.unexpectedEnd .operand 9) ∧
      exists index token, (tokenize "this.a ==")[index]? = some token ∧
        (exists text, SyntaxFault.message (.unexpectedEnd .operand 9) =
          text ++ " at position " ++ Decimal.natText token.position) ∧
        Completable (((tokenize "this.a ==").take index).map Token.lexeme) ∧
        ¬ Completable (((tokenize "this.a ==").take (index + 1)).map Token.lexeme) := by
  have tokens : tokenize "this.a ==" = [⟨.keyword .this, 0⟩, ⟨.symbol .dot, 4⟩,
      ⟨.identifier "a", 5⟩, ⟨.symbol .equal, 7⟩, ⟨.endOfInput, 9⟩] := by decide +kernel
  have refused : Tree.parse "this.a ==" = .error (.unexpectedEnd .operand 9) := by
    rw [Tree.parse, tokens]
    rfl
  exact ⟨refused, refused_at_first_impossible_token refused SyntaxFault.noConfusion
    SyntaxFault.noConfusion⟩

end Script
end ContactSearch
