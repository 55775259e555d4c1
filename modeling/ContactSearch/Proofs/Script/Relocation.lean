import ContactSearch.Proofs.Outcome
import ContactSearch.Proofs.Script.ViablePrefix

namespace ContactSearch
namespace Script

/-!
# Tokens at other positions

What is read from a token list depends on what its tokens are, and not on
where they stand.  The readers never look at a position.  They pass it on,
when they are refused, from the token at which they stop to the fault.

So when all tokens are moved, in whichever way, the same tree is read or the
same fault is raised at the moved position.  The only position that belongs to
no token is the one that is shown where no tokens are left, and a list with an
end never gets there.
-/

/-- A token at another position. -/
def Token.moved (move : Nat -> Nat) (token : Token) : Token :=
  { token with position := move token.position }

/-- A cursor whose tokens stand at other positions. -/
def Cursor.moved (move : Nat -> Nat) (cursor : Cursor) : Cursor :=
  { cursor with tokens := cursor.tokens.map (Token.moved move) }

section Cursors

variable {move : Nat -> Nat} {cursor : Cursor}

theorem map_lexeme_moved (tokens : List Token) :
    (tokens.map (Token.moved move)).map Token.lexeme = tokens.map Token.lexeme :=
  List.map_map

theorem Cursor.IsClosed.current_moved (closed : cursor.IsClosed) :
    (cursor.moved move).current = cursor.current.moved move := by
  rcases closed.exists_cons with ⟨rest, tokens⟩
  rw [Cursor.current, Cursor.moved, tokens]
  rfl

theorem Cursor.lexeme_current_moved :
    (cursor.moved move).current.lexeme = cursor.current.lexeme := by
  rw [lexeme_current, lexeme_current, lexemes, moved, map_lexeme_moved, lexemes]

theorem Cursor.next_moved : (cursor.moved move).next = cursor.next.moved move := by
  rw [next, next, moved, moved, List.map_tail]

theorem Cursor.IsClosed.unexpected_moved (closed : cursor.IsClosed) (context : Context) :
    (cursor.moved move).unexpected context = (cursor.unexpected context).moved move := by
  rw [Cursor.unexpected, Cursor.unexpected, closed.current_moved, Token.moved]
  cases cursor.current.lexeme <;> rfl

end Cursors

/-! ## Readers -/

/-- Two readings that come to the same, the second one from moved tokens. -/
def Moved (move : Nat -> Nat) :
    Except SyntaxFault (Tree × Cursor) -> Except SyntaxFault (Tree × Cursor) -> Prop :=
  Corresponds (fun fault other => other = fault.moved move)
    fun pair other => pair.2.IsClosed ∧ other = (pair.1, pair.2.moved move)

/-- A reader that comes to the same when the tokens are moved. -/
def Moves (move : Nat -> Nat) (step : Step Tree) : Prop :=
  forall cursor : Cursor, cursor.IsClosed -> Moved move (step cursor) (step (cursor.moved move))

section Readers

variable {move : Nat -> Nat} {cursor : Cursor}

namespace Moved

theorem read (tree : Tree) (closed : cursor.IsClosed) :
    Moved move (.ok (tree, cursor)) (.ok (tree, cursor.moved move)) :=
  .result ⟨closed, rfl⟩

theorem next (tree : Tree) (closed : cursor.IsClosed)
    (proper : cursor.current.lexeme.isTerminal = false) :
    Moved move (.ok (tree, cursor.next)) (.ok (tree, (cursor.moved move).next)) := by
  rw [Cursor.next_moved]
  exact .read tree (closed.next proper)

theorem unexpected (closed : cursor.IsClosed) (context : Context) :
    Moved move (.error (cursor.unexpected context))
      (.error ((cursor.moved move).unexpected context)) :=
  .fault (closed.unexpected_moved context)

/-- What comes behind a reading is followed from what was read. -/
theorem bind {outcome outcome' : Except SyntaxFault (Tree × Cursor)}
    (moved : Moved move outcome outcome') (step : Tree -> Step Tree)
    (onRead : forall tree, Moves move (step tree)) :
    Moved move (outcome >>= fun pair => step pair.1 pair.2)
      (outcome' >>= fun pair => step pair.1 pair.2) := by
  apply Corresponds.bind moved
  rintro ⟨tree, after⟩ other ⟨closed, rfl⟩
  exact onRead tree after closed

theorem takeOperator {step : Step Tree} (moves : Moves move step) (closed : cursor.IsClosed)
    (proper : cursor.current.lexeme.isTerminal = false) :
    Moved move (cursor.takeOperator >>= step) ((cursor.moved move).takeOperator >>= step) := by
  have closed' := closed.next proper
  rcases cursor with ⟨tokens, operators⟩
  cases operators with
  | zero => exact .fault rfl
  | succ operators =>
      have behind := moves ⟨tokens.tail, operators⟩ closed'
      rw [Cursor.moved, List.map_tail] at behind
      exact behind

theorem expect {step : Step Tree} (moves : Moves move step) (closed : cursor.IsClosed)
    (mark : Symbol) (context : Context) :
    Moved move (cursor.expect mark context >>= step)
      ((cursor.moved move).expect mark context >>= step) := by
  rw [Cursor.expect, Cursor.expect, Cursor.lexeme_current_moved]
  by_cases present : cursor.current.lexeme = .symbol mark
  · rw [if_pos present, if_pos present, Cursor.next_moved]
    exact moves cursor.next (closed.next (present ▸ rfl))
  · rw [if_neg present, if_neg present]
    exact .unexpected closed context

end Moved

theorem moves_tooDeep : Moves move tooDeep :=
  fun _ _ => .fault rfl

/-- The loop of a chain; every round passes an operator and an operand. -/
theorem moves_chainFrom {level : Level} {operand : Step Tree} (moves : Moves move operand) :
    forall (fuel : Nat) (left : Tree),
      Moves move (chainFrom level.operator? operand fuel left) := by
  intro fuel
  induction fuel with
  | zero =>
      intro left cursor closed
      rw [chainFrom, chainFrom, Cursor.lexeme_current_moved]
      cases level.operator? cursor.current.lexeme with
      | none => exact .read left closed
      | some combine => exact .fault rfl
  | succ fuel ih =>
      intro left cursor closed
      rw [chainFrom, chainFrom, Cursor.lexeme_current_moved]
      cases found : level.operator? cursor.current.lexeme with
      | none => exact .read left closed
      | some combine =>
          rcases level.exists_sign found with ⟨sign, current, rfl⟩
          apply Moved.takeOperator _ closed (current ▸ rfl)
          intro behind closed'
          apply (moves behind closed').bind fun right =>
            chainFrom level.operator? operand fuel (sign.combine left right)
          exact fun right => ih (sign.combine left right)

theorem moves_chain (level : Level) {operand : Step Tree} (moves : Moves move operand) :
    Moves move (chain level.operator? operand) := by
  intro cursor closed
  apply (moves cursor closed).bind fun left after =>
    chainFrom level.operator? operand after.operators left after
  exact fun left after closed' => moves_chainFrom moves after.operators left after closed'

/-- The loop of accesses; every round passes a property or a key in brackets. -/
theorem moves_accessesFrom {inner : Step Tree} (moves : Moves move inner) :
    forall (fuel : Nat) (object : Tree), Moves move (accessesFrom inner fuel object) := by
  intro fuel
  induction fuel with
  | zero =>
      intro object cursor closed
      have ends : Moved move (.ok (object, cursor)) _ := .read object closed
      rw [accessesFrom, accessesFrom, Cursor.lexeme_current_moved]
      cases cursor.current.lexeme with
      | symbol mark =>
          cases mark with
          | dot => exact .fault rfl
          | openBracket => exact .fault rfl
          | _ => exact ends
      | _ => exact ends
  | succ fuel ih =>
      intro object cursor closed
      have ends : Moved move (.ok (object, cursor)) _ := .read object closed
      rw [accessesFrom, accessesFrom, Cursor.lexeme_current_moved]
      cases current : cursor.current.lexeme with
      | symbol mark =>
          cases mark with
          | dot =>
              apply Moved.takeOperator _ closed (current ▸ rfl)
              intro behind closed'
              have refused : Moved move (.error (behind.unexpected .afterDot)) _ :=
                .unexpected closed' .afterDot
              dsimp only
              rw [Cursor.lexeme_current_moved]
              cases named : behind.current.lexeme with
              | identifier name =>
                  dsimp only
                  rw [Cursor.next_moved]
                  exact ih (.member object name) behind.next (closed'.next (named ▸ rfl))
              | _ => exact refused
          | openBracket =>
              apply Moved.takeOperator _ closed (current ▸ rfl)
              intro behind closed'
              apply (moves behind closed').bind fun key after =>
                after.expect .closeBracket .closingBracket >>=
                  accessesFrom inner fuel (.index object key)
              exact fun key after closed'' => .expect (ih (.index object key)) closed'' _ _
          | _ => exact ends
      | _ => exact ends

theorem moves_primary {inner : Step Tree} (moves : Moves move inner) :
    Moves move (primary inner) := by
  intro cursor closed
  have refused : Moved move (.error (cursor.unexpected .operand)) _ :=
    .unexpected closed .operand
  have passed (tree : Tree) (proper : cursor.current.lexeme.isTerminal = false) :
      Moved move (.ok (tree, cursor.next)) _ := .next tree closed proper
  rw [primary, primary, Cursor.lexeme_current_moved]
  cases current : cursor.current.lexeme with
  | string value => exact passed _ (current ▸ rfl)
  | number digits =>
      dsimp only
      cases Double.ofText? digits.toList with
      | some value => exact passed _ (current ▸ rfl)
      | none => exact .fault (congrArg (SyntaxFault.invalidNumber digits)
          (congrArg Token.position closed.current_moved))
  | keyword word => exact passed _ (current ▸ rfl)
  | identifier name => exact passed _ (current ▸ rfl)
  | symbol mark =>
      cases mark with
      | openParen =>
          dsimp only
          rw [Cursor.next_moved]
          apply (moves cursor.next (closed.next (current ▸ rfl))).bind fun tree after =>
            after.expect .closeParen .closingParenthesis >>= fun behind => .ok (tree, behind)
          intro tree after closed'
          have ends : Moves move fun behind => .ok (tree, behind) :=
            fun behind closed'' => .read tree closed''
          exact .expect ends closed' _ _
      | _ => exact refused
  | _ => exact refused

theorem moves_access {inner : Step Tree} (moves : Moves move inner) :
    Moves move (access inner) := by
  intro cursor closed
  apply (moves_primary moves cursor closed).bind fun object after =>
    accessesFrom inner after.operators object after
  exact fun object after closed' => moves_accessesFrom moves after.operators object after closed'

theorem moves_negation {operand inner : Step Tree} (nested : Moves move operand)
    (moves : Moves move inner) : Moves move (negation operand inner) := by
  intro cursor closed
  rw [negation, negation, Cursor.lexeme_current_moved]
  by_cases bang : cursor.current.lexeme = .symbol .bang
  · rw [if_pos bang, if_pos bang, Cursor.next_moved]
    apply (nested cursor.next (closed.next (bang ▸ rfl))).bind fun tree after =>
      .ok (.not tree, after)
    exact fun tree after closed' => .read (.not tree) closed'
  · rw [if_neg bang, if_neg bang]
    exact moves_access moves cursor closed

theorem moves_disjunction {operand : Step Tree} (moves : Moves move operand) :
    Moves move (disjunction operand) :=
  moves_chain .disjunction (moves_chain .conjunction (moves_chain .equality moves))

theorem moves_operand : forall levels, Moves move (operand levels)
  | 0 => moves_negation moves_tooDeep moves_tooDeep
  | levels + 1 => moves_negation (moves_operand levels) (moves_disjunction (moves_operand levels))

theorem moves_expression : forall levels, Moves move (expression levels)
  | 0 => moves_tooDeep
  | levels + 1 => moves_disjunction (moves_operand levels)

/-- From moved tokens the same tree is read, or the same fault is raised at the moved position. -/
theorem ofTokens_moved (move : Nat -> Nat) {tokens : List Token}
    (closed : Cursor.IsClosed ⟨tokens, maxOperators⟩) :
    Corresponds (fun fault other => other = fault.moved move) Eq (Tree.ofTokens tokens)
      (Tree.ofTokens (tokens.map (Token.moved move))) := by
  apply Corresponds.bind (moves_expression maxDepth ⟨tokens, maxOperators⟩ closed)
  rintro ⟨tree, after⟩ other ⟨closed', rfl⟩
  dsimp only
  rw [Cursor.lexeme_current_moved]
  split
  · exact .result rfl
  · exact .fault (closed'.unexpected_moved .afterExpression)

end Readers
end Script
end ContactSearch
