import ContactSearch.Proofs.Script.Completeness
import ContactSearch.Proofs.Script.Lexemes
import ContactSearch.Script.Evaluation

namespace ContactSearch
namespace Script

/-!
# What parsing accepts

A script is parsed exactly when its tokens, apart from the end of the input,
are the yield of a derivation within both limits.  The tree is the tree of the
derivation, and there is no other derivation with these tokens.

A rejected script is always rejected as malformed.  It is never rejected for a
numeral, because the reader of tokens takes nothing for a numeral that spells
no number.
-/

mutual

/-- A derivation yields neither the end of the input nor a fault. -/
theorem Derivation.isTerminal_of_mem_yield {category : Category} :
    forall (derivation : Derivation category) {lexeme : Lexeme},
      lexeme ∈ derivation.yield -> lexeme.isTerminal = false
  | .expression body, _, member => body.isTerminal_of_mem_yield member
  | .chain first rest, _, member => by
      rcases List.mem_append.mp member with front | behind
      · exact first.isTerminal_of_mem_yield front
      · exact rest.isTerminal_of_mem_yield behind
  | .not operand, _, member => by
      rcases List.mem_cons.mp member with rfl | behind
      · rfl
      · exact operand.isTerminal_of_mem_yield behind
  | .plain access, _, member => access.isTerminal_of_mem_yield member
  | .access object rest, _, member => by
      rcases List.mem_append.mp member with front | behind
      · exact object.isTerminal_of_mem_yield front
      · exact rest.isTerminal_of_mem_yield behind
  | .literal lexeme value spelled, _, member => by
      cases List.mem_singleton.mp member
      cases spelled <;> rfl
  | .this, _, member => by
      cases List.mem_singleton.mp member
      rfl
  | .identifier name, _, member => by
      cases List.mem_singleton.mp member
      rfl
  | .parenthesized inner, _, member => by
      rcases List.mem_cons.mp member with rfl | behind
      · rfl
      · rcases List.mem_append.mp behind with inside | closing
        · exact inner.isTerminal_of_mem_yield inside
        · cases List.mem_singleton.mp closing
          rfl

/-- What follows yields neither of them either. -/
theorem Continuation.isTerminal_of_mem_yield {repetition : Repetition} :
    forall (rest : Continuation repetition) {lexeme : Lexeme},
      lexeme ∈ rest.yield -> lexeme.isTerminal = false
  | .chainMore sign operand rest, _, member => by
      rcases List.mem_cons.mp member with rfl | behind
      · rfl
      · rcases List.mem_append.mp behind with front | behind
        · exact operand.isTerminal_of_mem_yield front
        · exact rest.isTerminal_of_mem_yield behind
  | .member property rest, _, member => by
      rcases List.mem_cons.mp member with rfl | behind
      · rfl
      · rcases List.mem_cons.mp behind with rfl | behind
        · rfl
        · exact rest.isTerminal_of_mem_yield behind
  | .index key rest, _, member => by
      rcases List.mem_cons.mp member with rfl | behind
      · rfl
      · rcases List.mem_append.mp behind with inside | behind
        · exact key.isTerminal_of_mem_yield inside
        · rcases List.mem_cons.mp behind with rfl | behind
          · rfl
          · exact rest.isTerminal_of_mem_yield behind

end

/-- A script is parsed when its tokens are those of a derivation within both limits. -/
theorem parse_eq_ok_iff {source : String} {tree : Tree} :
    Tree.parse source = .ok tree <->
      exists derivation : Derivation .expression,
        lexemes source.toList = derivation.yield ++ [.endOfInput] ∧ derivation.tree = tree ∧
        derivation.depth ≤ maxDepth ∧ operatorCount derivation.yield ≤ maxOperators := by
  rw [Tree.parse, ofTokens_eq_ok_iff, map_lexeme_tokenize]
  constructor
  · rintro ⟨derivation, behind, shape, finished, same, shallow, few⟩
    exact ⟨derivation, lexemes_eq_append_endOfInput shape
      (fun _ => derivation.isTerminal_of_mem_yield) finished, same, shallow, few⟩
  · rintro ⟨derivation, shape, same, shallow, few⟩
    exact ⟨derivation, [.endOfInput], shape, rfl, same, shallow, few⟩

/-- No script is refused for a numeral. -/
theorem parse_ne_invalidNumber (source : String) (digits : String) (position : Nat) :
    Tree.parse source ≠ .error (.invalidNumber digits position) := by
  intro refused
  rcases founded_of_ofTokens_eq_error refused digits position rfl with ⟨member, none⟩
  rw [map_lexeme_tokenize] at member
  rcases ofText?_of_number_mem member with ⟨whole, fraction, spelled⟩
  rw [spelled] at none
  cases none

/--
Parsing accepts exactly the texts whose tokens have a derivation that opens at most 200 levels
and has at most 256 operators.  The derivation is unique, its tree is the result, and whatever is
rejected is rejected as malformed, but never for a numeral.
-/
theorem parse_accepts_grammar_exactly (source : String) :
    (forall tree, Tree.parse source = .ok tree <->
      exists derivation : Derivation .expression,
        (tokenize source).map Token.lexeme = derivation.yield ++ [.endOfInput] ∧
        derivation.tree = tree ∧ derivation.depth ≤ 200 ∧
        operatorCount derivation.yield ≤ 256) ∧
    (forall first second : Derivation .expression, first.yield = second.yield -> first = second) ∧
    (forall fault, Expression.parse source = .error fault ->
      exists syntaxFault, fault = .malformed syntaxFault ∧
        fault.message = "Parse error: " ++ syntaxFault.message ∧
        forall digits position, syntaxFault ≠ .invalidNumber digits position) := by
  refine ⟨fun tree => parse_eq_ok_iff, fun first second => Derivation.yield_injective, ?_⟩
  intro fault rejected
  unfold Expression.parse at rejected
  cases parsed : Tree.parse source with
  | ok tree =>
      rw [parsed] at rejected
      cases rejected
  | error syntaxFault =>
      rw [parsed] at rejected
      cases rejected
      refine ⟨syntaxFault, rfl, rfl, ?_⟩
      intro digits position same
      exact parse_ne_invalidNumber source digits position (same ▸ parsed)

end Script
end ContactSearch
