import ContactSearch.Proofs.Script.Assembly
import ContactSearch.Proofs.Script.DepthLimit

namespace ContactSearch
namespace Script

/-!
# What readers have passed when they stop

Parsers that read from the left without going back have the property of viable
prefixes: when one stops, then what it has passed begins something that it
could have read.  Here this is followed through the readers of scripts, one
lemma for each way in which readers are put together.

It is kept as well that a reader sees one token ahead and no more.  What it did
it would do in front of every text that begins with the same tokens, and this
is what lets a fault tell something about all of these texts.  Nothing is said
about readers that stop at a limit, or at a numeral that spells no number.
-/

/-! ## Faults and their positions -/

/-- Where a fault points, unless it is about a limit. -/
def SyntaxFault.position? : SyntaxFault -> Option Nat
  | .invalidToken _ position => some position
  | .unexpectedEnd _ position => some position
  | .unexpectedToken _ _ position => some position
  | .invalidNumber _ position => some position
  | .tooDeep => none
  | .tooManyOperators => none

/-- A fault at another position; the limits have none. -/
def SyntaxFault.moved (move : Nat -> Nat) : SyntaxFault -> SyntaxFault
  | .invalidToken fault position => .invalidToken fault (move position)
  | .unexpectedEnd context position => .unexpectedEnd context (move position)
  | .unexpectedToken lexeme context position => .unexpectedToken lexeme context (move position)
  | .invalidNumber digits position => .invalidNumber digits (move position)
  | .tooDeep => .tooDeep
  | .tooManyOperators => .tooManyOperators

theorem SyntaxFault.moved_id (fault : SyntaxFault) : fault.moved id = fault := by
  cases fault <;> rfl

/-- A fault without a position stays what it is. -/
theorem SyntaxFault.moved_of_none {fault : SyntaxFault} (nowhere : fault.position? = none)
    (move : Nat -> Nat) : fault.moved move = fault := by
  cases fault with
  | tooDeep => rfl
  | tooManyOperators => rfl
  | _ => cases nowhere

/-- The message of a fault ends with its position, and tells nothing else about it. -/
theorem SyntaxFault.exists_message_moved {fault : SyntaxFault} {position : Nat}
    (located : fault.position? = some position) :
    exists text, forall move : Nat -> Nat, (fault.moved move).message =
      text ++ " at position " ++ Decimal.natText (move position) := by
  cases fault with
  | tooDeep => cases located
  | tooManyOperators => cases located
  | invalidNumber digits position =>
      cases located
      have joined (front : String) :
          front ++ "' at position " = front ++ "'" ++ " at position " := by
        rw [String.append_assoc]
        rfl
      exact ⟨_, fun move => congrArg (· ++ Decimal.natText (move position)) (joined _)⟩
  | _ =>
      cases located
      exact ⟨_, fun _ => rfl⟩

theorem SyntaxFault.exists_message {fault : SyntaxFault} {position : Nat}
    (located : fault.position? = some position) :
    exists text, fault.message = text ++ " at position " ++ Decimal.natText position := by
  rcases exists_message_moved located with ⟨text, ends⟩
  exact ⟨text, fault.moved_id ▸ ends id⟩

theorem Cursor.position?_unexpected (cursor : Cursor) (context : Context) :
    (cursor.unexpected context).position? = some cursor.current.position := by
  unfold Cursor.unexpected
  split <;> rfl

/-- The faults that point at no token of a text: the limits, and a numeral that is none. -/
def SyntaxFault.IsExcepted (fault : SyntaxFault) : Prop :=
  fault = .tooDeep ∨ fault = .tooManyOperators ∨
    exists digits position, fault = .invalidNumber digits position

/-! ## Cursors in front of an end -/

namespace Cursor

/-- Somewhere among the tokens that are left is one that ends a token list. -/
def IsClosed (cursor : Cursor) : Prop :=
  exists token, token ∈ cursor.tokens ∧ token.lexeme.isTerminal = true

variable {cursor other : Cursor}

/-- What is read next is the first of the tokens that are left. -/
theorem IsClosed.exists_cons (closed : cursor.IsClosed) :
    exists rest, cursor.tokens = cursor.current :: rest := by
  rcases closed with ⟨token, member, _⟩
  rw [current]
  cases tokens : cursor.tokens with
  | nil =>
      rw [tokens] at member
      cases member
  | cons first rest => exact ⟨rest, rfl⟩

theorem IsClosed.passed {passed rest : List Token} (closed : cursor.IsClosed)
    (tokens : cursor.tokens = passed ++ rest)
    (proper : forall token, token ∈ passed -> token.lexeme.isTerminal = false) (operators : Nat) :
    IsClosed ⟨rest, operators⟩ := by
  rcases closed with ⟨token, member, terminal⟩
  rw [tokens] at member
  rcases List.mem_append.mp member with front | behind
  · rw [proper token front] at terminal
    cases terminal
  · exact ⟨token, behind, terminal⟩

theorem IsClosed.next (closed : cursor.IsClosed)
    (proper : cursor.current.lexeme.isTerminal = false) : cursor.next.IsClosed := by
  rcases closed.exists_cons with ⟨rest, tokens⟩
  have split : cursor.tokens = [cursor.current] ++ cursor.next.tokens := by
    rw [Cursor.next, tokens]
    rfl
  exact closed.passed split (List.forall_mem_singleton.mpr proper) cursor.operators

/-- Cursors in front of the same token read it next. -/
theorem current_eq_of_head? (same : other.tokens.head? = cursor.tokens.head?) :
    other.current = cursor.current := by
  rw [current, current, List.headD_eq_head?_getD, List.headD_eq_head?_getD, same]

end Cursor

/-! ## Readers that see one token ahead -/

/--
What becomes of a reader at a cursor.  If it reads something, the tokens that it passes are a
whole of the given kind.  If it stops, they begin such a whole, and it stops at the token behind
them.  In both cases it would do the same if other tokens stood behind the next one.
-/
inductive Traced (Whole : List Lexeme -> Prop) (step : Step Tree) (cursor : Cursor) : Prop where
  | read (passed : List Token) (tree : Tree) (after : Cursor)
      (tokens : cursor.tokens = passed ++ after.tokens)
      (proper : forall token, token ∈ passed -> token.lexeme.isTerminal = false)
      (whole : Whole (passed.map Token.lexeme))
      (same : forall rest, rest.head? = after.tokens.head? ->
        step ⟨passed ++ rest, cursor.operators⟩ = .ok (tree, ⟨rest, after.operators⟩))
  | refused (passed : List Token) (token : Token) (rest : List Token) (fault : SyntaxFault)
      (tokens : cursor.tokens = passed ++ token :: rest)
      (position : fault.position? = some token.position)
      (begun : exists more, Whole (passed.map Token.lexeme ++ more))
      (same : forall rest, step ⟨passed ++ token :: rest, cursor.operators⟩ = .error fault)
  | excepted (fault : SyntaxFault) (refused : step cursor = .error fault)
      (excepted : fault.IsExcepted)

namespace Traced

variable {Whole First : List Lexeme -> Prop} {step branch : Step Tree} {cursor : Cursor}

theorem head?_append {passed rest rest' : List Token} (same : rest.head? = rest'.head?) :
    (passed ++ rest).head? = (passed ++ rest').head? := by
  rw [List.head?_append, List.head?_append, same]

/-- A reader that goes the same way for every text with the same next token. -/
theorem of_branch (traced : Traced Whole branch cursor)
    (same : forall other : Cursor, other.tokens.head? = cursor.tokens.head? ->
      other.operators = cursor.operators -> step other = branch other) :
    Traced Whole step cursor := by
  cases traced with
  | read passed tree after tokens proper whole same' =>
      refine .read passed tree after tokens proper whole fun rest head => ?_
      have front : (passed ++ rest).head? = cursor.tokens.head? := by
        rw [tokens, head?_append head]
      rw [same ⟨_, cursor.operators⟩ front rfl]
      exact same' rest head
  | refused passed token rest fault tokens position begun same' =>
      refine .refused passed token rest fault tokens position begun fun rest' => ?_
      have front : (passed ++ token :: rest').head? = cursor.tokens.head? := by
        rw [tokens]
        exact head?_append rfl
      rw [same ⟨_, cursor.operators⟩ front rfl]
      exact same' rest'
  | excepted fault refused excepted =>
      exact .excepted fault ((same cursor rfl rfl).trans refused) excepted

theorem imp (traced : Traced First step cursor)
    (whole : forall front, First front -> Whole front) : Traced Whole step cursor := by
  cases traced with
  | read passed tree after tokens proper first same =>
      exact .read passed tree after tokens proper (whole _ first) same
  | refused passed token rest fault tokens position begun same =>
      rcases begun with ⟨more, first⟩
      exact .refused passed token rest fault tokens position ⟨more, whole _ first⟩ same
  | excepted fault refused excepted => exact .excepted fault refused excepted

theorem pure (tree : Tree) (whole : Whole []) :
    Traced Whole (fun cursor => .ok (tree, cursor)) cursor :=
  .read [] tree cursor rfl (fun _ => nofun) whole fun _ _ => rfl

theorem unexpected (closed : cursor.IsClosed) (context : Context) (begun : exists more, Whole more) :
    Traced Whole (fun cursor => .error (cursor.unexpected context)) cursor := by
  rcases closed.exists_cons with ⟨rest, tokens⟩
  refine .refused [] cursor.current rest (cursor.unexpected context) tokens
    (cursor.position?_unexpected context) begun fun _ => rfl

/-- The current token is passed. -/
theorem next {lexeme : Lexeme} (current : cursor.current.lexeme = lexeme)
    (proper : lexeme.isTerminal = false) (closed : cursor.IsClosed)
    (traced : Traced (fun rest => Whole (lexeme :: rest)) branch cursor.next) :
    Traced Whole (fun cursor => branch cursor.next) cursor := by
  rcases closed.exists_cons with ⟨tail, front⟩
  have behind : cursor.next.tokens = tail := congrArg List.tail front
  subst current
  cases traced with
  | read passed tree after tokens others whole same =>
      refine .read (cursor.current :: passed) tree after ?_ ?_ whole same
      · rw [front, List.cons_append, <- tokens, behind]
      · exact List.forall_mem_cons.mpr ⟨proper, others⟩
  | refused passed token rest fault tokens position begun same =>
      refine .refused (cursor.current :: passed) token rest fault ?_ position begun same
      rw [front, List.cons_append, <- tokens, behind]
  | excepted fault refused excepted => exact .excepted fault refused excepted

/-- The current token is passed, and counted as an operator. -/
theorem takeOperator {lexeme : Lexeme} {branch : Step Tree}
    (current : cursor.current.lexeme = lexeme) (proper : lexeme.isTerminal = false)
    (closed : cursor.IsClosed)
    (traced : forall behind : Cursor, behind.IsClosed ->
      Traced (fun rest => Whole (lexeme :: rest)) branch behind) :
    Traced Whole (fun cursor => cursor.takeOperator >>= branch) cursor := by
  rcases cursor with ⟨tokens, operators⟩
  cases tokens with
  | nil => exact nomatch closed.exists_cons
  | cons first tail =>
      subst current
      cases operators with
      | zero => exact .excepted .tooManyOperators rfl (Or.inr (Or.inl rfl))
      | succ operators =>
          have proper' : forall token, token ∈ [first] -> token.lexeme.isTerminal = false :=
            List.forall_mem_singleton.mpr proper
          cases traced ⟨tail, operators⟩ (closed.passed rfl proper' operators) with
          | read passed tree after tokens others whole same =>
              refine .read (first :: passed) tree after (congrArg (List.cons first) tokens) ?_
                whole same
              exact List.forall_mem_cons.mpr ⟨proper, others⟩
          | refused passed token rest fault tokens position begun same =>
              exact .refused (first :: passed) token rest fault
                (congrArg (List.cons first) tokens) position begun same
          | excepted fault refused excepted => exact .excepted fault refused excepted

/-- A symbol has to come next. -/
theorem expect {mark : Symbol} {context : Context} {branch : Step Tree}
    (closed : cursor.IsClosed) (begun : exists more, Whole (.symbol mark :: more))
    (traced : cursor.current.lexeme = .symbol mark ->
      Traced (fun rest => Whole (.symbol mark :: rest)) branch cursor.next) :
    Traced Whole (fun cursor => cursor.expect mark context >>= branch) cursor := by
  by_cases present : cursor.current.lexeme = .symbol mark
  · apply of_branch (next present rfl closed (traced present))
    intro other head _
    rw [Cursor.expect, Cursor.current_eq_of_head? head, if_pos present]
    rfl
  · rcases begun with ⟨more, whole⟩
    apply of_branch (unexpected closed context ⟨_, whole⟩)
    intro other head _
    rw [Cursor.expect, Cursor.current_eq_of_head? head, if_neg present]
    rfl

/-- One reader behind another. -/
theorem bind (traced : Traced First step cursor) (next : Tree -> Step Tree)
    (Second : List Lexeme -> Prop) (closed : cursor.IsClosed)
    (onRead : forall tree after, after.IsClosed -> Traced Second (next tree) after)
    (joined : forall front behind, First front -> Second behind -> Whole (front ++ behind))
    (possible : exists behind, Second behind) :
    Traced Whole (fun cursor => step cursor >>= fun pair => next pair.1 pair.2) cursor := by
  cases traced with
  | excepted fault refused excepted =>
      refine .excepted fault ?_ excepted
      rw [refused]
      rfl
  | refused passed token rest fault tokens position begun same =>
      rcases begun with ⟨more, first⟩
      rcases possible with ⟨behind, second⟩
      refine .refused passed token rest fault tokens position ⟨more ++ behind, ?_⟩ ?_
      · rw [<- List.append_assoc]
        exact joined _ _ first second
      · intro rest'
        rw [same rest']
        rfl
  | read passed tree after tokens proper first same =>
      have here : cursor = ⟨passed ++ after.tokens, cursor.operators⟩ := by rw [<- tokens]
      have read := same after.tokens rfl
      cases onRead tree after (closed.passed tokens proper _) with
      | excepted fault refused excepted =>
          refine .excepted fault ?_ excepted
          rw [here, read]
          exact refused
      | refused passed' token rest fault tokens' position begun same' =>
          rcases begun with ⟨more, second⟩
          refine .refused (passed ++ passed') token rest fault ?_ position ⟨more, ?_⟩ ?_
          · rw [tokens, tokens', List.append_assoc]
          · rw [List.map_append, List.append_assoc]
            exact joined _ _ first second
          · intro rest'
            have head : (passed' ++ token :: rest').head? = after.tokens.head? :=
              tokens' ▸ head?_append rfl
            rw [List.append_assoc, same _ head]
            exact same' rest'
      | read passed' tree' after' tokens' proper' second same' =>
          refine .read (passed ++ passed') tree' after' ?_ ?_ ?_ ?_
          · rw [tokens, tokens', List.append_assoc]
          · exact List.forall_mem_append.mpr ⟨proper, proper'⟩
          · rw [List.map_append]
            exact joined _ _ first second
          · intro rest head
            have head' : (passed' ++ rest).head? = after.tokens.head? :=
              tokens' ▸ head?_append head
            rw [List.append_assoc, same _ head']
            exact same' rest head

/-- What was read is changed into another tree. -/
theorem map {change : Tree -> Tree} (traced : Traced First step cursor)
    (closed : cursor.IsClosed) (whole : forall front, First front -> Whole front) :
    Traced Whole
      (fun cursor => step cursor >>= fun pair => Except.ok (change pair.1, pair.2)) cursor := by
  apply traced.bind (fun tree after => .ok (change tree, after)) (fun behind => behind = []) closed
  · exact fun tree after _ => .pure (change tree) rfl
  · rintro front behind first rfl
    rw [List.append_nil]
    exact whole front first
  · exact ⟨[], rfl⟩

end Traced

/-! ## The readers of scripts -/

/-- Lexemes that can be derived. -/
def Category.Derives (category : Category) (lexemes : List Lexeme) : Prop :=
  exists derivation : Derivation category, derivation.yield = lexemes

/-- Lexemes that can be derived as what follows. -/
def Repetition.Derives (repetition : Repetition) (lexemes : List Lexeme) : Prop :=
  exists rest : Continuation repetition, rest.yield = lexemes

/-- Something can be derived as every category. -/
theorem Category.exists_derives (category : Category) : exists lexemes, category.Derives lexemes := by
  let operand : Derivation .negation := .plain (.access .this .accessEnd)
  have chains (level : Level) : Derivation (.chain level) :=
    .chain (operand.asOperand level) .chainEnd
  cases category with
  | expression => exact ⟨_, operand.asExpression, rfl⟩
  | chain level => exact ⟨_, chains level, rfl⟩
  | negation => exact ⟨_, operand, rfl⟩
  | access => exact ⟨_, .access .this .accessEnd, rfl⟩
  | operand => exact ⟨_, .this, rfl⟩

/-- A reader whose every run is as told. -/
def Traces (category : Category) (step : Step Tree) : Prop :=
  forall cursor : Cursor, cursor.IsClosed -> Traced category.Derives step cursor

theorem traces_tooDeep (category : Category) : Traces category tooDeep :=
  fun _ _ => .excepted .tooDeep rfl (Or.inl rfl)

section Loops

/-- A chain ends in front of a token that is no operator of its level. -/
theorem traced_chainFrom_of_none {level : Level} {operand : Step Tree} {cursor : Cursor}
    (ends : level.operator? cursor.current.lexeme = none) (fuel : Nat) (left : Tree) :
    Traced (Repetition.Derives (.chain level))
      (chainFrom level.operator? operand fuel left) cursor := by
  apply Traced.of_branch (.pure left ⟨.chainEnd, rfl⟩)
  intro other head _
  exact chainFrom_of_none (Cursor.current_eq_of_head? head ▸ ends)

/-- The loop of a chain.  Every round passes an operator and an operand. -/
theorem traced_chainFrom {level : Level} {operand : Step Tree}
    (traces : Traces level.operand operand) :
    forall (fuel : Nat) (left : Tree) (cursor : Cursor), cursor.IsClosed ->
      Traced (Repetition.Derives (.chain level))
        (chainFrom level.operator? operand fuel left) cursor := by
  intro fuel
  induction fuel with
  | zero =>
      intro left cursor closed
      cases found : level.operator? cursor.current.lexeme with
      | none => exact traced_chainFrom_of_none found 0 left
      | some combine =>
          refine .excepted .tooManyOperators ?_ (Or.inr (Or.inl rfl))
          rw [chainFrom, found]
  | succ fuel ih =>
      intro left cursor closed
      cases found : level.operator? cursor.current.lexeme with
      | none => exact traced_chainFrom_of_none found (fuel + 1) left
      | some combine =>
          rcases level.exists_sign found with ⟨sign, current, rfl⟩
          have round : Traced (Repetition.Derives (.chain level)) (fun cursor =>
              cursor.takeOperator >>= fun behind => operand behind >>= fun pair =>
                chainFrom level.operator? operand fuel (sign.combine left pair.1) pair.2)
              cursor := by
            apply Traced.takeOperator current rfl closed
            intro behind closed'
            apply (traces behind closed').bind
              (fun right => chainFrom level.operator? operand fuel (sign.combine left right))
              (Repetition.Derives (.chain level)) closed'
            · exact fun right after closed'' => ih (sign.combine left right) after closed''
            · rintro front behind ⟨derivation, rfl⟩ ⟨rest, rfl⟩
              exact ⟨.chainMore sign derivation rest, rfl⟩
            · exact ⟨_, .chainEnd, rfl⟩
          apply round.of_branch
          intro other head _
          rw [chainFrom, Cursor.current_eq_of_head? head, found]

theorem traces_chain (level : Level) {operand : Step Tree} (traces : Traces level.operand operand) :
    Traces (.chain level) (chain level.operator? operand) := by
  intro cursor closed
  apply (traces cursor closed).bind
    (fun left cursor => chainFrom level.operator? operand cursor.operators left cursor)
    (Repetition.Derives (.chain level)) closed
  · intro left after closed'
    apply (traced_chainFrom traces after.operators left after closed').of_branch
    intro other _ operators
    rw [operators]
  · rintro front behind ⟨first, rfl⟩ ⟨rest, rfl⟩
    exact ⟨.chain first rest, rfl⟩
  · exact ⟨_, .chainEnd, rfl⟩

theorem tightness_lt_four {lexeme : Lexeme} (notDot : lexeme ≠ .symbol .dot)
    (notBracket : lexeme ≠ .symbol .openBracket) : lexeme.tightness < 4 := by
  cases lexeme with
  | symbol mark =>
      cases mark with
      | dot => exact absurd rfl notDot
      | openBracket => exact absurd rfl notBracket
      | _ => decide
  | _ => exact Nat.zero_lt_succ 3

/-- Accesses end in front of any other token than a point and an opening bracket. -/
theorem traced_accessesFrom_of_ne {inner : Step Tree} {cursor : Cursor}
    (notDot : cursor.current.lexeme ≠ .symbol .dot)
    (notBracket : cursor.current.lexeme ≠ .symbol .openBracket) (fuel : Nat) (object : Tree) :
    Traced (Repetition.Derives .access) (accessesFrom inner fuel object) cursor := by
  apply Traced.of_branch (.pure object ⟨.accessEnd, rfl⟩)
  intro other head _
  apply accessesFrom_of_looser
  rw [Cursor.current_eq_of_head? head]
  exact tightness_lt_four notDot notBracket

/-- What follows a point: a name, and further accesses. -/
theorem traced_behind_dot {inner : Step Tree} {fuel : Nat} {behind : Cursor} (object : Tree)
    (closed : behind.IsClosed)
    (loop : forall (object : Tree) (cursor : Cursor), cursor.IsClosed ->
      Traced (Repetition.Derives .access) (accessesFrom inner fuel object) cursor) :
    Traced (fun rest => Repetition.Derives .access (.symbol .dot :: rest))
      (fun behind => match behind.current.lexeme with
        | .identifier name => accessesFrom inner fuel (.member object name) behind.next
        | _ => .error (behind.unexpected .afterDot)) behind := by
  have begun : exists more, Repetition.Derives .access (.symbol .dot :: more) :=
    ⟨_, .member "" .accessEnd, rfl⟩
  have refused := Traced.unexpected closed .afterDot begun
  cases current : behind.current.lexeme with
  | identifier name =>
      have closed' := closed.next (current ▸ rfl)
      have rest : Traced
          (fun rest => Repetition.Derives .access (.symbol .dot :: .identifier name :: rest))
          (accessesFrom inner fuel (.member object name)) behind.next :=
        (loop (.member object name) behind.next closed').imp fun _ ⟨rest, yield⟩ =>
          ⟨.member name rest, yield ▸ rfl⟩
      apply (Traced.next current rfl closed rest).of_branch
      intro other head _
      rw [Cursor.current_eq_of_head? head, current]
  | _ =>
      apply refused.of_branch
      intro other head _
      rw [Cursor.current_eq_of_head? head, current]

/-- What follows an opening bracket: a key, the closing bracket, and further accesses. -/
theorem traced_behind_openBracket {inner : Step Tree} {fuel : Nat} {behind : Cursor}
    (object : Tree) (closed : behind.IsClosed) (traces : Traces .expression inner)
    (loop : forall (object : Tree) (cursor : Cursor), cursor.IsClosed ->
      Traced (Repetition.Derives .access) (accessesFrom inner fuel object) cursor) :
    Traced (fun rest => Repetition.Derives .access (.symbol .openBracket :: rest))
      (fun behind => inner behind >>= fun pair =>
        pair.2.expect .closeBracket .closingBracket >>=
          accessesFrom inner fuel (.index object pair.1)) behind := by
  apply (traces behind closed).bind
    (fun key cursor => cursor.expect .closeBracket .closingBracket >>=
      accessesFrom inner fuel (.index object key))
    (fun behind => exists rest : Continuation .access,
      behind = .symbol .closeBracket :: rest.yield) closed
  · intro key after closed'
    apply Traced.expect closed' ⟨_, .accessEnd, rfl⟩
    intro current
    apply (loop (.index object key) after.next (closed'.next (current ▸ rfl))).imp
    exact fun _ ⟨rest, yield⟩ => ⟨rest, yield ▸ rfl⟩
  · rintro front behind ⟨key, rfl⟩ ⟨rest, rfl⟩
    exact ⟨.index key rest, rfl⟩
  · exact ⟨_, .accessEnd, rfl⟩

/-- The loop of accesses. -/
theorem traced_accessesFrom {inner : Step Tree} (traces : Traces .expression inner) :
    forall (fuel : Nat) (object : Tree) (cursor : Cursor), cursor.IsClosed ->
      Traced (Repetition.Derives .access) (accessesFrom inner fuel object) cursor := by
  intro fuel
  induction fuel with
  | zero =>
      intro object cursor closed
      by_cases dot : cursor.current.lexeme = .symbol .dot
      · exact .excepted .tooManyOperators (by rw [accessesFrom, dot]) (Or.inr (Or.inl rfl))
      by_cases bracket : cursor.current.lexeme = .symbol .openBracket
      · exact .excepted .tooManyOperators (by rw [accessesFrom, bracket]) (Or.inr (Or.inl rfl))
      · exact traced_accessesFrom_of_ne dot bracket 0 object
  | succ fuel ih =>
      intro object cursor closed
      by_cases dot : cursor.current.lexeme = .symbol .dot
      · apply (Traced.takeOperator dot rfl closed fun behind closed' =>
          traced_behind_dot object closed' ih).of_branch
        intro other head _
        rewrite [accessesFrom, Cursor.current_eq_of_head? head, dot]
        rfl
      by_cases bracket : cursor.current.lexeme = .symbol .openBracket
      · apply (Traced.takeOperator bracket rfl closed fun behind closed' =>
          traced_behind_openBracket object closed' traces ih).of_branch
        intro other head _
        rw [accessesFrom, Cursor.current_eq_of_head? head, bracket]
      · exact traced_accessesFrom_of_ne dot bracket (fuel + 1) object

end Loops

section Readers

/-- A token that is an operand by itself. -/
theorem traced_single {cursor : Cursor} {lexeme : Lexeme} (current : cursor.current.lexeme = lexeme)
    (proper : lexeme.isTerminal = false) (closed : cursor.IsClosed) (tree : Tree)
    (derived : Category.operand.Derives [lexeme]) :
    Traced Category.operand.Derives (fun cursor => .ok (tree, cursor.next)) cursor :=
  .next current proper closed (.pure tree derived)

theorem Lexeme.isTerminal_of_spells {lexeme : Lexeme} {value : Literal}
    (spelled : Spells lexeme value) : lexeme.isTerminal = false := by
  cases spelled <;> rfl

theorem traced_literal {cursor : Cursor} {lexeme : Lexeme} {value : Literal}
    (current : cursor.current.lexeme = lexeme) (spelled : Spells lexeme value)
    (closed : cursor.IsClosed) :
    Traced Category.operand.Derives (fun cursor => .ok (.literal value, cursor.next)) cursor :=
  traced_single current (Lexeme.isTerminal_of_spells spelled) closed (.literal value)
    ⟨.literal lexeme value spelled, rfl⟩

/-- An opening parenthesis, an expression, and the closing parenthesis. -/
theorem traced_parenthesized {inner : Step Tree} {cursor : Cursor}
    (traces : Traces .expression inner) (current : cursor.current.lexeme = .symbol .openParen)
    (closed : cursor.IsClosed) :
    Traced Category.operand.Derives
      (fun cursor => inner cursor.next >>= fun pair =>
        pair.2.expect .closeParen .closingParenthesis >>= fun behind => .ok (pair.1, behind))
      cursor := by
  have closed' := closed.next (current ▸ rfl)
  have behind : Traced (fun rest => Category.operand.Derives (.symbol .openParen :: rest))
      (fun cursor => inner cursor >>= fun pair =>
        pair.2.expect .closeParen .closingParenthesis >>= fun behind => .ok (pair.1, behind))
      cursor.next := by
    apply (traces cursor.next closed').bind
      (fun tree after => after.expect .closeParen .closingParenthesis >>= fun behind =>
        .ok (tree, behind))
      (fun behind => behind = [.symbol .closeParen]) closed'
    · intro tree after closed''
      refine .expect closed'' ⟨[], rfl⟩ fun _ => ?_
      exact .pure tree rfl
    · rintro front behind ⟨derivation, rfl⟩ rfl
      exact ⟨.parenthesized derivation, rfl⟩
    · exact ⟨_, rfl⟩
  exact .next current rfl closed behind

theorem traces_primary {inner : Step Tree} (traces : Traces .expression inner) :
    Traces .operand (primary inner) := by
  intro cursor closed
  have refused := Traced.unexpected closed .operand Category.operand.exists_derives
  cases current : cursor.current.lexeme with
  | string value =>
      apply (traced_literal current (.string value) closed).of_branch
      intro other head _
      rw [primary, Cursor.current_eq_of_head? head, current]
  | number digits =>
      cases read : Double.ofText? digits.toList with
      | some value =>
          apply (traced_literal current (.number read) closed).of_branch
          intro other head _
          simp only [primary, Cursor.current_eq_of_head? head, current, read]
      | none =>
          refine .excepted (.invalidNumber digits cursor.current.position) ?_
            (Or.inr (Or.inr ⟨digits, _, rfl⟩))
          simp only [primary, current, read]
  | keyword word =>
      have derived : Category.operand.Derives [.keyword word] := by
        cases word with
        | this => exact ⟨.this, rfl⟩
        | true => exact ⟨.literal _ _ .true, rfl⟩
        | false => exact ⟨.literal _ _ .false, rfl⟩
        | null => exact ⟨.literal _ _ .null, rfl⟩
        | undefined => exact ⟨.literal _ _ .undefined, rfl⟩
      apply (traced_single current rfl closed (keywordTree word) derived).of_branch
      intro other head _
      rw [primary, Cursor.current_eq_of_head? head, current]
  | identifier name =>
      apply (traced_single current rfl closed (.identifier name) ⟨.identifier name, rfl⟩).of_branch
      intro other head _
      rw [primary, Cursor.current_eq_of_head? head, current]
  | symbol mark =>
      by_cases opening : mark = .openParen
      · subst opening
        apply (traced_parenthesized traces current closed).of_branch
        intro other head _
        rw [primary, Cursor.current_eq_of_head? head, current]
        rfl
      · apply refused.of_branch
        intro other head _
        rw [primary, Cursor.current_eq_of_head? head, current]
        cases mark with
        | openParen => exact absurd rfl opening
        | _ => rfl
  | _ =>
      apply refused.of_branch
      intro other head _
      rw [primary, Cursor.current_eq_of_head? head, current]

theorem traces_access {inner : Step Tree} (traces : Traces .expression inner) :
    Traces .access (access inner) := by
  intro cursor closed
  apply (traces_primary traces cursor closed).bind
    (fun object cursor => accessesFrom inner cursor.operators object cursor)
    (Repetition.Derives .access) closed
  · intro object after closed'
    apply (traced_accessesFrom traces after.operators object after closed').of_branch
    intro other _ operators
    rw [operators]
  · rintro front behind ⟨object, rfl⟩ ⟨rest, rfl⟩
    exact ⟨.access object rest, rfl⟩
  · exact ⟨_, .accessEnd, rfl⟩

theorem traces_negation {operand inner : Step Tree} (nested : Traces .negation operand)
    (traces : Traces .expression inner) : Traces .negation (negation operand inner) := by
  intro cursor closed
  by_cases bang : cursor.current.lexeme = .symbol .bang
  · have closed' := closed.next (bang ▸ rfl)
    have behind : Traced (fun rest => Category.Derives .negation (.symbol .bang :: rest))
        (fun cursor => operand cursor >>= fun pair => Except.ok (Tree.not pair.1, pair.2))
        cursor.next := by
      apply (nested cursor.next closed').map closed'
      rintro passed ⟨derivation, yield⟩
      exact ⟨.not derivation, yield ▸ rfl⟩
    apply (Traced.next bang rfl closed behind).of_branch
    intro other head _
    rw [negation, Cursor.current_eq_of_head? head, if_pos bang]
    rfl
  · have plain : Traced (Category.Derives .negation) (access inner) cursor := by
      apply (traces_access traces cursor closed).imp
      rintro passed ⟨derivation, yield⟩
      exact ⟨.plain derivation, yield⟩
    apply plain.of_branch
    intro other head _
    exact negation_of_ne (Cursor.current_eq_of_head? head ▸ bang)

theorem traces_disjunction {operand : Step Tree} (traces : Traces .negation operand) :
    Traces .expression (disjunction operand) := by
  intro cursor closed
  have equalities : Traces (.chain .equality) (chain equalityOperator? operand) :=
    traces_chain .equality traces
  have conjunctions := traces_chain .conjunction equalities
  have body := traces_chain .disjunction conjunctions cursor closed
  exact body.imp fun _ ⟨derivation, yield⟩ => ⟨.expression derivation, yield⟩

theorem traces_operand : forall levels, Traces .negation (operand levels)
  | 0 => traces_negation (traces_tooDeep _) (traces_tooDeep _)
  | levels + 1 =>
      traces_negation (traces_operand levels) (traces_disjunction (traces_operand levels))

theorem traces_expression : forall levels, Traces .expression (expression levels)
  | 0 => traces_tooDeep _
  | levels + 1 => traces_disjunction (traces_operand levels)

end Readers

end Script
end ContactSearch
