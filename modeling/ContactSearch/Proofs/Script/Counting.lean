import ContactSearch.Proofs.Script.Completeness
import ContactSearch.Proofs.Script.Marks

namespace ContactSearch
namespace Script

/-!
# Reading with counters

The reader of scripts is built from the inside out, so its limits are part of
its shape: a level that may not be opened has no reader, and a loop has no more
rounds than operators are left.  The same reading can be described with two
counters that go up.  One is raised when an expression or a negation is opened
and lowered when it is closed, the other is raised for every operator and
access; raising one beyond its limit is a refusal.  Described in this way the
reader is simply recursive, and neither its loops nor its recursion are bounded
by anything but the two checks.

That such a reading ends at all is part of what is shown.  It ends with the
outcome of the reader of scripts, for every text and from every state of the
counters.  A part that is read leaves the first counter where it was and has
raised the second by the operators of its tree, and the first counter exceeds
its limit only in the moment of the refusal.
-/

/-- The tokens that are left, the two counters, and the most levels that were open so far. -/
structure Counters where
  tokens : List Token
  depth : Nat
  operators : Nat
  peak : Nat

namespace Counters

/-- Where a reader of scripts stands with these counters. -/
def cursor (counters : Counters) : Cursor :=
  ⟨counters.tokens, maxOperators - counters.operators⟩

/-- One more level is open. -/
def entered (counters : Counters) : Counters :=
  { counters with
    depth := counters.depth + 1
    peak := max counters.peak (counters.depth + 1) }

/-- One level less is open. -/
def left (counters : Counters) : Counters :=
  { counters with depth := counters.depth - 1 }

/-- One more operator has been met. -/
def counted (counters : Counters) : Counters :=
  { counters with operators := counters.operators + 1 }

/-- The current token has been passed. -/
def advanced (counters : Counters) : Counters :=
  { counters with tokens := counters.tokens.tail }

end Counters

/-- A reading with counters, which keep their state when it is refused; it might not end. -/
abbrev Counting :=
  ExceptT SyntaxFault (StateT Counters Option)

namespace Counting

/-- Open a level, unless as many are open as may be. -/
def enter : Counting Unit := do
  modify Counters.entered
  if maxDepth < (← get).depth then throw .tooDeep

/-- Close a level. -/
def leave : Counting Unit :=
  modify Counters.left

/-- Count an operator, unless as many were counted as may be. -/
def count : Counting Unit := do
  modify Counters.counted
  if maxOperators < (← get).operators then throw .tooManyOperators

/-- Pass the current token. -/
def advance : Counting Unit :=
  modify Counters.advanced

/-- The current token. -/
def current : Counting Token := do
  return (← get).cursor.current

/-- Refuse the current token. -/
def unexpected {α : Type} (context : Context) : Counting α := do
  throw ((← get).cursor.unexpected context)

/-- Pass a symbol that has to come next. -/
def expect (mark : Symbol) (context : Context) : Counting Unit := do
  if (← current).lexeme = .symbol mark then advance else unexpected context

end Counting

section Reading

open Counting

mutual

/-- The tree of a category. -/
def Category.read : Category -> Counting Tree
  | .expression => do
      enter
      let tree ← Category.chain .disjunction |>.read
      leave
      return tree
  | .chain level => do
      let left ← level.operand |>.read
      Repetition.chain level |>.goOn left
  | .negation => do
      if (← current).lexeme = .symbol .bang then
        enter
        advance
        let operand ← Category.negation |>.read
        leave
        return .not operand
      else
        Category.access |>.read
  | .access => do
      let object ← Category.operand |>.read
      Repetition.access |>.goOn object
  | .operand => do
      let token ← current
      match token.lexeme with
      | .string value =>
          advance
          return .literal (.string value)
      | .number digits =>
          match Double.ofText? digits.toList with
          | some value =>
              advance
              return .literal (.number value)
          | none => throw (.invalidNumber digits token.position)
      | .keyword word =>
          advance
          return keywordTree word
      | .identifier name =>
          advance
          return .identifier name
      | .symbol .openParen =>
          advance
          let tree ← Category.expression |>.read
          expect .closeParen .closingParenthesis
          return tree
      | _ => unexpected .operand
partial_fixpoint

/-- A tree with what follows it. -/
def Repetition.goOn : Repetition -> Tree -> Counting Tree
  | .chain level, left => do
      match level.operator? (← current).lexeme with
      | none => return left
      | some combine =>
          count
          advance
          let right ← level.operand |>.read
          Repetition.chain level |>.goOn (combine left right)
  | .access, object => do
      match (← current).lexeme with
      | .symbol .dot =>
          count
          advance
          match (← current).lexeme with
          | .identifier name =>
              advance
              Repetition.access |>.goOn (.member object name)
          | _ => unexpected .afterDot
      | .symbol .openBracket =>
          count
          advance
          let key ← Category.expression |>.read
          expect .closeBracket .closingBracket
          Repetition.access |>.goOn (.index object key)
      | _ => return object
partial_fixpoint

end

/-- The tree of a whole token list. -/
def Counting.readAll : Counting Tree := do
  let tree ← Category.expression.read
  if (← current).lexeme = .endOfInput then
    return tree
  else
    unexpected .afterExpression

end Reading

namespace Counting

/-- What becomes of a reading from a state of the counters: nothing if it does not end. -/
def run {α : Type} (reading : Counting α) (counters : Counters) :
    Option (Except SyntaxFault α × Counters) :=
  StateT.run (ExceptT.run reading) counters

section Run

variable {α β : Type} {counters after : Counters}

theorem run_pure (value : α) :
    run (pure value : Counting α) counters = some (.ok value, counters) :=
  rfl

theorem run_throw (fault : SyntaxFault) :
    run (throw fault : Counting α) counters = some (.error fault, counters) :=
  rfl

theorem run_bind_of_ok {reading : Counting α} {next : α -> Counting β} {value : α}
    (read : run reading counters = some (.ok value, after)) :
    run (reading >>= next) counters = run (next value) after := by
  unfold run at read ⊢
  rw [ExceptT.run_bind, StateT.run_bind, read]
  rfl

theorem run_bind_of_error {reading : Counting α} {next : α -> Counting β} {fault : SyntaxFault}
    (refused : run reading counters = some (.error fault, after)) :
    run (reading >>= next) counters = some (.error fault, after) := by
  unfold run at refused ⊢
  rw [ExceptT.run_bind, StateT.run_bind, refused]
  rfl

theorem run_current : run current counters = some (.ok counters.cursor.current, counters) :=
  rfl

theorem run_advance : run advance counters = some (.ok (), counters.advanced) :=
  rfl

theorem run_unexpected (context : Context) :
    run (unexpected context : Counting α) counters =
      some (.error (counters.cursor.unexpected context), counters) :=
  rfl

theorem run_enter_of_lt (shallow : counters.depth < maxDepth) :
    run enter counters = some (.ok (), counters.entered) := by
  have opened : run enter counters =
      run (if maxDepth < counters.depth + 1 then throw SyntaxFault.tooDeep else pure ())
        counters.entered := rfl
  rw [opened, if_neg (Nat.not_lt_of_ge shallow), run_pure]

theorem run_enter_of_le (deep : maxDepth ≤ counters.depth) :
    run enter counters = some (.error .tooDeep, counters.entered) := by
  have opened : run enter counters =
      run (if maxDepth < counters.depth + 1 then throw SyntaxFault.tooDeep else pure ())
        counters.entered := rfl
  rw [opened, if_pos (Nat.lt_succ_of_le deep), run_throw]

theorem run_count_of_lt (few : counters.operators < maxOperators) :
    run count counters = some (.ok (), counters.counted) := by
  have taken : run count counters =
      run (if maxOperators < counters.operators + 1 then throw SyntaxFault.tooManyOperators
        else pure ()) counters.counted := rfl
  rw [taken, if_neg (Nat.not_lt_of_ge few), run_pure]

theorem run_count_of_le (many : maxOperators ≤ counters.operators) :
    run count counters = some (.error .tooManyOperators, counters.counted) := by
  have taken : run count counters =
      run (if maxOperators < counters.operators + 1 then throw SyntaxFault.tooManyOperators
        else pure ()) counters.counted := rfl
  rw [taken, if_pos (Nat.lt_succ_of_le many), run_throw]

theorem run_expect_of_eq {mark : Symbol} (context : Context)
    (present : counters.cursor.current.lexeme = .symbol mark) :
    run (expect mark context) counters = some (.ok (), counters.advanced) := by
  rw [expect, run_bind_of_ok run_current, if_pos present, run_advance]

theorem run_expect_of_ne {mark : Symbol} (context : Context)
    (absent : counters.cursor.current.lexeme ≠ .symbol mark) :
    run (expect mark context) counters =
      some (.error (counters.cursor.unexpected context), counters) := by
  rw [expect, run_bind_of_ok run_current, if_neg absent, run_unexpected]

end Run
end Counting

/-! ## Keeping to the reader of scripts -/

namespace Counters

/-- No more levels are open, or have been, than may be. -/
structure Within (counters : Counters) : Prop where
  depth : counters.depth ≤ maxDepth
  peak : counters.peak ≤ maxDepth

theorem Within.entered {counters : Counters} (within : counters.Within)
    (shallow : counters.depth < maxDepth) : counters.entered.Within :=
  ⟨shallow, Nat.max_le.mpr ⟨within.peak, shallow⟩⟩

/--
Between two states the same levels are open, no more than may be were opened, and as many
operators were counted as the tree at hand has gained.
-/
structure Grew (before after : Counters) (base total : Nat) : Prop where
  depth : after.depth = before.depth
  operators : after.operators + base = before.operators + total
  within : before.Within -> after.Within

variable {before middle after : Counters} {base total : Nat}

theorem Grew.refl (counters : Counters) (base : Nat) : counters.Grew counters base base :=
  ⟨rfl, rfl, id⟩

theorem Grew.trans {between : Nat} (first : before.Grew middle base between)
    (second : middle.Grew after between total) : before.Grew after base total where
  depth := second.depth.trans first.depth
  operators := by
    have sums := first.operators
    have sums' := second.operators
    omega
  within := fun within => second.within (first.within within)

/-- Passing a token keeps both counters. -/
theorem Grew.advanced (grew : before.Grew after base total) :
    before.Grew after.advanced base total :=
  ⟨grew.depth, grew.operators, fun within => ⟨(grew.within within).depth, (grew.within within).peak⟩⟩

/-- What was read in a level of its own, when the level is closed. -/
theorem Grew.left (grew : before.entered.Grew after base total)
    (shallow : before.depth < maxDepth) : before.Grew after.left base total where
  depth := by
    rw [Counters.left, grew.depth]
    exact Nat.add_sub_cancel before.depth 1
  operators := grew.operators
  within := fun within => by
    have inside := grew.within (within.entered shallow)
    exact ⟨Nat.le_trans (Nat.sub_le _ 1) inside.depth, inside.peak⟩

/-- An operator was counted behind a tree, and another tree was read. -/
theorem Grew.counted (first : Nat) {second : Nat}
    (grew : before.counted.advanced.Grew after 0 second) :
    before.Grew after first (first + 1 + second) where
  depth := grew.depth
  operators := by
    have sums : after.operators + 0 = before.operators + 1 + second := grew.operators
    omega
  within := fun within => grew.within ⟨within.depth, within.peak⟩

/-- A reading that was refused has opened a level too many only if that is why it was refused. -/
def Refused (before after : Counters) (fault : SyntaxFault) : Prop :=
  before.Within -> after.peak ≤ maxDepth + 1 ∧ (maxDepth < after.peak <-> fault = .tooDeep)

end Counters

namespace Counting

/--
A counting reading comes to the same as a reading.  The tree at hand had the given number of
operators when the counters stood at the first state.
-/
def Tracks (base : Nat) (before : Counters) (counted : Option (Except SyntaxFault Tree × Counters)) :
    Except SyntaxFault (Tree × Cursor) -> Prop
  | .ok (tree, cursor) =>
      exists after : Counters, counted = some (.ok tree, after) ∧ after.cursor = cursor ∧
        before.Grew after base tree.operatorCount
  | .error fault =>
      exists after : Counters, counted = some (.error fault, after) ∧ before.Refused after fault

section Tracks

variable {base base' : Nat} {before start middle : Counters} {reading : Counting Tree}
  {outcome : Except SyntaxFault (Tree × Cursor)}

/-- To follow what comes behind a reading, it is enough to follow it from what was read. -/
theorem Tracks.bind {next : Tree -> Counting Tree}
    {next' : Tree × Cursor -> Except SyntaxFault (Tree × Cursor)}
    (tracks : Tracks base start (run reading start) outcome)
    (kept : before.Within -> start.Within)
    (onRead : forall tree after, start.Grew after base tree.operatorCount ->
      Tracks base' before (run (next tree) after) (next' (tree, after.cursor))) :
    Tracks base' before (run (reading >>= next) start) (outcome >>= next') := by
  cases outcome with
  | error fault =>
      rcases tracks with ⟨after, refused, bounded⟩
      exact ⟨after, run_bind_of_error refused, fun within => bounded (kept within)⟩
  | ok pair =>
      rcases pair with ⟨tree, cursor⟩
      rcases tracks with ⟨after, read, rfl, grew⟩
      rw [run_bind_of_ok read]
      exact onRead tree after grew

/-- A reading from a later state, seen from an earlier one. -/
theorem Tracks.later {counted : Option (Except SyntaxFault Tree × Counters)}
    (tracks : Tracks base middle counted outcome) (grew : before.Grew middle base' base) :
    Tracks base' before counted outcome := by
  cases outcome with
  | error fault =>
      rcases tracks with ⟨after, refused, bounded⟩
      exact ⟨after, refused, fun within => bounded (grew.within within)⟩
  | ok pair =>
      rcases pair with ⟨tree, cursor⟩
      rcases tracks with ⟨after, read, same, grew'⟩
      exact ⟨after, read, same, grew.trans grew'⟩

theorem Tracks.pure {tree : Tree} (grew : before.Grew middle base tree.operatorCount) :
    Tracks base before (run (Pure.pure tree) middle) (.ok (tree, middle.cursor)) :=
  ⟨middle, run_pure tree, rfl, grew⟩

/-- A refusal for any other reason than the depth. -/
theorem Tracks.refused {fault : SyntaxFault} {after : Counters}
    {counted : Option (Except SyntaxFault Tree × Counters)}
    (refused : counted = some (.error fault, after)) (other : fault ≠ .tooDeep)
    (within : before.Within -> after.Within) : Tracks base before counted (.error fault) := by
  refine ⟨after, refused, fun start => ?_⟩
  have bounded := (within start).peak
  exact ⟨Nat.le_succ_of_le bounded, fun deep => absurd bounded (Nat.not_le_of_gt deep),
    fun same => absurd same other⟩

/-- An operator is counted where the reader takes one of those that are left. -/
theorem Tracks.count {next : Unit -> Counting Tree}
    {next' : Cursor -> Except SyntaxFault (Tree × Cursor)}
    (onTaken : Tracks base before (run (next ()) before.counted)
      (next' before.counted.advanced.cursor)) :
    Tracks base before (run (Counting.count >>= next) before)
      (before.cursor.takeOperator >>= next') := by
  by_cases few : before.operators < maxOperators
  · have taken : before.cursor.takeOperator = .ok before.counted.advanced.cursor := by
      have left : before.cursor.operators = maxOperators - (before.operators + 1) + 1 := by
        change maxOperators - before.operators = _
        omega
      rw [Cursor.takeOperator, left]
      rfl
    rw [run_bind_of_ok (run_count_of_lt few), taken]
    exact onTaken
  · have many := Nat.le_of_not_lt few
    have taken : before.cursor.takeOperator = .error .tooManyOperators := by
      have none : before.cursor.operators = 0 := Nat.sub_eq_zero_of_le many
      rw [Cursor.takeOperator, none]
    rw [taken]
    apply Tracks.refused (run_bind_of_error (run_count_of_le many)) SyntaxFault.noConfusion
    exact fun within => ⟨within.depth, within.peak⟩

theorem unexpected_ne_tooDeep (cursor : Cursor) (context : Context) :
    cursor.unexpected context ≠ .tooDeep := by
  unfold Cursor.unexpected
  split <;> exact SyntaxFault.noConfusion

theorem Tracks.unexpected (context : Context) (within : before.Within -> middle.Within) :
    Tracks base before (run (Counting.unexpected context) middle)
      (.error (middle.cursor.unexpected context)) :=
  .refused (run_unexpected context) (unexpected_ne_tooDeep middle.cursor context) within

theorem Tracks.expect {mark : Symbol} {context : Context} {next : Unit -> Counting Tree}
    {next' : Cursor -> Except SyntaxFault (Tree × Cursor)}
    (within : before.Within -> middle.Within)
    (onFound : Tracks base before (run (next ()) middle.advanced) (next' middle.advanced.cursor)) :
    Tracks base before (run (Counting.expect mark context >>= next) middle)
      (middle.cursor.expect mark context >>= next') := by
  by_cases present : middle.cursor.current.lexeme = .symbol mark
  · rw [run_bind_of_ok (run_expect_of_eq context present), Cursor.expect, if_pos present]
    exact onFound
  · rw [Cursor.expect, if_neg present]
    exact .refused (run_bind_of_error (run_expect_of_ne context present))
      (unexpected_ne_tooDeep middle.cursor context) within

/-- A level can be opened when the reader has a level left, and is refused when it has none. -/
theorem Tracks.enter {next : Unit -> Counting Tree}
    (onEntered : before.depth < maxDepth -> Tracks base before (run (next ()) before.entered) outcome)
    (onRefused : maxDepth ≤ before.depth -> outcome = .error .tooDeep) :
    Tracks base before (run (Counting.enter >>= next) before) outcome := by
  by_cases shallow : before.depth < maxDepth
  · rw [run_bind_of_ok (run_enter_of_lt shallow)]
    exact onEntered shallow
  · have deep := Nat.le_of_not_lt shallow
    rw [onRefused deep]
    refine ⟨before.entered, run_bind_of_error (run_enter_of_le deep), fun within => ?_⟩
    have same : before.depth = maxDepth := Nat.le_antisymm within.depth deep
    have peak : before.entered.peak = maxDepth + 1 := by
      change max before.peak (before.depth + 1) = _
      rw [same]
      exact Nat.max_eq_right (Nat.le_succ_of_le within.peak)
    rw [peak]
    exact ⟨Nat.le_refl _, fun _ => rfl, fun _ => Nat.lt_succ_self _⟩

end Tracks

/-- Reading a category with counters comes to the same as reading it with so many levels left. -/
def Follows (levels : Nat) (category : Category) : Prop :=
  forall before : Counters, maxDepth - before.depth = levels ->
    Tracks 0 before (run category.read before) (readerOf levels category before.cursor)

section Follows

variable {levels : Nat}

theorem operatorCount_combine {level : Level} (sign : Sign level) (left right : Tree) :
    (sign.combine left right).operatorCount = left.operatorCount + 1 + right.operatorCount := by
  simp only [Tree.operatorCount, sign.marks_combine, List.countP_append, List.countP_cons_of_pos,
    beq_self_eq_true]
  omega

/-- Without an operator left, a loop is refused where it would count one more. -/
theorem tracks_count_of_le {base : Nat} {before : Counters} {next : Unit -> Counting Tree}
    (many : maxOperators ≤ before.operators) :
    Tracks base before (run (count >>= next) before) (.error .tooManyOperators) := by
  apply Tracks.refused (run_bind_of_error (run_count_of_le many)) SyntaxFault.noConfusion
  exact fun within => ⟨within.depth, within.peak⟩

/-- The loop of a chain; every round counts one operator. -/
theorem tracks_goOn_chain {level : Level} (follows : Follows levels level.operand) :
    forall (fuel : Nat) (left : Tree) (before : Counters), maxDepth - before.depth = levels ->
      maxOperators - before.operators ≤ fuel ->
      Tracks left.operatorCount before (run (Repetition.goOn (.chain level) left) before)
        (chainFrom level.operator? (readerOf levels level.operand) fuel left before.cursor) := by
  intro fuel
  induction fuel with
  | zero =>
      intro left before deep few
      rw [Repetition.goOn, run_bind_of_ok run_current, chainFrom]
      cases level.operator? before.cursor.current.lexeme with
      | none => exact .pure (.refl before _)
      | some combine => exact tracks_count_of_le (Nat.le_of_sub_eq_zero (Nat.le_zero.mp few))
  | succ fuel ih =>
      intro left before deep few
      rw [Repetition.goOn, run_bind_of_ok run_current, chainFrom]
      cases found : level.operator? before.cursor.current.lexeme with
      | none => exact .pure (.refl before _)
      | some combine =>
          rcases level.exists_sign found with ⟨sign, _, rfl⟩
          apply Tracks.count
          rw [run_bind_of_ok run_advance]
          apply (follows before.counted.advanced deep).bind
          · exact fun within => ⟨within.depth, within.peak⟩
          · intro right after grew
            have grew' := operatorCount_combine sign left right ▸
              Counters.Grew.counted left.operatorCount grew
            apply (ih (sign.combine left right) after _ _).later grew'
            · rw [grew'.depth, deep]
            · have sums : after.operators + 0 = before.operators + 1 + right.operatorCount :=
                grew.operators
              omega

theorem operatorCount_member (object : Tree) (property : String) :
    (Tree.member object property).operatorCount = object.operatorCount + 1 := by
  simp [Tree.operatorCount, Tree.marks, List.countP_append]

theorem operatorCount_index (object key : Tree) :
    (Tree.index object key).operatorCount = object.operatorCount + 1 + key.operatorCount := by
  simp only [Tree.operatorCount, Tree.marks, List.countP_append, List.countP_cons_of_pos,
    beq_self_eq_true]
  omega

theorem operatorCount_literal (value : Literal) : (Tree.literal value).operatorCount = 0 := by
  simp [Tree.operatorCount, Tree.marks]

theorem operatorCount_keywordTree (word : Keyword) : (keywordTree word).operatorCount = 0 := by
  cases word <;> rfl

/-- The loop of accesses; every round counts one access. -/
theorem tracks_goOn_access (follows : Follows levels .expression) :
    forall (fuel : Nat) (object : Tree) (before : Counters), maxDepth - before.depth = levels ->
      maxOperators - before.operators ≤ fuel ->
      Tracks object.operatorCount before (run (Repetition.goOn .access object) before)
        (accessesFrom (expression levels) fuel object before.cursor) := by
  intro fuel
  induction fuel with
  | zero =>
      intro object before deep few
      have many := Nat.le_of_sub_eq_zero (Nat.le_zero.mp few)
      have ends : Tracks object.operatorCount before (run (pure object) before)
          (.ok (object, before.cursor)) := .pure (.refl before _)
      rw [Repetition.goOn, run_bind_of_ok run_current, accessesFrom]
      cases before.cursor.current.lexeme with
      | symbol mark =>
          cases mark with
          | dot => exact tracks_count_of_le many
          | openBracket => exact tracks_count_of_le many
          | _ => exact ends
      | _ => exact ends
  | succ fuel ih =>
      intro object before deep few
      have ends : Tracks object.operatorCount before (run (pure object) before)
          (.ok (object, before.cursor)) := .pure (.refl before _)
      have taken : before.Grew before.counted.advanced object.operatorCount
          (object.operatorCount + 1 + 0) := Counters.Grew.counted _ (.refl _ 0)
      have fewer : maxOperators - (before.operators + 1) ≤ fuel := by omega
      rw [Repetition.goOn, run_bind_of_ok run_current, accessesFrom]
      cases before.cursor.current.lexeme with
      | symbol mark =>
          cases mark with
          | dot =>
              apply Tracks.count
              rw [run_bind_of_ok run_advance, run_bind_of_ok run_current]
              have refused : Tracks object.operatorCount before _ _ :=
                .unexpected .afterDot taken.within
              cases before.counted.advanced.cursor.current.lexeme with
              | identifier name =>
                  apply (ih (.member object name) before.counted.advanced.advanced deep fewer).later
                  rw [operatorCount_member]
                  exact taken.advanced
              | _ => exact refused
          | openBracket =>
              apply Tracks.count
              rw [run_bind_of_ok run_advance]
              apply (follows before.counted.advanced deep).bind taken.within
              intro key after grew
              have grew' := operatorCount_index object key ▸
                Counters.Grew.counted object.operatorCount grew
              apply Tracks.expect grew'.within
              apply (ih (.index object key) after.advanced _ _).later grew'.advanced
              · rw [grew'.advanced.depth, deep]
              · have sums : after.operators + 0 = before.operators + 1 + key.operatorCount :=
                  grew.operators
                change maxOperators - after.operators ≤ fuel
                omega
          | _ => exact ends
      | _ => exact ends

/-- An operand without accesses; parentheses count no operator. -/
theorem follows_operand (follows : Follows levels .expression) : Follows levels .operand := by
  intro before deep
  have passed : before.Grew before.advanced 0 0 := (Counters.Grew.refl before 0).advanced
  have refused : Tracks 0 before (run (Counting.unexpected .operand) before)
      (.error (before.cursor.unexpected .operand)) := .unexpected .operand id
  rw [Category.read, run_bind_of_ok run_current, readerOf, primary]
  cases before.cursor.current.lexeme with
  | string value => exact ⟨before.advanced, rfl, rfl, (operatorCount_literal _).symm ▸ passed⟩
  | number digits =>
      dsimp only
      cases Double.ofText? digits.toList with
      | some value => exact ⟨before.advanced, rfl, rfl, (operatorCount_literal _).symm ▸ passed⟩
      | none => exact .refused (run_throw _) nofun id
  | keyword word => exact ⟨before.advanced, rfl, rfl, (operatorCount_keywordTree word).symm ▸ passed⟩
  | identifier name => exact ⟨before.advanced, rfl, rfl, passed⟩
  | symbol mark =>
      cases mark with
      | openParen =>
          dsimp only
          rw [run_bind_of_ok run_advance]
          apply (follows before.advanced deep).bind passed.within
          intro tree after grew
          have grew' := passed.trans grew
          apply Tracks.expect grew'.within
          exact .pure grew'.advanced
      | _ => exact refused
  | _ => exact refused

theorem follows_access (follows : Follows levels .expression)
    (operands : Follows levels .operand) : Follows levels .access := by
  intro before deep
  rw [Category.read, readerOf, access]
  apply (operands before deep).bind id
  intro object after grew
  apply (tracks_goOn_access follows _ object after _ (Nat.le_refl _)).later grew
  rw [grew.depth, deep]

theorem follows_chain {level : Level} (follows : Follows levels level.operand) :
    Follows levels (.chain level) := by
  intro before deep
  rw [Category.read, readerOf_chain, chain]
  apply (follows before deep).bind id
  intro left after grew
  apply (tracks_goOn_chain follows _ left after _ (Nat.le_refl _)).later grew
  rw [grew.depth, deep]

/-- The parts of a category that opens no level, when expressions and negations are followed. -/
theorem follows_all (expressions : Follows levels .expression)
    (negations : Follows levels .access -> Follows levels .negation) :
    forall category, Follows levels category := by
  have operands := follows_operand expressions
  have accesses := follows_access expressions operands
  have negations' := negations accesses
  have equalities : Follows levels (.chain .equality) := follows_chain negations'
  have conjunctions : Follows levels (.chain .conjunction) := follows_chain equalities
  intro category
  cases category with
  | expression => exact expressions
  | chain level =>
      cases level with
      | disjunction => exact follows_chain conjunctions
      | conjunction => exact conjunctions
      | equality => exact equalities
  | negation => exact negations'
  | access => exact accesses
  | operand => exact operands

end Follows

/-- Without a level left, an expression and a negation sign are refused. -/
theorem follows_zero : forall category, Follows 0 category := by
  apply follows_all
  · intro before deep
    rw [Category.read]
    exact .enter (fun shallow => absurd deep (Nat.sub_ne_zero_of_lt shallow)) fun _ => rfl
  · intro accesses before deep
    rw [Category.read, run_bind_of_ok run_current, readerOf, operand, negation]
    split
    · exact .enter (fun shallow => absurd deep (Nat.sub_ne_zero_of_lt shallow)) fun _ => rfl
    · exact accesses before deep

/-- What is inside an expression or behind a negation sign is read with one level less. -/
theorem follows_succ {levels : Nat} (inside : forall category, Follows levels category) :
    forall category, Follows (levels + 1) category := by
  have open' {before : Counters} (deep : maxDepth - before.depth = levels + 1) :
      ¬ maxDepth ≤ before.depth := fun full =>
    absurd (deep.symm.trans (Nat.sub_eq_zero_of_le full)) (Nat.succ_ne_zero levels)
  have entered {before : Counters} (deep : maxDepth - before.depth = levels + 1) :
      maxDepth - before.entered.depth = levels := by
    change maxDepth - (before.depth + 1) = levels
    omega
  apply follows_all
  · intro before deep
    rw [Category.read]
    apply Tracks.enter
    · intro shallow
      rw [<- bind_pure (readerOf (levels + 1) .expression before.cursor)]
      apply (inside (.chain .disjunction) before.entered (entered deep)).bind
      · exact fun within => within.entered shallow
      · intro tree after grew
        exact .pure (grew.left shallow)
    · exact fun full => absurd full (open' deep)
  · intro accesses before deep
    rw [Category.read, run_bind_of_ok run_current, readerOf, operand, negation]
    split
    · apply Tracks.enter
      · intro shallow
        rw [run_bind_of_ok run_advance]
        have passed : before.entered.Grew before.entered.advanced 0 0 :=
          (Counters.Grew.refl before.entered 0).advanced
        apply (inside .negation before.entered.advanced (entered deep)).bind
        · exact fun within => passed.within (within.entered shallow)
        · intro tree after grew
          exact .pure ((passed.trans grew).left shallow)
      · exact fun full => absurd full (open' deep)
    · exact accesses before deep

/-- Reading with counters comes to the same as reading, whatever the counters show. -/
theorem follows (levels : Nat) : forall category, Follows levels category := by
  induction levels with
  | zero => exact follows_zero
  | succ levels ih => exact follows_succ ih

/--
A part that was read leaves as many levels open as were open in front of it, and as many more
operators are counted as its tree has.
-/
theorem restored_of_read {category : Category} {before after : Counters} {tree : Tree}
    (ended : run category.read before = some (.ok tree, after)) :
    after.depth = before.depth ∧ after.operators = before.operators + tree.operatorCount := by
  have tracks := follows (maxDepth - before.depth) category before rfl
  rw [ended] at tracks
  cases outcome : readerOf (maxDepth - before.depth) category before.cursor with
  | error fault =>
      rw [outcome] at tracks
      rcases tracks with ⟨_, refused, _⟩
      cases refused
  | ok pair =>
      rw [outcome] at tracks
      rcases tracks with ⟨after', same, _, grew⟩
      cases same
      exact ⟨grew.depth, grew.operators⟩

/--
Reading a token list from the start ends, with the tree or the refusal of the list.  One level
more than may be is open at the end of it if that is why the list is refused, and never otherwise.
-/
theorem run_readAll (tokens : List Token) :
    exists after : Counters, run readAll ⟨tokens, 0, 0, 0⟩ = some (Tree.ofTokens tokens, after) ∧
      after.peak ≤ maxDepth + 1 ∧
      (maxDepth < after.peak <-> Tree.ofTokens tokens = .error .tooDeep) := by
  have within : Counters.Within ⟨tokens, 0, 0, 0⟩ := ⟨Nat.zero_le _, Nat.zero_le _⟩
  have tracks := follows maxDepth .expression ⟨tokens, 0, 0, 0⟩ rfl
  change Tracks 0 _ _ (expression maxDepth ⟨tokens, maxOperators⟩) at tracks
  rw [readAll, Tree.ofTokens]
  cases outcome : expression maxDepth ⟨tokens, maxOperators⟩ with
  | error fault =>
      rw [outcome] at tracks
      rcases tracks with ⟨after, refused, bounded⟩
      refine ⟨after, run_bind_of_error refused, (bounded within).1, (bounded within).2.trans ?_⟩
      exact ⟨congrArg Except.error, Except.error.inj⟩
  | ok pair =>
      rcases pair with ⟨tree, cursor⟩
      rw [outcome] at tracks
      rcases tracks with ⟨after, ended, rfl, grew⟩
      have peak := (grew.within within).peak
      have shallow : ¬ maxDepth < after.peak := Nat.not_lt_of_ge peak
      rw [run_bind_of_ok ended, run_bind_of_ok run_current]
      simp only [bind, Except.bind]
      split
      · exact ⟨after, rfl, Nat.le_succ_of_le peak, fun deep => absurd deep shallow, nofun⟩
      · refine ⟨after, rfl, Nat.le_succ_of_le peak, fun deep => absurd deep shallow, fun same => ?_⟩
        exact absurd (Except.error.inj same) (unexpected_ne_tooDeep after.cursor .afterExpression)

end Counting
end Script
end ContactSearch
