import ContactSearch.Proofs.Script.Counting
import ContactSearch.Proofs.Script.PrintedForm

namespace ContactSearch
namespace Script

/-!
# The size of accepted trees

The two counters of the reader bound the tree that it builds.  The operators
that were counted are the nodes that join two trees or access one, wherever
they stand.  Negations are not counted as operators, and a chain of operators
opens no levels.  So neither counter bounds the height of the tree alone.  A
way from the root to a leaf passes at most as many operators as there are in
the tree, and at most as many negations as levels were open at once, less the
one of the whole expression.
-/

namespace Tree

/-- Whether the root of a tree is an access or a binary operator. -/
def isOperation : Tree -> Bool
  | .member _ _ => true
  | .index _ _ => true
  | .equality _ _ _ => true
  | .and _ _ => true
  | .or _ _ => true
  | _ => false

/-- All trees that a tree is made of, itself included. -/
def nodes : Tree -> List Tree
  | .literal value => [.literal value]
  | .this => [.this]
  | .identifier name => [.identifier name]
  | .member object property => .member object property :: object.nodes
  | .index object key => .index object key :: (object.nodes ++ key.nodes)
  | .not operand => .not operand :: operand.nodes
  | .equality operator left right => .equality operator left right :: (left.nodes ++ right.nodes)
  | .and left right => .and left right :: (left.nodes ++ right.nodes)
  | .or left right => .or left right :: (left.nodes ++ right.nodes)

/-- The ways from the root of a tree to its leaves. -/
def paths : Tree -> List (List Tree)
  | .literal value => [[.literal value]]
  | .this => [[.this]]
  | .identifier name => [[.identifier name]]
  | .member object property => object.paths.map (.member object property :: ·)
  | .index object key => (object.paths ++ key.paths).map (.index object key :: ·)
  | .not operand => operand.paths.map (.not operand :: ·)
  | .equality operator left right =>
      (left.paths ++ right.paths).map (.equality operator left right :: ·)
  | .and left right => (left.paths ++ right.paths).map (.and left right :: ·)
  | .or left right => (left.paths ++ right.paths).map (.or left right :: ·)

/-- The most negations on one way from the root to a leaf. -/
def negationDepth : Tree -> Nat
  | .literal _ => 0
  | .this => 0
  | .identifier _ => 0
  | .member object _ => object.negationDepth
  | .index object key => max object.negationDepth key.negationDepth
  | .not operand => operand.negationDepth + 1
  | .equality _ left right => max left.negationDepth right.negationDepth
  | .and left right => max left.negationDepth right.negationDepth
  | .or left right => max left.negationDepth right.negationDepth

/-- The operators that leave a mark are the nodes that access a tree or join two. -/
theorem countP_isOperation_nodes (tree : Tree) :
    tree.nodes.countP isOperation = tree.operatorCount := by
  induction tree with
  | literal value => exact (Counting.operatorCount_literal value).symm
  | this => rfl
  | identifier name => rfl
  | not operand ih => exact ih
  | member object property ih =>
      rw [nodes, List.countP_cons_of_pos rfl, ih, Counting.operatorCount_member]
  | index object key ih ih' =>
      rw [nodes, List.countP_cons_of_pos rfl, List.countP_append, ih, ih',
        Counting.operatorCount_index, Nat.add_right_comm]
  | equality operator left right ih ih' =>
      rw [nodes, List.countP_cons_of_pos rfl, List.countP_append, ih, ih', Nat.add_right_comm]
      exact (Counting.operatorCount_combine (.equality operator) left right).symm
  | and left right ih ih' =>
      rw [nodes, List.countP_cons_of_pos rfl, List.countP_append, ih, ih', Nat.add_right_comm]
      exact (Counting.operatorCount_combine .and left right).symm
  | or left right ih ih' =>
      rw [nodes, List.countP_cons_of_pos rfl, List.countP_append, ih, ih', Nat.add_right_comm]
      exact (Counting.operatorCount_combine .or left right).symm

end Tree

/-! ## Ways to a leaf -/

/-- What a way from the root of a tree to a leaf passes. -/
structure Tree.Passes (tree : Tree) (path : List Tree) : Prop where
  negations : path.countP Tree.isNegation ≤ tree.negationDepth
  operations : path.countP Tree.isOperation ≤ tree.operatorCount
  length : path.length = path.countP Tree.isNegation + path.countP Tree.isOperation + 1

namespace Tree.Passes

variable {root child : Tree} {path : List Tree}

theorem not (passes : child.Passes path) : (Tree.not child).Passes (.not child :: path) where
  negations := by
    rw [List.countP_cons_of_pos rfl]
    exact Nat.succ_le_succ passes.negations
  operations := by
    rw [List.countP_cons_of_neg Bool.false_ne_true]
    exact passes.operations
  length := by
    rw [List.length_cons, List.countP_cons_of_pos rfl, List.countP_cons_of_neg Bool.false_ne_true,
      passes.length]
    omega

/-- From the root down to one of the trees that it joins or accesses. -/
theorem operation (passes : child.Passes path) (joins : root.isOperation = true)
    (plain : root.isNegation = false) (negations : child.negationDepth ≤ root.negationDepth)
    (operations : child.operatorCount < root.operatorCount) : root.Passes (root :: path) where
  negations := by
    rw [List.countP_cons_of_neg (by simp [plain])]
    exact Nat.le_trans passes.negations negations
  operations := by
    rw [List.countP_cons_of_pos joins]
    exact Nat.lt_of_le_of_lt passes.operations operations
  length := by
    rw [List.length_cons, List.countP_cons_of_neg (by simp [plain]),
      List.countP_cons_of_pos joins, passes.length]
    omega

end Tree.Passes

theorem Tree.Passes.leaf {root : Tree} (noOperation : root.isOperation = false)
    (plain : root.isNegation = false) : root.Passes [root] where
  negations := by
    rw [List.countP_singleton, plain]
    exact Nat.zero_le _
  operations := by
    rw [List.countP_singleton, noOperation]
    exact Nat.zero_le _
  length := by
    rw [List.countP_singleton, List.countP_singleton, plain, noOperation]
    rfl

/-- The ways through a root that joins two trees, or accesses one by the value of another. -/
theorem passes_of_mem_map {root left right : Tree} {path : List Tree}
    (leftPasses : forall path, path ∈ left.paths -> left.Passes path)
    (rightPasses : forall path, path ∈ right.paths -> right.Passes path)
    (joins : root.isOperation = true) (plain : root.isNegation = false)
    (negations : root.negationDepth = max left.negationDepth right.negationDepth)
    (operations : root.operatorCount = left.operatorCount + 1 + right.operatorCount)
    (member : path ∈ (left.paths ++ right.paths).map (root :: ·)) : root.Passes path := by
  rcases List.mem_map.mp member with ⟨below, inside, rfl⟩
  rcases List.mem_append.mp inside with inLeft | inRight
  · apply (leftPasses below inLeft).operation joins plain
    · exact negations ▸ Nat.le_max_left _ _
    · omega
  · apply (rightPasses below inRight).operation joins plain
    · exact negations ▸ Nat.le_max_right _ _
    · omega

theorem passes_of_mem_paths {tree : Tree} {path : List Tree} (member : path ∈ tree.paths) :
    tree.Passes path := by
  induction tree generalizing path with
  | literal value => exact List.mem_singleton.mp member ▸ .leaf rfl rfl
  | this => exact List.mem_singleton.mp member ▸ .leaf rfl rfl
  | identifier name => exact List.mem_singleton.mp member ▸ .leaf rfl rfl
  | member object property ih =>
      rcases List.mem_map.mp member with ⟨below, inside, rfl⟩
      have fewer : object.operatorCount < (Tree.member object property).operatorCount := by
        rw [Counting.operatorCount_member]
        exact Nat.lt_succ_self _
      exact (ih inside).operation rfl rfl (Nat.le_refl _) fewer
  | not operand ih =>
      rcases List.mem_map.mp member with ⟨below, inside, rfl⟩
      exact (ih inside).not
  | index object key ih ih' =>
      exact passes_of_mem_map (fun _ => ih) (fun _ => ih') rfl rfl rfl
        (Counting.operatorCount_index object key) member
  | equality operator left right ih ih' =>
      exact passes_of_mem_map (fun _ => ih) (fun _ => ih') rfl rfl rfl
        (Counting.operatorCount_combine (.equality operator) left right) member
  | and left right ih ih' =>
      exact passes_of_mem_map (fun _ => ih) (fun _ => ih') rfl rfl rfl
        (Counting.operatorCount_combine .and left right) member
  | or left right ih ih' =>
      exact passes_of_mem_map (fun _ => ih) (fun _ => ih') rfl rfl rfl
        (Counting.operatorCount_combine .or left right) member

/-! ## Negations and levels -/

theorem Sign.negationDepth_combine {level : Level} (sign : Sign level) (left right : Tree) :
    (sign.combine left right).negationDepth = max left.negationDepth right.negationDepth := by
  cases sign <;> rfl

mutual

/-- A tree has no more negations one below the other than its derivation has levels. -/
theorem Derivation.negationDepth_tree {category : Category} :
    forall derivation : Derivation category, derivation.tree.negationDepth ≤ derivation.depth
  | .expression body => Nat.le_succ_of_le body.negationDepth_tree
  | .chain first rest => by
      have behind := rest.negationDepth_extend first.tree
      have front := first.negationDepth_tree
      rw [Derivation.tree, Derivation.depth]
      omega
  | .not operand => Nat.succ_le_succ operand.negationDepth_tree
  | .plain access => access.negationDepth_tree
  | .access object rest => by
      have behind := rest.negationDepth_extend object.tree
      have front := object.negationDepth_tree
      rw [Derivation.tree, Derivation.depth]
      omega
  | .literal _ _ _ => Nat.le_refl 0
  | .this => Nat.le_refl 0
  | .identifier _ => Nat.le_refl 0
  | .parenthesized inner => inner.negationDepth_tree

/-- What follows a tree adds none above it, and no more than it has levels beside it. -/
theorem Continuation.negationDepth_extend {repetition : Repetition} :
    forall (rest : Continuation repetition) (left : Tree),
      (rest.extend left).negationDepth ≤ max left.negationDepth rest.depth
  | .chainEnd, left => Nat.le_max_left _ _
  | .accessEnd, left => Nat.le_max_left _ _
  | .chainMore sign operand rest, left => by
      have behind := rest.negationDepth_extend (sign.combine left operand.tree)
      have beside := operand.negationDepth_tree
      rw [sign.negationDepth_combine] at behind
      rw [Continuation.extend, Continuation.depth]
      omega
  | .member property rest, left => rest.negationDepth_extend (.member left property)
  | .index key rest, left => by
      have behind := rest.negationDepth_extend (.index left key.tree)
      have beside := key.negationDepth_tree
      rw [Tree.negationDepth] at behind
      rw [Continuation.extend, Continuation.depth]
      omega

end

/-- The level of the whole expression is no negation. -/
theorem Derivation.negationDepth_lt (derivation : Derivation .expression) :
    derivation.tree.negationDepth < derivation.depth := by
  cases derivation with
  | expression body => exact Nat.lt_succ_of_le body.negationDepth_tree

/-! ## Accepted scripts -/

/--
Reading a script with counters ends with what becomes of the script, and more than 200 levels
are open only in the moment of the refusal.  Every tree that is read has at most 256 operators,
and a way from its root to a leaf passes at most 199 negations and at most 456 nodes.  Whatever
part is read, from whatever state, leaves the levels as they were and has counted its operators.
-/
theorem accepted_scripts_bounded (source : String) :
    (exists after : Counters,
      Counting.run Counting.readAll ⟨tokenize source, 0, 0, 0⟩ =
        some (Tree.parse source, after) ∧
      after.peak ≤ 201 ∧ (200 < after.peak <-> Tree.parse source = .error .tooDeep)) ∧
    (forall tree, Tree.parse source = .ok tree ->
      tree.nodes.countP Tree.isOperation ≤ 256 ∧
      forall path, path ∈ tree.paths ->
        path.countP Tree.isNegation ≤ 199 ∧ path.length ≤ 456) ∧
    (forall (category : Category) (before after : Counters) (tree : Tree),
      Counting.run category.read before = some (.ok tree, after) ->
      after.depth = before.depth ∧
      after.operators = before.operators + tree.nodes.countP Tree.isOperation) := by
  refine ⟨Counting.run_readAll (tokenize source), ?_, ?_⟩
  · intro tree parsed
    rcases parse_eq_ok_iff.mp parsed with ⟨derivation, _, rfl, shallow, _⟩
    have few : derivation.tree.operatorCount ≤ 256 := operatorCount_le_of_parse parsed
    have negations : derivation.tree.negationDepth ≤ 199 :=
      Nat.le_of_lt_succ (Nat.lt_of_lt_of_le derivation.negationDepth_lt shallow)
    rw [Tree.countP_isOperation_nodes]
    refine ⟨few, fun path member => ?_⟩
    have passes := passes_of_mem_paths member
    refine ⟨Nat.le_trans passes.negations negations, ?_⟩
    have bounded := passes.negations
    have bounded' := passes.operations
    rw [passes.length]
    omega
  · intro category before after tree ended
    rw [Tree.countP_isOperation_nodes]
    exact Counting.restored_of_read ended

end Script
end ContactSearch
