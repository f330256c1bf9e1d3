/-
**The first error of a source.**

Nodes without errors inside are not searched for one. Where every node with an error at it or below
it is flagged, this leaves nothing out: the node that is found is the first one, from the top down,
with which something is wrong. Flags may be set in other places as well, such as above a missing
token that is not shown; there the search goes on behind the flagged node.

* `Node.isWrong`, `Node.FlagsErrors`: what is searched for, and what the flags have to say;
* `Node.firstError?_eq_find?`: the search finds the first node that is wrong;
* `Node.firstError_exact`: the same for the position that is kept of it, the smallest of the positions
  of all such nodes if positions do not descend.
-/

import TagAudit.Proofs.DefinitionNodes
import TagAudit.Proofs.Positions

namespace TagAudit

namespace Node

/-- Something is wrong with the node itself. -/
def isWrong (node : Node) : Bool := node.info.isError || node.info.isMissing

/-- Wherever something is wrong, the node itself and all nodes around it are flagged. -/
def FlagsErrors (root : Node) : Prop :=
  ∀ node ∈ root.preorder, ∀ wrong ∈ node.preorder, wrong.isWrong = true → node.info.hasError = true

/-! ### What the search leaves out -/

theorem mem_preorder_self (node : Node) : node ∈ node.preorder := by
  rw [preorder_eq]
  exact List.mem_cons_self ..

theorem preorder_subset_of_mem {node child : Node} (isChild : child ∈ node.children) :
    child.preorder ⊆ node.preorder := by
  intro inner isInner
  rw [preorder_eq]
  exact List.mem_cons_of_mem _ (List.mem_flatMap.mpr ⟨child, isChild, isInner⟩)

theorem FlagsErrors.child {node child : Node} (flags : node.FlagsErrors)
    (isChild : child ∈ node.children) : child.FlagsErrors := by
  intro inner isInner
  exact flags inner (preorder_subset_of_mem isChild isInner)

/-- At a node that is not flagged nothing is wrong, and nothing below it. -/
theorem FlagsErrors.find?_eq_none {node : Node} (flags : node.FlagsErrors)
    (notFlagged : node.info.hasError = false) : node.preorder.find? isWrong = none := by
  rw [List.find?_eq_none]
  intro wrong isInner isWrong
  rw [flags node node.mem_preorder_self wrong isInner isWrong] at notFlagged
  cases notFlagged

/-! ### What the search finds -/

mutual

/-- **The search finds the first node that is wrong.** -/
theorem firstError?_eq_find? : ∀ {node : Node}, node.FlagsErrors →
    node.firstError? = node.preorder.find? isWrong
  | mk info children, flags => by
      by_cases itself : (mk info children).isWrong = true
      · rw [preorder, List.find?_cons_of_pos itself, firstError?]
        exact if_pos itself
      · have below : firstErrorAmong? children = (preorderAmong children).find? isWrong :=
          firstErrorAmong?_eq_find? fun child isChild => flags.child isChild
        by_cases flagged : info.hasError = true
        · rw [preorder, List.find?_cons_of_neg itself, ← below, firstError?, flagged]
          exact if_neg itself
        · rw [flags.find?_eq_none (Bool.eq_false_iff.mpr flagged), firstError?, if_neg flagged]
          exact if_neg itself

/-- Among some nodes the search finds the first one that is wrong. -/
theorem firstErrorAmong?_eq_find? : ∀ {nodes : List Node}, (∀ node ∈ nodes, node.FlagsErrors) →
    firstErrorAmong? nodes = (preorderAmong nodes).find? isWrong
  | [], _ => rfl
  | node :: rest, flags => by
      have first := firstError?_eq_find? (flags node (List.mem_cons_self ..))
      have others := firstErrorAmong?_eq_find? fun other isOther =>
        flags other (List.mem_cons_of_mem _ isOther)
      rw [firstErrorAmong?, preorderAmong, List.find?_append, first, others]

end

/-- Of nodes in the order of their positions, the first one that is wrong has the smallest position
of all that are. -/
theorem find?_isWrong_le {nodes : List Node} (inOrder : InOrder Node.location nodes) {first : Node}
    (found : nodes.find? isWrong = some first) {wrong : Node} (isNode : wrong ∈ nodes)
    (wrongItself : wrong.isWrong = true) : first.location.key ≤ wrong.location.key := by
  rw [← List.head?_filter] at found
  obtain ⟨rest, split⟩ := List.head?_eq_some_iff.mp found
  have wrongInOrder : InOrder Node.location (nodes.filter isWrong) := inOrder.filter _
  have isWrongNode : wrong ∈ nodes.filter isWrong := List.mem_filter.mpr ⟨isNode, wrongItself⟩
  rw [split] at wrongInOrder isWrongNode
  rcases List.mem_cons.mp isWrongNode with rfl | isLater
  · exact le_refl _
  · exact List.rel_of_pairwise_cons wrongInOrder isLater

/-- **The first error of a source**, where wherever something is wrong is flagged. The search finds
the first wrong node from the top down, and none if and only if there is none. If positions do not
descend from the top down, the position that is kept is the smallest one of a wrong node. -/
theorem firstError_exact {root : Node} (flags : root.FlagsErrors) :
    root.firstError? = root.preorder.find? isWrong ∧
    (root.firstError? = none ↔ ∀ node ∈ root.preorder, node.isWrong = false) ∧
    (InOrder Node.location root.preorder → ∀ location, root.outline.firstError = some location ↔
      (∃ wrong ∈ root.preorder, wrong.isWrong = true ∧ wrong.location = location) ∧
        ∀ wrong ∈ root.preorder, wrong.isWrong = true →
          Location.le location wrong.location = true) := by
  have found := firstError?_eq_find? flags
  refine ⟨found, ?_, fun inOrder location => ?_⟩
  · rw [found, List.find?_eq_none]
    simp only [Bool.not_eq_true]
  have kept : root.outline.firstError = (root.preorder.find? isWrong).map Node.location := by
    rw [← found]
    rfl
  rw [kept, Option.map_eq_some_iff]
  constructor
  · rintro ⟨first, isFirst, rfl⟩
    refine ⟨⟨first, List.mem_of_find?_eq_some isFirst, List.find?_some isFirst, rfl⟩, ?_⟩
    intro wrong isNode wrongItself
    rw [Location.le_iff_key_le]
    exact find?_isWrong_le inOrder isFirst isNode wrongItself
  · rintro ⟨⟨wrong, isNode, wrongItself, rfl⟩, smallest⟩
    obtain ⟨first, isFirst⟩ : ∃ first, root.preorder.find? isWrong = some first :=
      Option.isSome_iff_exists.mp (List.find?_isSome.mpr ⟨wrong, isNode, wrongItself⟩)
    have notAfter := find?_isWrong_le inOrder isFirst isNode wrongItself
    have notBefore := smallest first (List.mem_of_find?_eq_some isFirst) (List.find?_some isFirst)
    rw [Location.le_iff_key_le] at notBefore
    exact ⟨first, isFirst, Location.key_injective (le_antisymm notAfter notBefore)⟩

/-- A node of a source that is nothing to an audit. -/
def plainNode (isError hasError : Bool) (location : Location) (children : List Node) : Node :=
  mk ⟨.other "statement", none, true, isError, false, hasError, location, none⟩ children

/-- A source with a statement that is flagged for what is not shown, and an error inside of the next
one. -/
def brokenSource : Node :=
  plainNode false true ⟨1, 1⟩
    [plainNode false true ⟨1, 1⟩ [plainNode false false ⟨1, 5⟩ []],
      plainNode false true ⟨2, 1⟩ [plainNode true true ⟨2, 5⟩ [], plainNode true true ⟨2, 9⟩ []]]

/-- The search comes back from the first statement and finds the error in the second one. -/
theorem firstError_exact_broken :
    brokenSource.FlagsErrors ∧ InOrder Node.location brokenSource.preorder ∧
      brokenSource.outline.firstError = some ⟨2, 5⟩ := by
  have flags : brokenSource.FlagsErrors := by
    simp [FlagsErrors, brokenSource, plainNode, preorder, preorderAmong, isWrong, info]
  have inOrder : InOrder Node.location brokenSource.preorder := by
    unfold InOrder
    decide
  refine ⟨flags, inOrder, ?_⟩
  rw [(firstError_exact flags).2.2 inOrder]
  decide

end Node

end TagAudit
