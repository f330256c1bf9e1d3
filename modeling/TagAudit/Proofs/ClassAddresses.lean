/-
**Which classes a file is seen to have.**

A node below another one is told by its address, the indices of the children that lead to it; two
nodes that look alike have different addresses. Addresses are compared index by index, and an
address comes before its continuations, so that their order is the order of the nodes from the top
down and from left to right.

* `Node.IsCollected`: the class at an address is to be collected. No class stands between the root
  and it, and a decorated class between the root and it is the class itself with its decorators;
* `Node.mem_addressesAmong`: the walk of `Node.collectAmong` comes to those classes and no others;
* `Node.collectClasses_exact`: the classes of a file are those to be collected, each once and in
  order, with the markers of their own decorators and their own positions.
-/

import Mathlib.Data.List.Forall2
import TagAudit.Module.Outline

namespace TagAudit

/-- The indices of the children that lead from a node to a node below it. -/
abbrev Address := List Nat

namespace Node

/-- The node at an address. -/
def at? (node : Node) : Address → Option Node
  | [] => some node
  | index :: rest => node.children[index]?.bind fun child => child.at? rest

/-- The index of the first child with a role. -/
def fieldIndex? (node : Node) (role : Role) : Option Nat :=
  node.children.findIdx? fun child => child.info.role == some role

/-- The node decorates a class, which is its child with this index. -/
def DecoratesClassAt (node : Node) (index : Nat) : Prop :=
  node.kind = .decoratedDefinition ∧ node.fieldIndex? .definition = some index ∧
    ∃ child, node.children[index]? = some child ∧ child.kind = .classDefinition

/-- The node stands at an address strictly between the root and the given one. -/
structure IsBetween (root : Node) (above address : Address) (node : Node) : Prop where
  notRoot : above ≠ []
  isPrefix : above <+: address
  different : above ≠ address
  found : root.at? above = some node

/-- The class at an address is to be collected. -/
structure IsCollected (root : Node) (address : Address) : Prop where
  isBelow : address ≠ []
  isClass : ∃ node, root.at? address = some node ∧ node.kind = .classDefinition
  notInClass : ∀ above node, root.IsBetween above address node → node.kind ≠ .classDefinition
  isDecorated : ∀ above node index, root.IsBetween above address node →
    node.DecoratesClassAt index → address = above ++ [index]

/-- A class with the name, the position and the members of the class at an address. -/
def IsClassAt (root : Node) (address : Address) (found : ClassDef) : Prop :=
  ∃ node, root.at? address = some node ∧ node.kind = .classDefinition ∧
    found = node.toClass found.markers ∧ found.location = node.location

/-- What stands at the address is the definition of the decorated definition right above it. The
root is a whole file and decorates nothing. -/
def IsDefinitionOf (root : Node) (address : Address) (decorated : Node) : Prop :=
  ∃ above index, above ≠ [] ∧ address = above ++ [index] ∧ root.at? above = some decorated ∧
    decorated.kind = .decoratedDefinition ∧ decorated.fieldIndex? .definition = some index

/-- The class has the markers of what it is the definition of, and none if that is nothing. -/
structure IsMarkedBy (isDefinition : Node → Prop) (found : ClassDef) : Prop where
  decorated : ∀ decorated, isDefinition decorated → found.markers = decorated.markers
  bare : (∀ decorated, ¬ isDefinition decorated) → found.markers = []

/-- The class at an address, with its own position and the markers of its own decorators. -/
structure ShowsClass (root : Node) (address : Address) (found : ClassDef) : Prop where
  isClass : root.IsClassAt address found
  isMarked : IsMarkedBy (root.IsDefinitionOf address) found

theorem IsMarkedBy.congr {isDefinition isDefinition' : Node → Prop} {found : ClassDef}
    (isMarked : IsMarkedBy isDefinition found)
    (same : ∀ decorated, isDefinition' decorated ↔ isDefinition decorated) :
    IsMarkedBy isDefinition' found := by
  refine ⟨fun decorated isDefinition => ?_, fun bare => isMarked.bare fun decorated => ?_⟩
  · exact isMarked.decorated decorated ((same decorated).mp isDefinition)
  · exact fun isDefinition => bare decorated ((same decorated).mpr isDefinition)

/-! ### Addresses one step at a time -/

theorem at?_nil (node : Node) : node.at? [] = some node := rfl

theorem at?_cons {node child : Node} {index : Nat} (isChild : node.children[index]? = some child)
    (rest : Address) : node.at? (index :: rest) = child.at? rest := by
  rw [at?, isChild, Option.bind_some]

theorem at?_cons_eq_some {node target : Node} {index : Nat} {rest : Address}
    (found : node.at? (index :: rest) = some target) :
    ∃ child, node.children[index]? = some child ∧ child.at? rest = some target := by
  rw [at?] at found
  exact Option.bind_eq_some_iff.mp found

/-- The first child with a role is the child with the index of the role. -/
theorem field?_eq (node : Node) (role : Role) :
    node.field? role = (node.fieldIndex? role).bind fun index => node.children[index]? := by
  rw [field?, fieldIndex?, List.find?_eq_bind_findIdx?_getElem?]

/-! ### What has to hold from a child of the root on -/

/-- A class to be collected stands at the address, seen from a node below the root. -/
def IsFound (node : Node) (address : Address) : Prop :=
  (∃ target, node.at? address = some target ∧ target.kind = .classDefinition) ∧
    ∀ above passed, above <+: address → above ≠ address → node.at? above = some passed →
      passed.kind ≠ .classDefinition ∧
        ∀ index, passed.DecoratesClassAt index → address = above ++ [index]

theorem isCollected_iff (root : Node) (address : Address) :
    root.IsCollected address ↔ ∃ index rest child,
      address = index :: rest ∧ root.children[index]? = some child ∧ child.IsFound rest := by
  constructor
  · rintro ⟨isBelow, ⟨node, found, isClass⟩, notInClass, isDecorated⟩
    obtain ⟨index, rest, rfl⟩ := List.exists_cons_of_ne_nil isBelow
    obtain ⟨child, isChild, found⟩ := at?_cons_eq_some found
    refine ⟨index, rest, child, rfl, isChild, ⟨node, found, isClass⟩, ?_⟩
    intro above passed isPrefix different passes
    have between : root.IsBetween (index :: above) (index :: rest) passed :=
      ⟨List.cons_ne_nil _ _, List.cons_prefix_cons.mpr ⟨rfl, isPrefix⟩,
        fun same => different (List.cons.inj same).2, by rw [at?_cons isChild, passes]⟩
    refine ⟨notInClass _ _ between, fun last decorates => ?_⟩
    exact (List.cons.inj (isDecorated _ _ last between decorates)).2
  · rintro ⟨index, rest, child, rfl, isChild, ⟨node, found, isClass⟩, passing⟩
    have fromChild : ∀ above passed, root.IsBetween above (index :: rest) passed →
        ∃ below, above = index :: below ∧ below <+: rest ∧ below ≠ rest ∧
          child.at? below = some passed := by
      rintro above passed ⟨notRoot, isPrefix, different, passes⟩
      obtain ⟨first, below, rfl⟩ := List.exists_cons_of_ne_nil notRoot
      obtain ⟨rfl, shorter⟩ := List.cons_prefix_cons.mp isPrefix
      rw [at?_cons isChild] at passes
      exact ⟨below, rfl, shorter, fun same => different (by rw [same]), passes⟩
    refine ⟨List.cons_ne_nil _ _, ⟨node, by rw [at?_cons isChild, found], isClass⟩, ?_, ?_⟩
    · intro above passed between
      obtain ⟨below, rfl, isPrefix, different, passes⟩ := fromChild above passed between
      exact (passing below passed isPrefix different passes).1
    · intro above passed last between decorates
      obtain ⟨below, rfl, isPrefix, different, passes⟩ := fromChild above passed between
      rw [(passing below passed isPrefix different passes).2 last decorates, List.cons_append]

theorem isFound_nil (node : Node) : node.IsFound [] ↔ node.kind = .classDefinition := by
  constructor
  · rintro ⟨⟨target, found, isClass⟩, _⟩
    obtain rfl := Option.some.inj found
    exact isClass
  · intro isClass
    refine ⟨⟨node, rfl, isClass⟩, fun above passed isPrefix different => ?_⟩
    exact absurd (List.prefix_nil.mp isPrefix) different

theorem isFound_cons (node : Node) (index : Nat) (rest : Address) :
    node.IsFound (index :: rest) ↔ node.kind ≠ .classDefinition ∧
      (∀ last, node.DecoratesClassAt last → index :: rest = [last]) ∧
      ∃ child, node.children[index]? = some child ∧ child.IsFound rest := by
  constructor
  · rintro ⟨⟨target, found, isClass⟩, passing⟩
    obtain ⟨child, isChild, found⟩ := at?_cons_eq_some found
    have here := passing [] node List.nil_prefix (List.cons_ne_nil _ _).symm rfl
    refine ⟨here.1, here.2, child, isChild, ⟨target, found, isClass⟩, ?_⟩
    intro above passed isPrefix different passes
    have below := passing (index :: above) passed (List.cons_prefix_cons.mpr ⟨rfl, isPrefix⟩)
      (fun same => different (List.cons.inj same).2) (by rw [at?_cons isChild, passes])
    exact ⟨below.1, fun last decorates => (List.cons.inj (below.2 last decorates)).2⟩
  · rintro ⟨noClass, noOther, child, isChild, ⟨target, found, isClass⟩, passing⟩
    refine ⟨⟨target, by rw [at?_cons isChild, found], isClass⟩, ?_⟩
    intro above passed isPrefix different passes
    cases above with
    | nil =>
      obtain rfl := Option.some.inj passes
      exact ⟨noClass, noOther⟩
    | cons first above =>
      obtain ⟨rfl, shorter⟩ := List.cons_prefix_cons.mp isPrefix
      rw [at?_cons isChild] at passes
      have below := passing above passed shorter (fun same => different (by rw [same])) passes
      exact ⟨below.1, fun last decorates => by rw [below.2 last decorates, List.cons_append]⟩

/-! ### The addresses to which the walk comes -/

/-- The address, from a node, of the class that the node stands for with its decorators. -/
def ownAddress? (node : Node) : Option Address :=
  match node.kind with
  | .classDefinition => some []
  | .decoratedDefinition =>
    ((node.fieldIndex? .definition).filter fun index =>
      (node.children[index]?).any (·.kind == .classDefinition)).map fun index => [index]
  | _ => none

mutual

/-- The addresses of the classes that are collected at a node or below it. -/
def addressesAt : Node → List Address
  | mk info children =>
    match (mk info children).ownAddress? with
    | some address => [address]
    | none => addressesAmong 0 children

/-- The addresses of the classes that are collected among some children, the first of which has
the index `start`. -/
def addressesAmong (start : Nat) : List Node → List Address
  | [] => []
  | node :: rest => (addressesAt node).map (start :: ·) ++ addressesAmong (start + 1) rest

end

section NoClass

variable {node : Node} (isClass : node.kind ≠ .classDefinition)
  (decorates : ∀ index, ¬ node.DecoratesClassAt index)

include isClass decorates

theorem ownAddress?_eq_none : node.ownAddress? = none := by
  unfold ownAddress?
  split
  next isClass' => exact absurd isClass' isClass
  next isDecorated =>
    rw [Option.map_eq_none_iff, Option.filter_eq_none_iff]
    intro index isField hasClass
    obtain ⟨child, isChild, childIsClass⟩ := (Option.any_eq_true _ _).mp hasClass
    exact decorates index ⟨isDecorated, isField, child, isChild, by simpa using childIsClass⟩
  next => rfl

theorem class?_eq_none : node.class? = none := by
  unfold class?
  split
  next isClass' => exact absurd isClass' isClass
  next isDecorated =>
    rw [Option.map_eq_none_iff, Option.filter_eq_none_iff]
    intro child isField childIsClass
    rw [field?_eq] at isField
    obtain ⟨index, isField, isChild⟩ := Option.bind_eq_some_iff.mp isField
    exact decorates index ⟨isDecorated, isField, child, isChild, by simpa using childIsClass⟩
  next => rfl

end NoClass

/-- **What a node can stand for**: a class, a decorated class, or no class at all. -/
theorem class?_cases (node : Node) :
    (node.kind = .classDefinition ∧ node.ownAddress? = some [] ∧
      node.class? = some (node.toClass [])) ∨
    (∃ index child, node.DecoratesClassAt index ∧ node.children[index]? = some child ∧
      child.kind = .classDefinition ∧ node.ownAddress? = some [index] ∧
      node.class? = some (child.toClass node.markers)) ∨
    (node.kind ≠ .classDefinition ∧ (∀ index, ¬ node.DecoratesClassAt index) ∧
      node.ownAddress? = none ∧ node.class? = none) := by
  by_cases isClass : node.kind = .classDefinition
  · exact .inl ⟨isClass, by simp [ownAddress?, isClass], by simp [class?, isClass]⟩
  refine .inr ?_
  by_cases decorates : ∃ index, node.DecoratesClassAt index
  · obtain ⟨index, isDecorated, isField, child, isChild, childIsClass⟩ := decorates
    refine .inl ⟨index, child, ⟨isDecorated, isField, child, isChild, childIsClass⟩, isChild,
      childIsClass, ?_, ?_⟩
    · simp [ownAddress?, isDecorated, isField, isChild, childIsClass]
    · simp [class?, isDecorated, field?_eq, isField, isChild, childIsClass]
  · rw [not_exists] at decorates
    refine .inr ⟨isClass, decorates, ?_, ?_⟩
    · exact ownAddress?_eq_none isClass decorates
    · exact class?_eq_none isClass decorates

/-! ### The walk comes to the classes to be collected -/

/-- Where the walk goes on below a node, a class to be collected lies below one of its children. -/
theorem isFound_below {node : Node} (noClass : node.kind ≠ .classDefinition)
    (decorates : ∀ index, ¬ node.DecoratesClassAt index) (address : Address) :
    node.IsFound address ↔ ∃ index rest child,
      address = index :: rest ∧ node.children[index]? = some child ∧ child.IsFound rest := by
  cases address with
  | nil => simp [isFound_nil, noClass]
  | cons index rest =>
    rw [isFound_cons]
    constructor
    · rintro ⟨_, _, child, isChild, found⟩
      exact ⟨index, rest, child, rfl, isChild, found⟩
    · rintro ⟨first, below, child, same, isChild, found⟩
      obtain ⟨rfl, rfl⟩ := List.cons.inj same
      exact ⟨noClass, fun last decorated => absurd decorated (decorates last), child, isChild,
        found⟩

mutual

/-- The walk from a node comes to the classes to be collected, seen from the node. -/
theorem mem_addressesAt : ∀ (node : Node) (address : Address),
    address ∈ node.addressesAt ↔ node.IsFound address
  | mk info children, address => by
      obtain ⟨isClass, own, _⟩ | ⟨index, child, decorates, isChild, childIsClass, own, _⟩ |
        ⟨noClass, decorates, own, _⟩ := class?_cases (mk info children)
      · rw [addressesAt, own, List.mem_singleton]
        cases address with
        | nil => simp [isFound_nil, isClass]
        | cons index rest => simp [isFound_cons, isClass]
      · rw [addressesAt, own, List.mem_singleton]
        have noClass : (mk info children).kind ≠ .classDefinition := by
          rw [decorates.1]
          decide
        constructor
        · rintro rfl
          refine (isFound_cons _ _ _).mpr ⟨noClass, fun last decorated => ?_, child, isChild,
            (isFound_nil child).mpr childIsClass⟩
          rw [Option.some.inj (decorates.2.1.symm.trans decorated.2.1)]
        · intro found
          cases address with
          | nil => exact absurd ((isFound_nil _).mp found) noClass
          | cons first rest => exact ((isFound_cons _ _ _).mp found).2.1 index decorates
      · rw [addressesAt, own, mem_addressesAmong children 0, isFound_below noClass decorates]
        simp only [Nat.zero_add]
        rfl

/-- The walk among some children comes to the classes to be collected, seen from each child. -/
theorem mem_addressesAmong : ∀ (nodes : List Node) (start : Nat) (address : Address),
    address ∈ addressesAmong start nodes ↔ ∃ offset rest child,
      address = (start + offset) :: rest ∧ nodes[offset]? = some child ∧ child.IsFound rest
  | [], start, address => by simp [addressesAmong]
  | node :: nodes, start, address => by
      rw [addressesAmong, List.mem_append, List.mem_map, mem_addressesAmong nodes (start + 1)]
      constructor
      · rintro (⟨rest, member, rfl⟩ | ⟨offset, rest, child, rfl, isChild, found⟩)
        · exact ⟨0, rest, node, rfl, rfl, (mem_addressesAt node rest).mp member⟩
        · exact ⟨offset + 1, rest, child, by rw [Nat.add_right_comm, Nat.add_assoc], isChild, found⟩
      · rintro ⟨offset, rest, child, rfl, isChild, found⟩
        cases offset with
        | zero =>
          obtain rfl := Option.some.inj isChild
          exact .inl ⟨rest, (mem_addressesAt node rest).mpr found, rfl⟩
        | succ offset =>
          exact .inr ⟨offset, rest, child, by rw [Nat.add_right_comm, Nat.add_assoc], isChild,
            found⟩

end

mutual

/-- The walk from a node is in the order of addresses. -/
theorem addressesAt_sorted : ∀ node : Node, node.addressesAt.Pairwise (· < ·)
  | mk info children => by
      rw [addressesAt]
      split
      · exact List.pairwise_singleton _ _
      · exact addressesAmong_sorted children 0

theorem addressesAmong_sorted : ∀ (nodes : List Node) (start : Nat),
    (addressesAmong start nodes).Pairwise (· < ·)
  | [], start => List.Pairwise.nil
  | node :: nodes, start => by
      rw [addressesAmong, List.pairwise_append, List.pairwise_map]
      refine ⟨?_, addressesAmong_sorted nodes (start + 1), ?_⟩
      · refine (addressesAt_sorted node).imp fun before => ?_
        exact List.cons_lt_cons_iff.mpr (.inr ⟨rfl, before⟩)
      · intro first isFirst second isSecond
        obtain ⟨rest, _, rfl⟩ := List.mem_map.mp isFirst
        obtain ⟨offset, below, child, rfl, _⟩ := (mem_addressesAmong nodes (start + 1) second).mp
          isSecond
        exact List.cons_lt_cons_iff.mpr (.inl (by omega))

end

/-! ### What is collected at an address -/

/-- Seen from a node below the root, what stands at the address is the definition of the decorated
definition right above it, which may be the node itself. -/
def IsDefinitionFrom (node : Node) (address : Address) (decorated : Node) : Prop :=
  ∃ above index, address = above ++ [index] ∧ node.at? above = some decorated ∧
    decorated.kind = .decoratedDefinition ∧ decorated.fieldIndex? .definition = some index

/-- `ShowsClass` seen from a node below the root. -/
structure ShowsClassFrom (node : Node) (address : Address) (found : ClassDef) : Prop where
  isClass : node.IsClassAt address found
  isMarked : IsMarkedBy (node.IsDefinitionFrom address) found

theorem isDefinitionFrom_nil (node decorated : Node) : ¬ node.IsDefinitionFrom [] decorated := by
  rintro ⟨above, index, split, _⟩
  simp at split

theorem isDefinitionFrom_singleton {node decorated : Node} {index : Nat} :
    node.IsDefinitionFrom [index] decorated ↔ decorated = node ∧
      node.kind = .decoratedDefinition ∧ node.fieldIndex? .definition = some index := by
  constructor
  · rintro ⟨above, last, split, found, isDecorated, isField⟩
    obtain ⟨rfl, rfl⟩ : above = [] ∧ index = last := by
      cases above with
      | nil => simpa using split
      | cons first rest => simp at split
    obtain rfl := Option.some.inj found
    exact ⟨rfl, isDecorated, isField⟩
  · rintro ⟨rfl, isDecorated, isField⟩
    exact ⟨[], index, rfl, rfl, isDecorated, isField⟩

/-- Above a child of the root stands the root; what is right above an address further down is seen
from the child as well. -/
theorem isDefinitionOf_cons {root child : Node} {index : Nat}
    (isChild : root.children[index]? = some child) (rest : Address) (decorated : Node) :
    root.IsDefinitionOf (index :: rest) decorated ↔ child.IsDefinitionFrom rest decorated := by
  constructor
  · rintro ⟨above, last, notRoot, split, found, isDecorated, isField⟩
    obtain ⟨first, above, rfl⟩ := List.exists_cons_of_ne_nil notRoot
    simp only [List.cons_append, List.cons.injEq] at split
    obtain ⟨rfl, split⟩ := split
    rw [at?_cons isChild] at found
    exact ⟨above, last, split, found, isDecorated, isField⟩
  · rintro ⟨above, last, rfl, found, isDecorated, isField⟩
    exact ⟨index :: above, last, List.cons_ne_nil _ _, rfl, by rw [at?_cons isChild, found],
      isDecorated, isField⟩

/-- Where the node does not decorate the class at an address, what is right above that address is
seen from the child on the way. -/
theorem isDefinitionFrom_cons {node child : Node} {index : Nat} {rest : Address}
    {found : ClassDef} (isChild : node.children[index]? = some child)
    (isClass : child.IsClassAt rest found) (decorates : ∀ last, ¬ node.DecoratesClassAt last)
    (decorated : Node) :
    node.IsDefinitionFrom (index :: rest) decorated ↔ child.IsDefinitionFrom rest decorated := by
  rw [← isDefinitionOf_cons isChild]
  constructor
  · rintro ⟨above, last, split, found, isDecorated, isField⟩
    refine ⟨above, last, ?_, split, found, isDecorated, isField⟩
    rintro rfl
    obtain ⟨rfl, rfl⟩ := List.cons.inj split
    obtain rfl := Option.some.inj found
    obtain ⟨target, isTarget, isClass, _⟩ := isClass
    obtain rfl := Option.some.inj isTarget
    exact decorates index ⟨isDecorated, isField, child, isChild, isClass⟩
  · rintro ⟨above, last, _, rest⟩
    exact ⟨above, last, rest⟩

theorem IsClassAt.cons {node child : Node} {index : Nat} {rest : Address} {found : ClassDef}
    (isClass : child.IsClassAt rest found) (isChild : node.children[index]? = some child) :
    node.IsClassAt (index :: rest) found := by
  obtain ⟨target, isTarget, shown⟩ := isClass
  exact ⟨target, by rw [at?_cons isChild, isTarget], shown⟩

/-- What is collected at a node or below it. -/
def classesAt (node : Node) : List ClassDef :=
  match node.class? with
  | some found => [found]
  | none => node.collectClasses

theorem collectAmong_cons (node : Node) (rest : List Node) :
    collectAmong (node :: rest) = node.classesAt ++ collectAmong rest := by
  rw [collectAmong, classesAt]
  cases node.class? <;> rfl

mutual

/-- The walk from a node shows the classes to which it comes. -/
theorem forall₂_classesAt : ∀ node : Node,
    List.Forall₂ node.ShowsClassFrom node.addressesAt node.classesAt
  | mk info children => by
      obtain ⟨isClass, own, found⟩ | ⟨index, child, decorates, isChild, childIsClass, own, found⟩ |
        ⟨noClass, decorates, own, found⟩ := class?_cases (mk info children)
      · rw [addressesAt, own, classesAt, found]
        refine List.Forall₂.cons ⟨⟨_, at?_nil _, isClass, rfl, rfl⟩, ?_, fun _ => rfl⟩ .nil
        exact fun decorated isDefinition => absurd isDefinition (isDefinitionFrom_nil _ _)
      · rw [addressesAt, own, classesAt, found]
        have isDefinition := isDefinitionFrom_singleton.mpr ⟨rfl, decorates.1, decorates.2.1⟩
        refine List.Forall₂.cons ⟨⟨child, ?_, childIsClass, rfl, rfl⟩, ?_, ?_⟩ .nil
        · rw [at?_cons isChild, at?_nil]
        · intro decorated isDefinition
          rw [(isDefinitionFrom_singleton.mp isDefinition).1]
          rfl
        · exact fun bare => absurd isDefinition (bare _)
      · rw [addressesAt, own, classesAt, found, collectClasses]
        refine (forall₂_collectAmong children 0).imp ?_
        rintro address found ⟨offset, rest, child, rfl, isChild, shown⟩
        have same := isDefinitionFrom_cons isChild shown.isClass decorates
        rw [Nat.zero_add]
        exact ⟨shown.isClass.cons isChild, shown.isMarked.congr same⟩

/-- The walk among some children shows the classes to which it comes. -/
theorem forall₂_collectAmong : ∀ (nodes : List Node) (start : Nat),
    List.Forall₂ (fun address found => ∃ offset rest child, address = (start + offset) :: rest ∧
      nodes[offset]? = some child ∧ child.ShowsClassFrom rest found)
      (addressesAmong start nodes) (collectAmong nodes)
  | [], start => by
      rw [addressesAmong, collectAmong]
      exact .nil
  | node :: nodes, start => by
      rw [addressesAmong, collectAmong_cons]
      refine List.rel_append ?_ ?_
      · rw [List.forall₂_map_left_iff]
        exact (forall₂_classesAt node).imp fun rest found shown => ⟨0, rest, node, rfl, rfl, shown⟩
      · refine (forall₂_collectAmong nodes (start + 1)).imp ?_
        rintro address found ⟨offset, rest, child, rfl, isChild, shown⟩
        exact ⟨offset + 1, rest, child, by rw [Nat.add_right_comm, Nat.add_assoc], isChild, shown⟩

end

/-! ### The classes of a file -/

/-- No class to be collected lies inside of another one. -/
theorem IsCollected.eq_of_inside {root : Node} {outer inner : Address}
    (isOuter : root.IsCollected outer) (isInner : root.IsCollected inner)
    (inside : outer <+: inner) : outer = inner := by
  by_contra different
  obtain ⟨node, found, isClass⟩ := isOuter.isClass
  exact isInner.notInClass outer node ⟨isOuter.isBelow, inside, different, found⟩ isClass

/-- **The classes of a file are the classes to be collected**, each once and in order, each with
its own position and the markers of its own decorators. None of them lies inside of another, and
every class with neither a class nor a decorated class above it is among them. -/
theorem collectClasses_exact (root : Node) :
    ∃ addresses : List Address,
      addresses.Pairwise (· < ·) ∧
      (∀ address, address ∈ addresses ↔ root.IsCollected address) ∧
      List.Forall₂ root.ShowsClass addresses root.outline.classes ∧
      (∀ outer ∈ addresses, ∀ inner ∈ addresses, outer <+: inner → outer = inner) ∧
      ∀ address node, address ≠ [] → root.at? address = some node →
        node.kind = .classDefinition →
        (∀ above passed, root.IsBetween above address passed →
          passed.kind ≠ .classDefinition ∧ ∀ index, ¬ passed.DecoratesClassAt index) →
        address ∈ addresses := by
  have members : ∀ address,
      address ∈ addressesAmong 0 root.children ↔ root.IsCollected address := by
    intro address
    rw [mem_addressesAmong root.children 0, isCollected_iff]
    simp only [Nat.zero_add]
  refine ⟨addressesAmong 0 root.children, addressesAmong_sorted root.children 0, members, ?_, ?_,
    ?_⟩
  · have classes : root.outline.classes = collectAmong root.children := by
      cases root
      rfl
    rw [classes]
    refine (forall₂_collectAmong root.children 0).imp ?_
    rintro address found ⟨offset, rest, child, rfl, isChild, shown⟩
    have same := isDefinitionOf_cons isChild rest
    rw [Nat.zero_add]
    exact ⟨shown.isClass.cons isChild, shown.isMarked.congr same⟩
  · intro outer isOuter inner isInner inside
    exact ((members outer).mp isOuter).eq_of_inside ((members inner).mp isInner) inside
  · intro address node isBelow found isClass above
    refine (members address).mpr ⟨isBelow, ⟨node, found, isClass⟩, ?_, ?_⟩
    · intro place passed between
      exact (above place passed between).1
    · intro place passed index between decorates
      exact absurd decorates ((above place passed between).2 index)

end Node

end TagAudit
