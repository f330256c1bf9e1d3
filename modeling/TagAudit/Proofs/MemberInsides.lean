/-
**What is not seen of a class.**

Of a class its name, its position, its decorators and its direct members are seen, and of a member
the same without members. What stands inside of a member, and what in the body of a class is no
member, makes no difference.

* `Node.ChangedAt`: a node in which nothing but what plays one role was changed;
* `Node.RedoneMember`, `Node.RedoneBody`: a member with another body, and a body with redone members
  between other statements;
* `Node.SameOutside`: two sources that differ in the bodies of their collected classes only, and there
  only so;
* `Node.members_eq_of_redoneBody`: redone bodies have the same members;
* `Node.SameOutsideAmong.collectAmong`: sources that are the same outside have the same classes;
* `Node.insides_unseen`: the same for whole sources, and what the members of a class are.
-/

import Mathlib.Data.List.Forall2
import TagAudit.Proofs.ClassAddresses
import TagAudit.Proofs.CommentedMarkers

namespace TagAudit

namespace Node

/-- The nodes look the same from outside. Their insides may differ, and with them what is wrong
inside and the text that they span. -/
structure SameFace (first second : NodeInfo) : Prop where
  kind : second.kind = first.kind
  role : second.role = first.role
  isNamed : second.isNamed = first.isNamed
  location : second.location = first.location

/-- The child is the same one, or it plays `role` and was changed. -/
def OrChanged (role : Role) (changed : Node → Node → Prop) (child otherChild : Node) : Prop :=
  otherChild = child ∨
    child.info.role = some role ∧ otherChild.info.role = some role ∧ changed child otherChild

/-- The nodes look the same and have the same children, except that what plays `role` was
changed. -/
structure ChangedAt (role : Role) (changed : Node → Node → Prop) (node other : Node) : Prop where
  face : SameFace node.info other.info
  children : List.Forall₂ (OrChanged role changed) node.children other.children

/-- The definition with any other body. -/
abbrev OtherBody : Node → Node → Prop := ChangedAt .body fun _ _ => True

/-- A member of a class, bare or decorated, with any other body. -/
inductive RedoneMember : Node → Node → Prop
  | bare {node other : Node} (isDefinition : node.kind.isDefinition = true)
      (redone : OtherBody node other) : RedoneMember node other
  | decorated {node other : Node} (isDecorated : node.kind = .decoratedDefinition)
      (redone : ChangedAt .definition (fun definition otherDefinition =>
        definition.kind.isDefinition = true ∧ OtherBody definition otherDefinition) node other) :
    RedoneMember node other

/-- A child of a class body that stands for a member: a definition or a decorated definition. -/
def isMember (node : Node) : Bool :=
  node.info.isNamed && (node.kind.isDefinition ||
    node.kind == .decoratedDefinition && (node.field? .definition).any (·.kind.isDefinition))

/-- The children of a class body that stand for members. -/
def memberNodes (body : Node) : List Node := body.children.filter isMember

/-- The body has the same members, each with any other body, and any other statements between
them. -/
def RedoneBody (body other : Node) : Prop :=
  List.Forall₂ RedoneMember body.memberNodes other.memberNodes

/-- The node decorates a class. -/
def decoratesClass (node : Node) : Bool :=
  node.kind == .decoratedDefinition && (node.field? .definition).any (·.kind == .classDefinition)

/-- A class with a redone body. -/
structure RedoneClass (node other : Node) : Prop where
  isClass : node.kind = .classDefinition
  redone : ChangedAt .body RedoneBody node other

mutual

/-- The second node is the first one with redone bodies of the classes that are collected at it or
below it. -/
inductive SameOutside : Node → Node → Prop
  | ofClass {node other : Node} (redone : RedoneClass node other) : SameOutside node other
  | decoratedClass {node other : Node} (decorates : node.decoratesClass = true)
      (redone : ChangedAt .definition RedoneClass node other) : SameOutside node other
  | around {info otherInfo : NodeInfo} {children others : List Node}
      (noClass : (Node.mk info children).kind ≠ .classDefinition)
      (noDecorated : (Node.mk info children).decoratesClass = false)
      (face : SameFace info otherInfo) (among : SameOutsideAmong children others) :
    SameOutside (.mk info children) (.mk otherInfo others)

/-- The same for some nodes one by one. -/
inductive SameOutsideAmong : List Node → List Node → Prop
  | nil : SameOutsideAmong [] []
  | cons {node other : Node} {rest others : List Node} (outside : SameOutside node other)
      (among : SameOutsideAmong rest others) : SameOutsideAmong (node :: rest) (other :: others)

end

/-- What is seen of a child of a class body that stands for a member. -/
inductive ShowsMember : Node → MemberDef → Prop
  | bare {node : Node} (isDefinition : node.kind.isDefinition = true) :
    ShowsMember node ⟨node.definedName?, node.location, []⟩
  | decorated {node definition : Node} (isDecorated : node.kind = .decoratedDefinition)
      (isField : node.field? .definition = some definition)
      (isDefinition : definition.kind.isDefinition = true) :
    ShowsMember node ⟨definition.definedName?, definition.location, node.markers⟩

/-! ### Sources in which nothing was changed -/

theorem SameFace.refl (info : NodeInfo) : SameFace info info := ⟨rfl, rfl, rfl, rfl⟩

theorem ChangedAt.refl (role : Role) (changed : Node → Node → Prop) (node : Node) :
    ChangedAt role changed node node :=
  ⟨.refl _, List.forall₂_same.mpr fun _ _ => .inl rfl⟩

theorem RedoneMember.refl {node : Node} (isMember : node.isMember = true) :
    RedoneMember node node := by
  unfold Node.isMember at isMember
  rw [Bool.and_eq_true, Bool.or_eq_true, Bool.and_eq_true, beq_iff_eq] at isMember
  obtain ⟨-, isDefinition | ⟨isDecorated, -⟩⟩ := isMember
  · exact .bare isDefinition (.refl _ _ _)
  · exact .decorated isDecorated (.refl _ _ _)

mutual

/-- A source is the same outside if nothing was changed. -/
theorem SameOutside.refl : ∀ node : Node, SameOutside node node
  | mk info children => by
      by_cases isClass : (mk info children).kind = .classDefinition
      · exact .ofClass ⟨isClass, .refl _ _ _⟩
      · cases decorates : (mk info children).decoratesClass with
        | true => exact .decoratedClass decorates (.refl _ _ _)
        | false => exact .around isClass decorates (.refl _) (SameOutsideAmong.refl children)

theorem SameOutsideAmong.refl : ∀ nodes : List Node, SameOutsideAmong nodes nodes
  | [] => .nil
  | node :: rest => .cons (SameOutside.refl node) (SameOutsideAmong.refl rest)

end

/-! ### Nodes that were changed in one role -/

section Related

variable {related : Node → Node → Prop} {nodes others : List Node}
  (areRelated : List.Forall₂ related nodes others) {keep : Node → Bool}

include areRelated

/-- What is kept of some nodes is the same if the nodes that differ are not kept. -/
theorem filter_eq_of_forall₂ (same : ∀ node other, related node other →
    other = node ∨ keep node = false ∧ keep other = false) :
    others.filter keep = nodes.filter keep := by
  induction areRelated with
  | nil => rfl
  | @cons node other _ _ isRelated _ step =>
    rcases same node other isRelated with rfl | ⟨notKept, otherNotKept⟩
    · rw [List.filter_cons, List.filter_cons, step]
    · simp [notKept, otherNotKept, step]

/-- The first nodes that are kept are related if related nodes are kept alike. -/
theorem find?_rel_of_forall₂ (alike : ∀ node other, related node other → keep other = keep node) :
    Option.Rel related (nodes.find? keep) (others.find? keep) := by
  induction areRelated with
  | nil => exact .none
  | @cons node other _ _ isRelated _ step =>
    rw [List.find?_cons, List.find?_cons, alike node other isRelated]
    cases keep node with
    | true => exact .some isRelated
    | false => exact step

end Related

namespace ChangedAt

variable {role : Role} {changed : Node → Node → Prop} {node other : Node}
  (isChanged : ChangedAt role changed node other)

include isChanged

theorem field?_of_ne {otherRole : Role} (different : otherRole ≠ role) :
    other.field? otherRole = node.field? otherRole := by
  unfold Node.field?
  rw [← List.head?_filter, ← List.head?_filter]
  congr 1
  refine filter_eq_of_forall₂ isChanged.children fun child otherChild related => ?_
  rcases related with same | ⟨isRole, otherIsRole, -⟩
  · exact .inl same
  · exact .inr (by simp [isRole, otherIsRole, different.symm])

/-- What plays the role is the same or was changed. -/
theorem field?_self :
    Option.Rel (OrChanged role changed) (node.field? role) (other.field? role) := by
  apply find?_rel_of_forall₂ isChanged.children
  rintro child otherChild (rfl | ⟨isRole, otherIsRole, -⟩)
  · rfl
  · rw [isRole, otherIsRole]

theorem kind : other.kind = node.kind := isChanged.face.kind

theorem location : other.location = node.location := isChanged.face.location

theorem definedName? (different : .name ≠ role) : other.definedName? = node.definedName? := by
  unfold Node.definedName?
  rw [isChanged.field?_of_ne different]

/-- The markers are the same if no decorator was changed. -/
theorem markers (noDecorator : ∀ child otherChild, changed child otherChild →
    child.kind ≠ .decorator ∧ otherChild.kind ≠ .decorator) : other.markers = node.markers := by
  unfold Node.markers namedChildren
  rw [List.filter_filter, List.filter_filter]
  congr 1
  refine filter_eq_of_forall₂ isChanged.children fun child otherChild related => ?_
  rcases related with same | ⟨-, -, isChanged⟩
  · exact .inl same
  -- What was changed is no decorator before and after, so it is left out of both.
  · obtain ⟨isOther, otherIsOther⟩ := noDecorator child otherChild isChanged
    exact .inr (by simp [isOther, otherIsOther])

end ChangedAt

/-! ### Redone members -/

variable {node other : Node}

theorem ne_decorator_of_isDefinition (isDefinition : node.kind.isDefinition = true) :
    node.kind ≠ .decorator := by
  intro isDecorator
  rw [isDecorator] at isDefinition
  cases isDefinition

theorem toMember_of_otherBody (redone : OtherBody node other) (markers : List Marker) :
    other.toMember markers = node.toMember markers := by
  unfold toMember
  rw [redone.definedName? (by decide), redone.location]

theorem member?_of_isDefinition (isDefinition : node.kind.isDefinition = true) :
    node.member? = some (node.toMember []) := by
  unfold NodeKind.isDefinition at isDefinition
  split at isDefinition
  next isClass => simp only [member?, isClass]
  next isFunction => simp only [member?, isFunction]
  next => cases isDefinition

theorem member?_of_decorated (isDecorated : node.kind = .decoratedDefinition) :
    node.member? =
      ((node.field? .definition).filter (·.kind.isDefinition)).map (toMember node.markers) := by
  simp only [member?, isDecorated]

/-- **A redone member is the same member.** -/
theorem RedoneMember.member? (redone : RedoneMember node other) : other.member? = node.member? := by
  cases redone with
  | bare isDefinition redone =>
    rw [member?_of_isDefinition isDefinition,
      member?_of_isDefinition (redone.kind ▸ isDefinition), toMember_of_otherBody redone]
  | decorated isDecorated redone =>
    have sameMarkers : other.markers = node.markers := by
      apply redone.markers
      rintro definition otherDefinition ⟨isDefinition, redone⟩
      exact ⟨ne_decorator_of_isDefinition isDefinition,
        ne_decorator_of_isDefinition (redone.kind ▸ isDefinition)⟩
    rw [member?_of_decorated isDecorated, member?_of_decorated (redone.kind.trans isDecorated),
      sameMarkers]
    have field := redone.field?_self
    generalize node.field? .definition = before, other.field? .definition = after at field ⊢
    cases field with
    | none => rfl
    | @some definition otherDefinition related =>
      rcases related with rfl | ⟨-, -, isDefinition, redone⟩
      · rfl
      · simp only [Option.filter_some, redone.kind, isDefinition, if_true, Option.map_some,
          toMember_of_otherBody redone]

/-! ### The members of a class body -/

/-- What stands for a member is one, and shows what it is. -/
theorem exists_showsMember (isMember : node.isMember = true) :
    ∃ member, node.member? = some member ∧ ShowsMember node member := by
  unfold Node.isMember at isMember
  rw [Bool.and_eq_true, Bool.or_eq_true, Bool.and_eq_true, beq_iff_eq, Option.any_eq_true]
    at isMember
  obtain ⟨-, isDefinition | ⟨isDecorated, definition, isField, isDefinition⟩⟩ := isMember
  · exact ⟨_, member?_of_isDefinition isDefinition, .bare isDefinition⟩
  · refine ⟨_, ?_, .decorated isDecorated isField isDefinition⟩
    rw [member?_of_decorated isDecorated, isField, Option.filter_some, if_pos isDefinition]
    rfl

theorem member?_eq_none (isNamed : node.info.isNamed = true) (noMember : ¬ node.isMember = true) :
    node.member? = none := by
  rw [Option.eq_none_iff_forall_not_mem]
  intro member isFound
  apply noMember
  unfold Node.member? at isFound
  simp only [isMember, isNamed, Bool.true_and, Bool.or_eq_true, Bool.and_eq_true, beq_iff_eq,
    Option.any_eq_true]
  split at isFound
  next isFunction => exact .inl (by rw [isFunction]; rfl)
  next isClass => exact .inl (by rw [isClass]; rfl)
  next isDecorated =>
    obtain ⟨definition, isDefinition, -⟩ := Option.map_eq_some_iff.mp isFound
    obtain ⟨isField, isDefinition⟩ := Option.filter_eq_some_iff.mp isDefinition
    exact .inr ⟨isDecorated, definition, isField, isDefinition⟩
  next => cases isFound

/-- The members of a body are those of the nodes that stand for one. -/
theorem members_eq_filterMap (body : Node) : body.members = body.memberNodes.filterMap member? := by
  unfold members namedChildren memberNodes
  rw [List.filterMap_filter, List.filterMap_filter]
  congr 1
  -- The two filters differ at named nodes that stand for no member, and those give none.
  funext child
  by_cases isMember : child.isMember = true
  · have isNamed : child.info.isNamed = true := by
      unfold Node.isMember at isMember
      exact (Bool.and_eq_true_iff.mp isMember).1
    rw [if_pos isMember, if_pos isNamed]
  · rw [if_neg isMember]
    split
    next isNamed => exact member?_eq_none isNamed isMember
    next => rfl

/-- **Redone bodies have the same members.** -/
theorem members_eq_of_redoneBody (redone : RedoneBody node other) : other.members = node.members := by
  rw [members_eq_filterMap, members_eq_filterMap]
  unfold RedoneBody at redone
  generalize node.memberNodes = nodes, other.memberNodes = others at redone ⊢
  induction redone with
  | nil => rfl
  | cons first _ step => rw [List.filterMap_cons, List.filterMap_cons, first.member?, step]

/-- **The members of a body are its children that stand for one**, one by one and in order. -/
theorem forall₂_members (body : Node) :
    List.Forall₂ ShowsMember body.memberNodes body.members := by
  have shown : ∀ child ∈ body.memberNodes,
      ∃ member, child.member? = some member ∧ ShowsMember child member := by
    intro child isChild
    exact exists_showsMember (List.mem_filter.mp isChild).2
  rw [members_eq_filterMap]
  generalize body.memberNodes = nodes at shown
  induction nodes with
  | nil => exact .nil
  | cons child rest step =>
    obtain ⟨member, found, shows⟩ := shown child List.mem_cons_self
    rw [List.filterMap_cons_some found]
    exact .cons shows (step fun later isLater => shown later (List.mem_cons_of_mem _ isLater))

/-! ### Redone classes -/

theorem RedoneClass.toClass (redone : RedoneClass node other) (markers : List Marker) :
    other.toClass markers = node.toClass markers := by
  have isChanged := redone.redone
  have sameMembers : (other.field? .body).map members = (node.field? .body).map members := by
    have field := isChanged.field?_self
    generalize node.field? .body = before, other.field? .body = after at field ⊢
    cases field with
    | none => rfl
    | some related =>
      rcases related with rfl | ⟨-, -, redone⟩
      · rfl
      · rw [Option.map_some, Option.map_some, members_eq_of_redoneBody redone]
  unfold Node.toClass
  rw [isChanged.definedName? (by decide), isChanged.location, sameMembers]

theorem class?_of_isClass (isClass : node.kind = .classDefinition) :
    node.class? = some (node.toClass []) := by
  simp only [class?, isClass]

theorem class?_of_decorated (isDecorated : node.kind = .decoratedDefinition) :
    node.class? = ((node.field? .definition).filter (·.kind == .classDefinition)).map
      (Node.toClass node.markers) := by
  simp only [class?, isDecorated]

theorem RedoneClass.class? (redone : RedoneClass node other) : other.class? = node.class? := by
  rw [class?_of_isClass redone.isClass,
    class?_of_isClass (redone.redone.kind.trans redone.isClass), redone.toClass]

theorem class?_of_decoratedClass (isDecorated : node.kind = .decoratedDefinition)
    (redone : ChangedAt .definition RedoneClass node other) : other.class? = node.class? := by
  have sameMarkers : other.markers = node.markers := by
    apply redone.markers
    intro child otherChild redone
    rw [redone.redone.kind, redone.isClass]
    decide
  rw [class?_of_decorated isDecorated, class?_of_decorated (redone.kind.trans isDecorated),
    sameMarkers]
  have field := redone.field?_self
  generalize node.field? .definition = before, other.field? .definition = after at field ⊢
  cases field with
  | none => rfl
  | @some child otherChild related =>
    rcases related with rfl | ⟨-, -, redone⟩
    · rfl
    · simp only [Option.filter_some, redone.redone.kind, redone.isClass, beq_self_eq_true, if_true,
        Option.map_some, redone.toClass]

theorem exists_class?_of_decoratesClass (decorates : node.decoratesClass = true) :
    node.kind = .decoratedDefinition ∧ ∃ found, node.class? = some found := by
  unfold decoratesClass at decorates
  rw [Bool.and_eq_true, beq_iff_eq, Option.any_eq_true] at decorates
  obtain ⟨isDecorated, child, isField, isClass⟩ := decorates
  refine ⟨isDecorated, child.toClass node.markers, ?_⟩
  rw [class?_of_decorated isDecorated, isField, Option.filter_some, if_pos isClass, Option.map_some]

theorem class?_eq_none_of_noDecorated (noClass : node.kind ≠ .classDefinition)
    (noDecorated : node.decoratesClass = false) : node.class? = none := by
  refine class?_eq_none noClass ?_
  rintro index ⟨isDecorated, isField, child, isChild, isClass⟩
  have decorates : node.decoratesClass = true := by
    simp [decoratesClass, isDecorated, field?_eq, isField, isChild, isClass]
  rw [noDecorated] at decorates
  cases decorates

/-! ### Sources that are the same outside -/

variable {nodes others : List Node}

theorem SameOutside.face : SameOutside node other → SameFace node.info other.info
  | .ofClass redone => redone.redone.face
  | .decoratedClass _ redone => redone.face
  | .around _ _ face _ => face

theorem SameOutsideAmong.forall₂ : ∀ {nodes others}, SameOutsideAmong nodes others →
    List.Forall₂ SameOutside nodes others
  | _, _, .nil => .nil
  | _, _, .cons outside among => .cons outside among.forall₂

/-- What decorates no class does not do so either if its children are the same outside. -/
theorem SameOutsideAmong.decoratesClass {info otherInfo : NodeInfo}
    (among : SameOutsideAmong nodes others) (face : SameFace info otherInfo) :
    (mk otherInfo others).decoratesClass = (mk info nodes).decoratesClass := by
  have field : Option.Rel SameOutside ((mk info nodes).field? .definition)
      ((mk otherInfo others).field? .definition) := by
    refine find?_rel_of_forall₂ among.forall₂ fun child otherChild outside => ?_
    rw [outside.face.role]
  have sameKind : (mk otherInfo others).kind = (mk info nodes).kind := face.kind
  unfold Node.decoratesClass
  rw [sameKind]
  congr 1
  generalize (mk info nodes).field? .definition = before,
    (mk otherInfo others).field? .definition = after at field ⊢
  cases field with
  | none => rfl
  | @some child otherChild outside =>
    have sameChildKind : otherChild.kind = child.kind := outside.face.kind
    rw [Option.any_some, Option.any_some, sameChildKind]

mutual

theorem SameOutside.classesAt : ∀ {node other : Node}, SameOutside node other →
    other.classesAt = node.classesAt
  | _, _, .ofClass redone => by
      unfold Node.classesAt
      rw [redone.class?, class?_of_isClass redone.isClass]
  | _, _, .decoratedClass decorates redone => by
      obtain ⟨isDecorated, found, isFound⟩ := exists_class?_of_decoratesClass decorates
      unfold Node.classesAt
      rw [class?_of_decoratedClass isDecorated redone, isFound]
  | mk info children, mk otherInfo others, .around noClass noDecorated face among => by
      -- No class stands here on either side, so both walks go on below the node.
      have otherNoClass : (mk otherInfo others).kind ≠ .classDefinition := by
        rw [show (mk otherInfo others).kind = (mk info children).kind from face.kind]
        exact noClass
      have otherNoDecorated := (among.decoratesClass face).trans noDecorated
      unfold Node.classesAt
      rw [class?_eq_none_of_noDecorated noClass noDecorated,
        class?_eq_none_of_noDecorated otherNoClass otherNoDecorated]
      exact among.collectAmong

/-- **Sources that are the same outside have the same classes.** -/
theorem SameOutsideAmong.collectAmong : ∀ {nodes others : List Node},
    SameOutsideAmong nodes others → Node.collectAmong others = Node.collectAmong nodes
  | _, _, .nil => rfl
  | _, _, .cons outside among => by
      rw [collectAmong_cons, collectAmong_cons, outside.classesAt, among.collectAmong]

end

/-! ### The members of the classes of a source -/

/-- The nodes that stand for the members of a class. -/
def classMemberNodes (node : Node) : List Node := ((node.field? .body).map memberNodes).getD []

theorem forall₂_classMembers (markers : List Marker) (node : Node) :
    List.Forall₂ ShowsMember node.classMemberNodes (node.toClass markers).members := by
  unfold classMemberNodes toClass
  cases node.field? .body with
  | none => exact .nil
  | some body => exact forall₂_members body

/-- The class at an address, with a member for each child of its body that stands for one. -/
def ShowsMembers (root : Node) (address : Address) (found : ClassDef) : Prop :=
  ∃ node, root.at? address = some node ∧ node.kind = .classDefinition ∧
    found = node.toClass found.markers ∧
    List.Forall₂ ShowsMember node.classMemberNodes found.members

theorem IsClassAt.showsMembers {root : Node} {address : Address} {found : ClassDef}
    (isClassAt : root.IsClassAt address found) : root.ShowsMembers address found := by
  obtain ⟨node, isNode, isClass, same, -⟩ := isClassAt
  refine ⟨node, isNode, isClass, same, ?_⟩
  rw [same]
  exact forall₂_classMembers _ _

theorem outline_classes (root : Node) : root.outline.classes = collectAmong root.children := by
  cases root
  rfl

/-- The classes of a source show the members of the classes to which the walk comes. -/
theorem forall₂_showsMembers (root : Node) :
    List.Forall₂ root.ShowsMembers (addressesAmong 0 root.children) root.outline.classes := by
  rw [outline_classes]
  refine (forall₂_collectAmong root.children 0).imp ?_
  rintro address found ⟨offset, rest, child, rfl, isChild, shown⟩
  rw [Nat.zero_add]
  exact (shown.isClass.cons isChild).showsMembers

/-- **What stands inside of a member, or is no member, is not seen.** Sources that differ only there
have the same classes, with the same markers and members. The members of a class are, one by one and
in order, the children of its body that are definitions or decorated definitions. -/
theorem insides_unseen (root other : Node) :
    (SameOutsideAmong root.children other.children →
      other.outline.classes = root.outline.classes) ∧
    ∃ addresses : List Address, (∀ address, address ∈ addresses ↔ root.IsCollected address) ∧
      List.Forall₂ root.ShowsMembers addresses root.outline.classes := by
  refine ⟨fun among => ?_, addressesAmong 0 root.children, fun address => ?_, ?_⟩
  · rw [outline_classes, outline_classes, among.collectAmong]
  · rw [mem_addressesAmong, isCollected_iff]
    simp only [Nat.zero_add]
  · exact root.forall₂_showsMembers

/-! ### A source with classes where none are seen -/

/-- A block that is a body. -/
def block (statements : List Node) : Node := part (.other "block") (some .body) statements

/-- A function with a body. -/
def function (name : String) (body : List Node) : Node :=
  part .functionDefinition none [word .name name, block body]

/-- A class with a body, as a definition with the decorator `@allure.title`. -/
def titledClass (name : String) (body : List Node) : Node :=
  part .decoratedDefinition none
    [part .decorator none
      [sign "@", part .attribute none [word .object "allure", sign ".", word .attribute "title"]],
      part .classDefinition (some .definition) [word .name name, block body]]

/-- A class with two methods and a nested class, below a condition, and another class. -/
def cartSource (before method nested : List Node) : Node :=
  part (.other "module") none
    [part (.other "if_statement") none
      [sign "if", titledClass "Cart"
        (before ++ [function "checkout" method, titledClass "Nested" nested, function "total" []])],
      titledClass "Shop" []]

/-- A class inside of a compound statement. -/
def hiddenClass : Node := part (.other "with_statement") none [titledClass "Hidden" []]

theorem ChangedAt.of_block {kind : NodeKind} {role : Option Role} {name : String}
    {changed : Node → Node → Prop} {body otherBody : List Node}
    (isChanged : changed (block body) (block otherBody)) :
    ChangedAt .body changed (part kind role [word .name name, block body])
      (part kind role [word .name name, block otherBody]) :=
  ⟨.refl _, .cons (.inl rfl) (.cons (.inr ⟨rfl, rfl, isChanged⟩) .nil)⟩

theorem ChangedAt.of_titledClass {name : String} {changed : Node → Node → Prop}
    {body otherBody : List Node}
    (isChanged : changed (part .classDefinition (some .definition) [word .name name, block body])
      (part .classDefinition (some .definition) [word .name name, block otherBody])) :
    ChangedAt .definition changed (titledClass name body) (titledClass name otherBody) :=
  ⟨.refl _, .cons (.inl rfl) (.cons (.inr ⟨rfl, rfl, isChanged⟩) .nil)⟩

/-- Classes in a new statement, in a method and in a nested class are not seen. -/
theorem insides_unseen_cart :
    SameOutsideAmong (cartSource [] [] []).children
      (cartSource [hiddenClass] [titledClass "Local" []] [hiddenClass]).children ∧
    (cartSource [hiddenClass] [titledClass "Local" []] [hiddenClass]).outline.classes =
      [⟨some "Cart", ⟨1, 1⟩, [⟨"allure", "title", false⟩],
        [⟨some "checkout", ⟨1, 1⟩, []⟩, ⟨some "Nested", ⟨1, 1⟩, [⟨"allure", "title", false⟩]⟩,
          ⟨some "total", ⟨1, 1⟩, []⟩]⟩,
        ⟨some "Shop", ⟨1, 1⟩, [⟨"allure", "title", false⟩], []⟩] := by
  have among : SameOutsideAmong (cartSource [] [] []).children
      (cartSource [hiddenClass] [titledClass "Local" []] [hiddenClass]).children := by
    refine .cons (.around (by decide) (by decide) (.refl _) ?_) (.refl _)
    refine .cons (.refl _) (.cons ?_ .nil)
    refine .decoratedClass (by decide) (.of_titledClass ⟨rfl, .of_block ?_⟩)
    refine .cons (.bare rfl (.of_block trivial)) (.cons (.decorated rfl ?_) ?_)
    · exact .of_titledClass ⟨rfl, .of_block trivial⟩
    · exact .cons (.refl (by decide)) .nil
  refine ⟨among, ?_⟩
  rw [(insides_unseen _ _).1 among]
  decide

end Node

end TagAudit
