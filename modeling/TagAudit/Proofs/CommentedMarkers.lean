/-
**Comments between the parts of a decorator.**

A comment may stand between any two tokens. It is a named node without a role, so whatever is read
by its role, and the expression of a decorator, are found among comments as well. Only what stands
in parentheses is read by its position: there a comment in front hides it.

* `Node.Commented`: a node with comments put between the nodes below it, in front of what stands in
  parentheses or not;
* `Node.CommentedAmong.filter`: what is read of some nodes other than comments is still there;
* `Node.marker?_commented`: an expression keeps its marker, or a comment in parentheses hides it;
* `Node.markers_commented`: comments change no markers, except that those in front of what stands in
  parentheses can take some away.
-/

import Mathlib.Data.List.Forall2
import TagAudit.Module.Outline

namespace TagAudit

namespace Node

/-- A comment, as it may stand between any two tokens. -/
structure IsComment (node : Node) : Prop where
  kind : node.kind = .comment
  isNamed : node.info.isNamed = true
  role : node.info.role = none

/-- The nodes are read alike; they may differ in where they start and in what is wrong with them. -/
structure ReadAlike (first second : NodeInfo) : Prop where
  kind : second.kind = first.kind
  role : second.role = first.role
  isNamed : second.isNamed = first.isNamed
  text : second.text = first.text

mutual

/-- The second node is the first one with comments put between the nodes below it. Unless `inFront`
is set, none of them is put in front of what stands first in parentheses. -/
inductive Commented (inFront : Bool) : Node → Node → Prop
  | mk {info otherInfo : NodeInfo} {children others : List Node} (alike : ReadAlike info otherInfo)
      (among : CommentedAmong inFront (inFront || info.kind != .parenthesizedExpression)
        children others) :
    Commented inFront (.mk info children) (.mk otherInfo others)

/-- The second nodes are the first ones with comments put below them and, behind a named one or if
`isFree` is set, between them. -/
inductive CommentedAmong (inFront : Bool) : Bool → List Node → List Node → Prop
  | nil {isFree : Bool} : CommentedAmong inFront isFree [] []
  | node {isFree : Bool} {first other : Node} {rest others : List Node}
      (commented : Commented inFront first other)
      (among : CommentedAmong inFront (isFree || first.info.isNamed) rest others) :
    CommentedAmong inFront isFree (first :: rest) (other :: others)
  | comment {comment : Node} {rest others : List Node} (isComment : comment.IsComment)
      (among : CommentedAmong inFront true rest others) :
    CommentedAmong inFront true rest (comment :: others)

end

theorem ReadAlike.refl (info : NodeInfo) : ReadAlike info info := ⟨rfl, rfl, rfl, rfl⟩

mutual

theorem Commented.refl (inFront : Bool) : ∀ node : Node, Commented inFront node node
  | Node.mk info children => .mk (.refl info) (CommentedAmong.refl inFront _ children)

theorem CommentedAmong.refl (inFront : Bool) : ∀ (isFree : Bool) (nodes : List Node),
    CommentedAmong inFront isFree nodes nodes
  | _, [] => .nil
  | _, node :: rest => .node (Commented.refl inFront node) (CommentedAmong.refl inFront _ rest)

end

variable {inFront isFree : Bool} {node other : Node} {nodes others : List Node}

theorem Commented.alike : Commented inFront node other → ReadAlike node.info other.info
  | .mk alike _ => alike

theorem Commented.among (commented : Commented inFront node other) :
    ∃ isFree, CommentedAmong inFront isFree node.children other.children := by
  cases commented with
  | mk alike among => exact ⟨_, among⟩

/-- **What is read of some nodes other than comments is still there.** -/
theorem CommentedAmong.filter {keep : Node → Bool}
    (noComment : ∀ comment : Node, comment.IsComment → keep comment = false)
    (sameKeep : ∀ {first second : Node}, ReadAlike first.info second.info → keep second = keep first) :
    ∀ {isFree nodes others}, CommentedAmong inFront isFree nodes others →
      List.Forall₂ (Commented inFront) (nodes.filter keep) (others.filter keep)
  | _, _, _, .nil => .nil
  | _, _, _, .node commented among => by
      have onward := among.filter noComment sameKeep
      rw [List.filter_cons, List.filter_cons, sameKeep commented.alike]
      split
      · exact .cons commented onward
      · exact onward
  | _, _, _, .comment isComment among => by
      rw [List.filter_cons_of_neg (by simp [noComment _ isComment])]
      exact among.filter noComment sameKeep

/-- The first of some nodes with a property that comments lack is still the first one. -/
theorem CommentedAmong.find? {keep : Node → Bool}
    (noComment : ∀ comment : Node, comment.IsComment → keep comment = false)
    (sameKeep : ∀ {first second : Node}, ReadAlike first.info second.info → keep second = keep first)
    (among : CommentedAmong inFront isFree nodes others) :
    Option.Rel (Commented inFront) (nodes.find? keep) (others.find? keep) := by
  have kept := among.filter noComment sameKeep
  rw [← List.head?_filter, ← List.head?_filter]
  generalize nodes.filter keep = before, others.filter keep = after at kept ⊢
  cases kept with
  | nil => exact .none
  | cons commented _ => exact .some commented

/-- What plays a role in a node still does. -/
theorem Commented.field? (commented : Commented inFront node other) (role : Role) :
    Option.Rel (Commented inFront) (node.field? role) (other.field? role) := by
  obtain ⟨isFree, among⟩ := commented.among
  refine among.find? (fun comment isComment => ?_) fun alike => ?_
  · simp [isComment.role]
  · rw [alike.role]

theorem Commented.attributeNames? (commented : Commented inFront node other) :
    other.attributeNames? = node.attributeNames? := by
  unfold Node.attributeNames?
  have object := commented.field? .object
  have name := commented.field? .attribute
  generalize node.field? .object = before, other.field? .object = after at object ⊢
  generalize node.field? .attribute = nameBefore, other.field? .attribute = nameAfter at name ⊢
  cases object with
  | none => rfl
  | @some object otherObject commentedObject =>
    have sameKind : otherObject.kind = object.kind := commentedObject.alike.kind
    simp only [Option.bind_eq_bind, Option.bind_some, commentedObject.alike.text]
    rw [sameKind]
    cases name with
    | none => rfl
    | some commentedName => simp only [Option.bind_some, commentedName.alike.text]

/-- What was read is read again, or it is hidden by a comment in front. -/
def KeptOrHidden (inFront : Bool) (before after : Option Marker) : Prop :=
  after = before ∨ inFront = true ∧ after = none

theorem Commented.marker?_call {info otherInfo : NodeInfo}
    (commented : Commented inFront (Node.mk info nodes) (Node.mk otherInfo others))
    (isCall : info.kind = .call) :
    (Node.mk otherInfo others).marker? = (Node.mk info nodes).marker? := by
  have otherIsCall : otherInfo.kind = .call := commented.alike.kind.trans isCall
  have function := commented.field? .function
  simp only [marker?, isCall, otherIsCall]
  generalize (Node.mk info nodes).field? .function = before,
    (Node.mk otherInfo others).field? .function = after at function ⊢
  cases function with
  | none => rfl
  | @some called otherCalled commentedCalled =>
    have sameKind : otherCalled.kind = called.kind := commentedCalled.alike.kind
    simp only [Option.bind_eq_bind, Option.bind_some, commentedCalled.attributeNames?]
    rw [sameKind]

theorem IsComment.marker?_eq_none (isComment : node.IsComment) : node.marker? = none := by
  cases node with
  | mk info children =>
    have isKind : info.kind = .comment := isComment.kind
    simp only [marker?, isKind]

mutual

/-- **An expression keeps its marker**, unless a comment in front of what stands in parentheses hides
it. -/
theorem marker?_commented : ∀ {node other : Node}, Commented inFront node other →
    KeptOrHidden inFront node.marker? other.marker?
  | mk info children, mk otherInfo others, commented => by
      have sameKind : otherInfo.kind = info.kind := commented.alike.kind
      cases isKind : info.kind with
      | call => exact .inl (commented.marker?_call isKind)
      | «attribute» =>
        left
        simp only [marker?, isKind, sameKind, commented.attributeNames?]
      | parenthesizedExpression =>
        obtain @⟨_, _, _, _, _, among⟩ := commented
        rw [isKind, bne_self_eq_false, Bool.or_false] at among
        simp only [marker?, isKind, sameKind]
        exact firstNamedMarker?_commented id among
      | _ =>
        left
        simp only [marker?, isKind, sameKind]

/-- The first named node keeps its marker, unless a comment comes to stand in front. -/
theorem firstNamedMarker?_commented : ∀ {nodes others : List Node} {isFree : Bool},
    (isFree = true → inFront = true) → CommentedAmong inFront isFree nodes others →
    KeptOrHidden inFront (firstNamedMarker? nodes) (firstNamedMarker? others)
  | _, [], _, _, .nil => .inl rfl
  | _, _ :: _, _, isFront, .comment isComment _ => by
      refine .inr ⟨isFront rfl, ?_⟩
      rw [firstNamedMarker?, if_pos isComment.isNamed]
      exact isComment.marker?_eq_none
  | first :: rest, other :: others, isFree, isFront, .node commented among => by
      rw [firstNamedMarker?, firstNamedMarker?, commented.alike.isNamed]
      by_cases isNamed : first.info.isNamed = true
      · rw [if_pos isNamed, if_pos isNamed]
        exact marker?_commented commented
      · rw [if_neg isNamed, if_neg isNamed]
        rw [Bool.eq_false_iff.mpr isNamed, Bool.or_false] at among
        exact firstNamedMarker?_commented isFront among

end

/-! ### The markers of a definition -/

theorem decoratorMarker?_commented (commented : Commented inFront node other) :
    KeptOrHidden inFront (node.decoratorExpression?.bind marker?)
      (other.decoratorExpression?.bind marker?) := by
  have expression : Option.Rel (Commented inFront) node.decoratorExpression?
      other.decoratorExpression? := by
    obtain ⟨isFree, among⟩ := commented.among
    unfold decoratorExpression? namedChildren
    rw [List.find?_filter, List.find?_filter]
    refine among.find? (fun comment isComment => ?_) fun alike => ?_
    · simp [isComment.kind]
    · simp [kind, alike.kind, alike.isNamed]
  generalize node.decoratorExpression? = before, other.decoratorExpression? = after at expression ⊢
  cases expression with
  | none => exact .inl rfl
  | some commentedExpression => exact marker?_commented commentedExpression

theorem Commented.decorators (commented : Commented inFront node other) :
    List.Forall₂ (Commented inFront) (node.namedChildren.filter (·.kind == .decorator))
      (other.namedChildren.filter (·.kind == .decorator)) := by
  obtain ⟨isFree, among⟩ := commented.among
  unfold namedChildren
  rw [List.filter_filter, List.filter_filter]
  refine among.filter (fun comment isComment => ?_) fun alike => ?_
  · simp [isComment.kind]
  · simp [kind, alike.kind, alike.isNamed]

/-- What is read of some nodes stays in order, and all of it stays if nothing is hidden. -/
theorem filterMap_keptOrHidden {read : Node → Option Marker}
    (kept : List.Forall₂ (fun node other => KeptOrHidden inFront (read node) (read other))
      nodes others) :
    (others.filterMap read).Sublist (nodes.filterMap read) ∧
      (inFront = false → others.filterMap read = nodes.filterMap read) := by
  induction kept with
  | nil => exact ⟨List.Sublist.slnil, fun _ => rfl⟩
  | @cons node other _ _ first _ step =>
    obtain ⟨inOrder, all⟩ := step
    rcases first with same | ⟨hidden, isNone⟩
    · rw [List.filterMap_cons, List.filterMap_cons, same]
      cases read node with
      | none => exact ⟨inOrder, all⟩
      | some marker => exact ⟨inOrder.cons_cons marker, fun shown => by rw [all shown]⟩
    · rw [List.filterMap_cons_none isNone, List.filterMap_cons]
      refine ⟨?_, fun shown => ?_⟩
      · cases read node with
        | none => exact inOrder
        | some marker => exact inOrder.cons marker
      · rw [hidden] at shown
        cases shown

/-- **Comments and markers.** Comments put anywhere between the parts of a decorated definition,
except in front of what stands first in parentheses, leave its markers as they are. Those in front
can take markers away, but neither change nor add one. -/
theorem markers_commented (node other : Node) :
    (Commented false node other → other.markers = node.markers) ∧
      (Commented true node other → other.markers.Sublist node.markers) := by
  have read : ∀ inFront, Commented inFront node other → other.markers.Sublist node.markers ∧
      (inFront = false → other.markers = node.markers) := by
    intro inFront commented
    exact filterMap_keptOrHidden (commented.decorators.imp fun _ _ => decoratorMarker?_commented)
  exact ⟨fun commented => (read false commented).2 rfl, fun commented => (read true commented).1⟩

/-! ### A decorator in parentheses -/

/-- A node of some kind and role with the given parts. -/
def part (kind : NodeKind) (role : Option Role) (children : List Node) : Node :=
  mk ⟨kind, role, true, false, false, false, ⟨1, 1⟩, none⟩ children

/-- A name that plays a role. -/
def word (role : Role) (text : String) : Node :=
  mk ⟨.identifier, some role, true, false, false, false, ⟨1, 1⟩, some text⟩ []

def sign (text : String) : Node :=
  mk ⟨.other text, none, false, false, false, false, ⟨1, 1⟩, some text⟩ []

def remark : Node := mk ⟨.comment, none, true, false, false, false, ⟨1, 1⟩, some "# why"⟩ []

/-- The source `@(allure.title())` on a class, with comments behind the opening parenthesis, behind
the name of the namespace and behind the decorator. -/
def titledCart (inParentheses inAttribute behind : List Node) : Node :=
  part .decoratedDefinition none
    (part .decorator none
      [sign "@", part .parenthesizedExpression none
        (sign "(" :: (inParentheses ++
          [part .call none
            [part .attribute (some .function)
              (word .object "allure" :: (inAttribute ++ [sign ".", word .attribute "title"])),
              part (.other "argument_list") (some (.other "arguments")) []], sign ")"]))] ::
      (behind ++ [part .classDefinition (some .definition) []]))

theorem isComment_remark : remark.IsComment := ⟨rfl, rfl, rfl⟩

theorem commented_in_front : Commented true (titledCart [] [] []) (titledCart [remark] [] []) := by
  refine .mk (.refl _) (.node (.mk (.refl _) (.node (.refl _ _) (.node ?_ .nil))) (.refl _ _ _))
  exact .mk (.refl _) (.node (.refl _ _) (.comment isComment_remark (.refl _ _ _)))

/-- Comments inside of what stands in parentheses and behind a decorator change nothing. -/
theorem markers_commented_titled :
    Commented false (titledCart [] [] []) (titledCart [] [remark] [remark, remark]) ∧
      (titledCart [] [remark] [remark, remark]).markers = [⟨"allure", "title", true⟩] ∧
      Commented true (titledCart [] [] []) (titledCart [remark] [] []) ∧
      (titledCart [remark] [] []).markers.Sublist [⟨"allure", "title", true⟩] := by
  have commented : Commented false (titledCart [] [] [])
      (titledCart [] [remark] [remark, remark]) := by
    refine .mk (.refl _) (.node (.mk (.refl _) (.node (.refl _ _) (.node ?_ .nil))) ?_)
    · refine .mk (.refl _) (.node (.refl _ _) (.node (.mk (.refl _) (.node ?_ (.refl _ _ _)))
        (.refl _ _ _)))
      exact .mk (.refl _) (.node (.refl _ _) (.comment isComment_remark (.refl _ _ _)))
    · exact .comment isComment_remark (.comment isComment_remark (.refl _ _ _))
  have bare : (titledCart [] [] []).markers = [⟨"allure", "title", true⟩] := by decide
  rw [← bare]
  exact ⟨commented, (markers_commented _ _).1 commented, commented_in_front,
    (markers_commented _ _).2 commented_in_front⟩

/-- A comment right behind an opening parenthesis takes the marker away. -/
theorem comment_in_front_hides_marker :
    Commented true (titledCart [] [] []) (titledCart [remark] [] []) ∧
      (titledCart [] [] []).markers = [⟨"allure", "title", true⟩] ∧
      (titledCart [remark] [] []).markers = [] :=
  ⟨commented_in_front, by decide, by decide⟩

end Node

end TagAudit
