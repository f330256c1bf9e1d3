/-
**Every site of a source is a definition of its own.**

The sites of an outlined source are classes that were collected and direct members of these
classes. Each of them stands for a node that defines a class or a function, and no node stands for
two of them: in the order of their visit the sites follow the definitions of the source from the top
down, some of these left out.

* `Node.preorder`, `Node.definitions`: the nodes of a source from the top down, and those of them
  that define something;
* `Node.sites_outline`: the sites follow the definitions;
* `Node.exists_findings`: so each diagnostic tells of a definition of its own;
* `checkModule_strictly_ordered`: sites at positions of their own are reported in strict order.
-/

import Mathlib.Data.List.Perm.Subperm
import TagAudit.Module.Outline
import TagAudit.Proofs.Findings

namespace TagAudit

namespace Node

mutual

/-- The node and all nodes below it, from the top down. -/
def preorder : Node → List Node
  | mk info children => mk info children :: preorderAmong children

/-- Some nodes and all nodes below them, from the top down. -/
def preorderAmong : List Node → List Node
  | [] => []
  | node :: rest => preorder node ++ preorderAmong rest

end

/-- The nodes that define a class or a function, the node itself among them, from the top down. -/
def definitions (node : Node) : List Node := node.preorder.filter (·.kind.isDefinition)

/-- The definitions at some nodes and below them. -/
def definitionsAmong (nodes : List Node) : List Node := nodes.flatMap definitions

/-- The site is what is seen of a definition. -/
def IsSite (site : Site) (node : Node) : Prop :=
  site.location = node.location ∧ site.name = node.definedName?

/-- In their order the sites stand for some of the nodes, no node for two of them. -/
abbrev Follow (sites : List Site) (nodes : List Node) : Prop :=
  List.SublistForall₂ IsSite sites nodes

/-! ### Definitions from the top down -/

theorem preorderAmong_eq (nodes : List Node) : preorderAmong nodes = nodes.flatMap preorder := by
  induction nodes with
  | nil => rfl
  | cons node rest step => rw [preorderAmong, step, List.flatMap_cons]

theorem preorder_eq (node : Node) : node.preorder = node :: node.children.flatMap preorder := by
  cases node with
  | mk info children =>
    rw [preorder, preorderAmong_eq]
    rfl

theorem filter_flatMap_preorder (nodes : List Node) :
    (nodes.flatMap preorder).filter (·.kind.isDefinition) = definitionsAmong nodes :=
  List.filter_flatMap

/-- A definition comes before the definitions below it. -/
theorem definitions_of_isDefinition {node : Node} (isDefinition : node.kind.isDefinition = true) :
    node.definitions = node :: definitionsAmong node.children := by
  rw [definitions, preorder_eq, List.filter_cons, if_pos isDefinition, filter_flatMap_preorder]

/-- The definitions below a node are among its definitions. -/
theorem definitionsAmong_children_sublist (node : Node) :
    (definitionsAmong node.children).Sublist node.definitions := by
  rw [definitions, preorder_eq, ← filter_flatMap_preorder]
  exact (List.sublist_cons_self _ _).filter _

/-- The definitions at a child are among those of its parent. -/
theorem definitions_sublist_of_mem {node child : Node} (isChild : child ∈ node.children) :
    child.definitions.Sublist node.definitions := by
  have among : child.definitions.Sublist (definitionsAmong node.children) :=
    List.sublist_flatten_of_mem (List.mem_map_of_mem isChild)
  exact among.trans (definitionsAmong_children_sublist node)

theorem mem_children_of_field? {node child : Node} {role : Role}
    (isField : node.field? role = some child) : child ∈ node.children :=
  List.mem_of_find?_eq_some isField

namespace Follow

variable {sites others : List Site} {nodes more : List Node}

theorem mono (follow : Follow sites nodes) (within : nodes.Sublist more) : Follow sites more := by
  obtain ⟨chosen, stand, inside⟩ := List.sublistForall₂_iff.mp follow
  exact List.sublistForall₂_iff.mpr ⟨chosen, stand, inside.trans within⟩

theorem append (follow : Follow sites nodes) (onward : Follow others more) :
    Follow (sites ++ others) (nodes ++ more) := by
  obtain ⟨chosen, stand, inside⟩ := List.sublistForall₂_iff.mp follow
  obtain ⟨later, standLater, insideLater⟩ := List.sublistForall₂_iff.mp onward
  exact List.sublistForall₂_iff.mpr
    ⟨chosen ++ later, List.rel_append stand standLater, inside.append insideLater⟩

/-- Sites that follow the definitions at each of some nodes follow all of their definitions. -/
theorem flatMap {sitesOf : Node → List Site} (each : ∀ node, Follow (sitesOf node) node.definitions)
    (nodes : List Node) : Follow (nodes.flatMap sitesOf) (definitionsAmong nodes) := by
  induction nodes with
  | nil => exact .nil
  | cons node rest step => exact (each node).append step

end Follow

/-! ### The members of a class -/

/-- A member as a site. -/
def memberSite (member : MemberDef) : Site :=
  ⟨.methodTags, member.name, member.location, member.markers⟩

/-- A member is a definition at the node that was read as a member. -/
theorem follow_member {node : Node} {member : MemberDef} (isMember : node.member? = some member) :
    Follow [memberSite member] node.definitions := by
  unfold member? at isMember
  split at isMember
  next isFunction =>
    obtain rfl := Option.some.inj isMember
    rw [definitions_of_isDefinition (by rw [isFunction]; rfl)]
    exact .cons ⟨rfl, rfl⟩ .nil
  next isClass =>
    obtain rfl := Option.some.inj isMember
    rw [definitions_of_isDefinition (by rw [isClass]; rfl)]
    exact .cons ⟨rfl, rfl⟩ .nil
  next =>
    obtain ⟨child, isField, rfl⟩ := Option.map_eq_some_iff.mp isMember
    obtain ⟨isField, isDefinition⟩ := Option.filter_eq_some_iff.mp isField
    have own : Follow [memberSite (child.toMember node.markers)] child.definitions := by
      rw [definitions_of_isDefinition isDefinition]
      exact .cons ⟨rfl, rfl⟩ .nil
    exact own.mono (definitions_sublist_of_mem (mem_children_of_field? isField))
  next => cases isMember

/-- The members of a body follow the definitions below it. -/
theorem follow_members (body : Node) :
    Follow (body.members.map memberSite) (definitionsAmong body.children) := by
  have each : ∀ node : Node, Follow
      (if node.info.isNamed then (node.member?.map memberSite).toList else []) node.definitions := by
    intro node
    split
    · cases isMember : node.member? with
      | none => exact .nil
      | some member => exact follow_member isMember
    · exact .nil
  have spread : body.members.map memberSite = body.children.flatMap fun node =>
      if node.info.isNamed then (node.member?.map memberSite).toList else [] := by
    unfold members namedChildren
    induction body.children with
    | nil => rfl
    | cons node rest step =>
      rw [List.flatMap_cons, ← step, List.filter_cons]
      split
      · cases isMember : node.member? <;> simp [isMember]
      · simp
  rw [spread]
  exact Follow.flatMap each body.children

/-! ### The classes of a source -/

/-- A class and its members follow the definitions at its node. -/
theorem follow_toClass {node : Node} (isClass : node.kind = .classDefinition)
    (markers : List Marker) : Follow (node.toClass markers).sites node.definitions := by
  rw [definitions_of_isDefinition (by rw [isClass]; rfl)]
  refine .cons ⟨rfl, rfl⟩ ?_
  show Follow (((node.field? .body).map members).getD [] |>.map memberSite) _
  cases isField : node.field? .body with
  | none => exact .nil
  | some body =>
    have isChild := mem_children_of_field? isField
    have inBody := (follow_members body).mono (definitionsAmong_children_sublist body)
    exact inBody.mono (List.sublist_flatten_of_mem (List.mem_map_of_mem isChild))

/-- What a node stands for follows its definitions. -/
theorem follow_class {node : Node} {found : ClassDef} (isClass : node.class? = some found) :
    Follow found.sites node.definitions := by
  unfold class? at isClass
  split at isClass
  next isDefinition =>
    obtain rfl := Option.some.inj isClass
    exact follow_toClass isDefinition []
  next =>
    obtain ⟨child, isField, rfl⟩ := Option.map_eq_some_iff.mp isClass
    obtain ⟨isField, isDefinition⟩ := Option.filter_eq_some_iff.mp isField
    have own := follow_toClass (by simpa using isDefinition) node.markers
    exact own.mono (definitions_sublist_of_mem (mem_children_of_field? isField))
  next => cases isClass

mutual

/-- The classes below a node follow the definitions below it. -/
theorem follow_collectClasses : ∀ node : Node,
    Follow (node.collectClasses.flatMap ClassDef.sites) (definitionsAmong node.children)
  | mk _ children => follow_collectAmong children

/-- The classes among some nodes follow the definitions at them. -/
theorem follow_collectAmong : ∀ nodes : List Node,
    Follow ((collectAmong nodes).flatMap ClassDef.sites) (definitionsAmong nodes)
  | [] => .nil
  | node :: rest => by
      have onward := follow_collectAmong rest
      have below := follow_collectClasses node
      rw [collectAmong]
      split
      next found isClass =>
        rw [List.flatMap_cons]
        exact (follow_class isClass).append onward
      next =>
        rw [List.flatMap_append]
        exact (below.mono (definitionsAmong_children_sublist node)).append onward

end

/-- **The sites of a source follow its definitions.** -/
theorem sites_outline (root : Node) : Follow root.outline.sites root.definitions :=
  (follow_collectClasses root).mono (definitionsAmong_children_sublist root)

/-! ### The report of a source -/

/-- **Each diagnostic tells of a definition of its own.** -/
theorem exists_findings (settings : Settings) (root : Node) :
    ∃ found : List (Node × Diagnostic),
      found.map Prod.snd = checkModule settings Check.registered root.outline ∧
      (found.map Prod.fst).Subperm root.definitions ∧
      ∀ pair ∈ found, pair.2.location = pair.1.location ∧
        some pair.2.name = pair.1.definedName? := by
  obtain ⟨nodes, stand, inside⟩ := List.sublistForall₂_iff.mp root.sites_outline
  have sameLength := stand.length_eq
  have isSites : (root.outline.sites.zip nodes).map Prod.fst = root.outline.sites :=
    List.map_fst_zip sameLength.le
  refine ⟨(findingsOf settings Prod.fst (root.outline.sites.zip nodes)).map fun found =>
    (found.1.2, found.2), ?_, ?_, ?_⟩
  · rw [List.map_map]
    exact map_snd_findingsOf settings Prod.fst _ isSites
  · have told := (map_fst_findingsOf settings Prod.fst (root.outline.sites.zip nodes)).map Prod.snd
    have kept : (((root.outline.sites.zip nodes).filter fun thing =>
        thing.1.isAtFault settings).map Prod.snd).Sublist
          ((root.outline.sites.zip nodes).map Prod.snd) := List.filter_sublist.map Prod.snd
    rw [List.map_snd_zip sameLength.ge] at kept
    rw [List.map_map] at told ⊢
    exact told.subperm.trans (kept.trans inside).subperm
  · intro pair member
    obtain ⟨⟨⟨site, node⟩, diagnostic⟩, isFound, rfl⟩ := List.mem_map.mp member
    obtain ⟨isThing, found⟩ := finding?_of_mem_findingsOf isFound
    obtain ⟨sameLocation, sameName⟩ := List.forall₂_zip stand isThing
    have tells := Site.tells_of_finding? found
    exact ⟨tells.location.trans sameLocation, tells.name.trans sameName⟩

end Node

/-- **Sites at positions of their own are reported in strict order.** -/
theorem checkModule_strictly_ordered (settings : Settings) {module : Module}
    (distinct : (module.sites.map Site.location).Nodup) :
    (checkModule settings Check.registered module).Pairwise fun first second =>
      first.location.key < second.location.key := by
  have places : (module.sites.filter (Site.isAtFault settings)).map Site.location =
      (reports settings Check.registered module.classes).map Diagnostic.location := by
    rw [reports_registered, ← List.forall₂_eq_eq_eq]
    exact List.rel_map (fun _ _ tells => tells.location.symm)
      (Site.forall₂_findings settings module.sites)
  have ownPlaces : ((checkModule settings Check.registered module).map
      Diagnostic.location).Nodup := by
    rw [((checkModule_perm settings Check.registered module).map _).nodup_iff, ← places]
    exact distinct.sublist (List.filter_sublist.map _)
  refine ((checkModule_sorted settings Check.registered module).and
    (List.pairwise_map.mp ownPlaces)).imp ?_
  rintro first second ⟨before, apart⟩
  exact lt_of_le_of_ne before fun same => apart (Location.key_injective same)

/-- The sites of a source whose definitions have positions of their own have such positions, too. -/
theorem Node.nodup_location_sites {root : Node}
    (distinct : (root.definitions.map Node.location).Nodup) :
    (root.outline.sites.map Site.location).Nodup := by
  obtain ⟨nodes, stand, inside⟩ := List.sublistForall₂_iff.mp root.sites_outline
  have places : root.outline.sites.map Site.location = nodes.map Node.location := by
    rw [← List.forall₂_eq_eq_eq]
    exact List.rel_map (fun _ _ isSite => isSite.1) stand
  rw [places]
  exact distinct.sublist (inside.map _)

end TagAudit
