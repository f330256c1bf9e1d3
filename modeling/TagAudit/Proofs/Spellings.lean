/-
**Spellings of a file.**

Without links a path leads where its components say: a name goes down, two dots go up, a lone dot
stays. The files of a run are told apart by their components, so two of them that lead to one place
are two spellings of it.

* `Path.placeFrom`: where the components of a path lead;
* `FileTree.locate_eq_placeFrom`: without links, a path that leads somewhere leads there;
* `Path.exists_names`: a path that does not go up is its names, perhaps with a dot in front;
* `FileTree.exists_path_of_standFor`: a file of a run is a path of the run with names behind it;
* `FileTree.collect_lists_file_once`: a file is listed again only by a path that goes up or that
  differs by a dot in front; by paths that are spelled alike it is listed once.
-/

import Mathlib.Data.Set.List
import TagAudit.Proofs.CollectedFiles

namespace TagAudit

/-- Where a component leads from a place, if there are no links. -/
def Component.goFrom (place : Place) : Component → Place
  | root => []
  | here => place
  | parent => place.dropLast
  | name text => place ++ [text]

namespace Path

/-- Where the components of a path lead from a place, if there are no links. -/
def placeFrom (base : Place) (path : String) : Place :=
  (components path).foldl Component.goFrom base

/-- The path has a lone dot in front. -/
def startsHere (path : String) : Bool := (components path).head? == some .here

/-- None of the paths goes up, and a lone dot is in front of all of them or of none. -/
structure SpelledAlike (paths : List String) : Prop where
  noParent : ∀ path ∈ paths, .parent ∉ components path
  dots : ∀ first ∈ paths, ∀ second ∈ paths, startsHere first = startsHere second

/-! ### Where components lead -/

theorem foldl_inner?_cons (place : Place) (step : String) (rest : List String) :
    ((step :: rest).filterMap inner?).foldl Component.goFrom place =
      (rest.filterMap inner?).foldl Component.goFrom
        (if step = "" ∨ step = "." then place
          else if step = ".." then place.dropLast else place ++ [step]) := by
  unfold inner?
  by_cases stays : step = "" ∨ step = "."
  · simp [stays]
  · by_cases up : step = ".."
    · simp [up, Component.goFrom]
    · simp [stays, up, Component.goFrom]

theorem steps_of_isAbsolute {path : String} (absolute : isAbsolute path = true) :
    ∃ rest, steps path = "" :: rest := by
  obtain ⟨behind, isPath⟩ := List.head?_eq_some_iff.mp (eq_of_beq absolute)
  unfold steps
  rw [isPath]
  exact ⟨_, rfl⟩

/-- The components of a path lead where its steps lead. -/
theorem placeFrom_eq (base : Place) (path : String) :
    placeFrom base path =
      ((steps path).filterMap inner?).foldl Component.goFrom (FileTree.startOf path base) := by
  unfold placeFrom FileTree.startOf
  rw [components_eq]
  by_cases absolute : isAbsolute path = true
  · obtain ⟨rest, split⟩ := steps_of_isAbsolute absolute
    rw [split, if_pos absolute, foldl_inner?_cons, if_pos (.inl rfl), ofSteps, if_pos absolute]
    rfl
  · obtain ⟨first, rest, split⟩ := List.exists_cons_of_ne_nil (steps_ne_nil path)
    rw [split, if_neg absolute, ofSteps, if_neg absolute]
    by_cases isHere : first = "."
    · simp [isHere, inner?, Component.goFrom]
    · rw [if_neg isHere, List.foldl_append]
      cases component : inner? first <;> simp [component]

theorem foldl_names (place : Place) (names : List String) :
    (names.map Component.name).foldl Component.goFrom place = place ++ names := by
  induction names generalizing place with
  | nil => simp
  | cons name rest step => simp [step, Component.goFrom]

/-! ### The components of a path that does not go up -/

theorem inner?_cases {step : String} {component : Component}
    (isInner : inner? step = some component) : component = .parent ∨ component = .name step := by
  unfold inner? at isInner
  split at isInner
  · cases isInner
  · split at isInner
    · exact .inl (Option.some.inj isInner).symm
    · exact .inr (Option.some.inj isInner).symm

theorem root_notMem_filterMap_inner? (steps : List String) : .root ∉ steps.filterMap inner? := by
  intro isRoot
  obtain ⟨step, -, same⟩ := List.mem_filterMap.mp isRoot
  rcases inner?_cases same with isParent | isName
  · cases isParent
  · cases isName

/-- Components that do not go up, the first one apart, are names. -/
theorem filterMap_inner?_of_noParent {steps : List String}
    (noParent : .parent ∉ steps.filterMap inner?) :
    ∃ names : List String, steps.filterMap inner? = names.map .name := by
  have areNames : ∀ component ∈ steps.filterMap inner?, component ∈ Set.range Component.name := by
    intro component isInner
    obtain ⟨step, -, same⟩ := List.mem_filterMap.mp isInner
    rcases inner?_cases same with rfl | rfl
    · exact absurd isInner noParent
    · exact ⟨step, rfl⟩
  have isMap : steps.filterMap inner? ∈ Set.range (List.map Component.name) := by
    rw [Set.range_list_map]
    exact areNames
  obtain ⟨names, same⟩ := isMap
  exact ⟨names, same.symm⟩

theorem components_of_relative {path : String} (relative : isAbsolute path = false) :
    ∃ rest : List String, components path = .here :: rest.filterMap inner? ∨
      components path = rest.filterMap inner? := by
  obtain ⟨first, rest, split⟩ := List.exists_cons_of_ne_nil (steps_ne_nil path)
  rw [components_eq, split, relative, ofSteps]
  by_cases isHere : first = "."
  · exact ⟨rest, .inl (by simp [isHere])⟩
  · refine ⟨first :: rest, .inr ?_⟩
    cases component : inner? first <;> simp [isHere, component]

/-- A path starts at the root if the root is among its components. -/
theorem root_mem_components_iff (path : String) :
    .root ∈ components path ↔ isAbsolute path = true := by
  constructor
  · intro isRoot
    by_contra relative
    obtain ⟨rest, isPath | isPath⟩ := components_of_relative (Bool.eq_false_iff.mpr relative)
    · rw [isPath, List.mem_cons, or_iff_right (by simp)] at isRoot
      exact root_notMem_filterMap_inner? rest isRoot
    · rw [isPath] at isRoot
      exact root_notMem_filterMap_inner? rest isRoot
  · intro absolute
    obtain ⟨rest, split⟩ := steps_of_isAbsolute absolute
    simp [components_eq, split, ofSteps, absolute]

/-- **A path that does not go up is its names**, perhaps with a dot in front. -/
theorem exists_names {path : String} (relative : isAbsolute path = false)
    (noParent : .parent ∉ components path) :
    ∃ names : List String,
      components path = (if startsHere path then [.here] else []) ++ names.map .name := by
  unfold startsHere
  obtain ⟨rest, isPath | isPath⟩ := components_of_relative relative
  · rw [isPath] at noParent ⊢
    obtain ⟨names, isNames⟩ := filterMap_inner?_of_noParent (List.not_mem_of_not_mem_cons noParent)
    exact ⟨names, by simp [isNames]⟩
  · rw [isPath] at noParent ⊢
    obtain ⟨names, isNames⟩ := filterMap_inner?_of_noParent noParent
    refine ⟨names, ?_⟩
    rw [isNames]
    cases names <;> simp

theorem placeFrom_of_names {path : String} {dotted : Bool} {names : List String}
    (isPath : components path = (if dotted then [.here] else []) ++ names.map .name)
    (base : Place) : placeFrom base path = base ++ names := by
  rw [placeFrom, isPath, List.foldl_append, ← foldl_names]
  cases dotted <;> rfl

/-- **Of paths that do not go up, those that lead to one place differ by a dot in front.** -/
theorem components_eq_of_placeFrom_eq {first second : String} {base : Place}
    (relative : isAbsolute first = false) (otherRelative : isAbsolute second = false)
    (noParent : .parent ∉ components first) (otherNoParent : .parent ∉ components second)
    (dots : startsHere first = startsHere second)
    (together : placeFrom base first = placeFrom base second) :
    components first = components second := by
  obtain ⟨names, isFirst⟩ := exists_names relative noParent
  obtain ⟨otherNames, isSecond⟩ := exists_names otherRelative otherNoParent
  rw [placeFrom_of_names isFirst, placeFrom_of_names isSecond, List.append_cancel_left_eq]
    at together
  rw [isFirst, isSecond, dots, together]

/-! ### Names behind a path -/

section Behind

variable {file path : String} {names : List String}
  (isFile : components file = components path ++ names.map .name)

include isFile

theorem isAbsolute_of_behind : isAbsolute file = isAbsolute path := by
  rw [Bool.eq_iff_iff, ← root_mem_components_iff, ← root_mem_components_iff, isFile]
  simp

theorem parent_mem_components_of_behind : .parent ∈ components file ↔ .parent ∈ components path := by
  rw [isFile]
  simp

theorem startsHere_of_behind : startsHere file = startsHere path := by
  unfold startsHere
  rw [isFile]
  cases components path with
  | nil => cases names <;> simp
  | cons first rest => rfl

end Behind

end Path

namespace FileTree

/-- No entry is a link. -/
def NoLinks (tree : FileTree) : Prop := ∀ pair ∈ tree.entries, ∀ target, pair.2 ≠ .link target

theorem NoLinks.entry?_ne {tree : FileTree} (noLinks : tree.NoLinks) (place : Place)
    (target : String) : tree.entry? place ≠ some (.link target) := by
  intro isLink
  cases place with
  | nil => cases isLink
  | cons name rest =>
    rw [entry?_of_ne_nil tree (List.cons_ne_nil _ _)] at isLink
    obtain ⟨pair, found, same⟩ := Option.map_eq_some_iff.mp isLink
    exact noLinks pair (List.mem_of_find?_eq_some found) target same

/-- Without links the steps of a path lead where their components lead. -/
theorem follow_eq_foldl {tree : FileTree} (noLinks : tree.NoLinks) {followLast : Bool} {links : Nat}
    {place target : Place} {steps : List String}
    (followed : tree.follow followLast links place steps = .ok (.entry target)) :
    target = (steps.filterMap Path.inner?).foldl Component.goFrom place := by
  fun_induction FileTree.follow tree followLast links place steps with
  | case1 links place =>
    cases followed
    rfl
  | case2 | case5 | case6 | case7 | case9 => cases followed
  | case3 links place step rest inDirectory stays induct =>
    rw [Path.foldl_inner?_cons, if_pos (by simpa using stays)]
    exact induct followed
  | case4 links place rest inDirectory goesOn induct =>
    rw [Path.foldl_inner?_cons]
    exact induct followed
  | case8 _ _ _ _ _ _ _ _ below target isLink | case10 _ _ _ _ _ _ _ below target isLink =>
    exact absurd isLink (noLinks.entry?_ne below target)
  | case11 links place step rest inDirectory goesOn notParent short below entry noLink found induct =>
    rw [Path.foldl_inner?_cons, if_neg (by simpa using goesOn), if_neg notParent]
    exact induct followed

/-- **Without links a path leads where its components lead.** -/
theorem locate_eq_placeFrom {tree : FileTree} (noLinks : tree.NoLinks) {path : String}
    {place : Place} (located : tree.locate path = .ok place) :
    place = Path.placeFrom tree.workingDirectory path := by
  rw [Path.placeFrom_eq]
  exact follow_eq_foldl noLinks (locate_eq_ok_iff.mp located).2

/-! ### The files of a run -/

/-- The files of a run are among those that its paths stand for. -/
theorem standFor_of_mem_collect {tree : FileTree} {paths files : List String}
    (collected : tree.collect paths = .ok files) {file : String} (listed : file ∈ files) :
    tree.StandFor paths file := by
  have collectable := collectable_of_collect collected
  obtain rfl := Except.ok.inj ((collect_of_collectable collectable).symm.trans collected)
  exact (mem_arrivals_iff collectable).mp (List.mem_of_find?_eq_some (mem_kept_iff.mp listed))

/-- **A file that paths stand for is one of them with names behind it.** -/
theorem exists_path_of_standFor {tree : FileTree} (proper : tree.Proper) {paths : List String}
    {file : String} (stands : tree.StandFor paths file) :
    ∃ path ∈ paths, ∃ names : List String,
      Path.components file = Path.components path ++ names.map .name := by
  rcases stands with ⟨isPath, -⟩ | ⟨path, isPath, isDirectory, found, walked, isFound⟩
  · exact ⟨file, isPath, [], by simp⟩
  · obtain ⟨place, -, -, rfl⟩ := eq_filesBelow_of_walk isDirectory walked
    obtain ⟨below, listed, rfl⟩ := List.mem_map.mp isFound
    have notEmpty := ne_empty_of_lookup ((tree.isDirectory_iff path).mp isDirectory)
    have isBelow := (proper.mem_filesBelow_iff.mp listed).1
    exact ⟨path, isPath, below,
      components_pathBelow notEmpty isBelow (proper.names_of_mem_filesBelow listed)⟩

/-- **A file is listed again only by another spelling.** The tree has no links, and the paths do not
start at the root. If two of the files lead to one place, one of them goes up, or one has a dot in
front that the other has not; so files that come from paths spelled alike lead to different
places. -/
theorem collect_lists_file_once {tree : FileTree} (proper : tree.Proper) (noLinks : tree.NoLinks)
    {paths files : List String} (relative : ∀ path ∈ paths, Path.isAbsolute path = false)
    (collected : tree.collect paths = .ok files) :
    (files.Pairwise fun first second => ∀ place,
      tree.locate first = .ok place → tree.locate second = .ok place →
        .parent ∈ Path.components first ∨ .parent ∈ Path.components second ∨
          Path.startsHere first ≠ Path.startsHere second) ∧
    (Path.SpelledAlike paths → files.Pairwise fun first second => ∀ place,
      tree.locate first = .ok place → tree.locate second ≠ .ok place) := by
  have comesFrom : ∀ file ∈ files, ∃ path ∈ paths, ∃ names : List String,
      Path.components file = Path.components path ++ names.map .name := fun file listed =>
    exists_path_of_standFor proper (standFor_of_mem_collect collected listed)
  have isRelative : ∀ file ∈ files, Path.isAbsolute file = false := by
    intro file listed
    obtain ⟨path, isPath, names, isFile⟩ := comesFrom file listed
    rw [Path.isAbsolute_of_behind isFile, relative path isPath]
  have respelled : files.Pairwise fun first second => ∀ place,
      tree.locate first = .ok place → tree.locate second = .ok place →
        .parent ∈ Path.components first ∨ .parent ∈ Path.components second ∨
          Path.startsHere first ≠ Path.startsHere second := by
    refine (collect_strictly_ordered collected).imp_of_mem ?_
    intro first second isFirst isSecond before place located otherLocated
    by_contra! spelledAlike
    obtain ⟨noParent, otherNoParent, dots⟩ := spelledAlike
    have together : Path.placeFrom tree.workingDirectory first =
        Path.placeFrom tree.workingDirectory second := by
      rw [← locate_eq_placeFrom noLinks located, ← locate_eq_placeFrom noLinks otherLocated]
    have sameComponents := Path.components_eq_of_placeFrom_eq (isRelative first isFirst)
      (isRelative second isSecond) noParent otherNoParent dots together
    exact before.ne (congrArg (List.map Component.key) sameComponents)
  refine ⟨respelled, fun alike => respelled.imp_of_mem ?_⟩
  intro first second isFirst isSecond spelled place located otherLocated
  obtain ⟨path, isPath, names, fromPath⟩ := comesFrom first isFirst
  obtain ⟨other, isOther, otherNames, fromOther⟩ := comesFrom second isSecond
  rcases spelled place located otherLocated with goesUp | goesUp | dots
  · exact alike.noParent path isPath ((Path.parent_mem_components_of_behind fromPath).mp goesUp)
  · exact alike.noParent other isOther ((Path.parent_mem_components_of_behind fromOther).mp goesUp)
  · rw [Path.startsHere_of_behind fromPath, Path.startsHere_of_behind fromOther] at dots
    exact dots (alike.dots path isPath other isOther)

theorem shopTree_proper : shopTree.Proper := ⟨by decide, by decide⟩

theorem shopTree_noLinks : shopTree.NoLinks := by
  intro pair isEntry target
  simp only [shopTree, List.mem_cons, List.not_mem_nil, or_false] at isEntry
  rcases isEntry with rfl | rfl | rfl <;> simp

theorem locate_bare_cart : shopTree.locate "cart.py" = .ok ["work", "cart.py"] :=
  locate_name (by decide) rfl (by decide) rfl rfl (by simp)

/-- A source is given itself, with a dot in front, and found in the working directory. -/
theorem collect_dotted_cart :
    shopTree.collect ["./cart.py", "."] = .ok ["./cart.py", "./shop.py"] := by
  have inOrder : ["./cart.py", "./cart.py", "./shop.py"].Pairwise
      fun first second => Path.le first second = true := by decide +kernel
  rw [collect_of_collectable collectable_dotted_cart, arrivals_dotted_cart,
    List.mergeSort_of_pairwise inOrder]
  decide +kernel

theorem collect_bare_cart :
    shopTree.collect [".", "cart.py"] = .ok ["./cart.py", "./shop.py", "cart.py"] := by
  have isFile : shopTree.isFile "cart.py" = true := isFile_of_locate locate_bare_cart rfl
  have itself : shopTree.broughtBy "cart.py" = ["cart.py"] := if_pos isFile
  have arrive : shopTree.arrivals [".", "cart.py"] = ["./cart.py", "./shop.py", "cart.py"] := by
    simp [arrivals, broughtBy_shop, itself]
  have inOrder : ["./cart.py", "./shop.py", "cart.py"].Pairwise
      fun first second => Path.le first second = true := by decide +kernel
  have collectable : ∀ path ∈ [".", "cart.py"], shopTree.IsCollectable path := by
    simp only [List.forall_mem_cons]
    exact ⟨isCollectable_shop, .inl isFile, List.forall_mem_nil _⟩
  rw [collect_of_collectable collectable, arrive, List.mergeSort_of_pairwise inOrder]
  decide +kernel

/-- The source that is given itself is listed once, at a place of its own. -/
theorem collect_lists_file_once_dotted :
    shopTree.Proper ∧ shopTree.NoLinks ∧
      (∀ path ∈ ["./cart.py", "."], Path.isAbsolute path = false) ∧
      shopTree.collect ["./cart.py", "."] = .ok ["./cart.py", "./shop.py"] ∧
      Path.SpelledAlike ["./cart.py", "."] ∧
      shopTree.locate "./cart.py" = .ok ["work", "cart.py"] ∧
      shopTree.locate "./shop.py" ≠ .ok ["work", "cart.py"] := by
  have relative : ∀ path ∈ ["./cart.py", "."], Path.isAbsolute path = false := by decide
  have alike : Path.SpelledAlike ["./cart.py", "."] := ⟨by decide, by decide⟩
  have listed := (collect_lists_file_once shopTree_proper shopTree_noLinks relative
    collect_dotted_cart).2 alike
  exact ⟨shopTree_proper, shopTree_noLinks, relative, collect_dotted_cart, alike,
    locate_cart_in_shop, List.rel_of_pairwise_cons listed (List.mem_singleton_self _) _
      locate_cart_in_shop⟩

/-- The same source given without the dot is listed twice. -/
theorem dot_in_front_lists_file_twice :
    shopTree.Proper ∧ shopTree.NoLinks ∧ (∀ path ∈ [".", "cart.py"], Path.isAbsolute path = false) ∧
      shopTree.collect [".", "cart.py"] = .ok ["./cart.py", "./shop.py", "cart.py"] ∧
      shopTree.locate "./cart.py" = .ok ["work", "cart.py"] ∧
      shopTree.locate "cart.py" = .ok ["work", "cart.py"] :=
  ⟨shopTree_proper, shopTree_noLinks, by decide, collect_bare_cart, locate_cart_in_shop,
    locate_bare_cart⟩

end FileTree

end TagAudit
