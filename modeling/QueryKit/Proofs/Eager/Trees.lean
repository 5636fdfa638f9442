import Mathlib
import QueryKit.Eager.Loader
import QueryKit.Proofs.Driver.Action
import QueryKit.Proofs.Eager.Paths

set_option autoImplicit false

/-! # What trees of paths hold

A path that is added to a tree leads to a node, and its beginnings lead to the nodes above it; nothing else
in the tree changes (`PathNode.descend_add_append`, `PathNode.descend_add_of_not_isPrefix`). So the tree of a
loader can be read off the paths that were added (`EagerLoader.paths_merge_into_tree`): its nodes are the
beginnings of the paths, siblings stand in the order in which their names first came up, and a node is
constrained as the path to it was constrained last. A loader that was given a malformed path loads
nothing. -/

namespace QueryKit

namespace PathNode

/-! ## Ways through a tree -/

/-- The node above all nodes. -/
def root (nodes : List PathNode) : PathNode :=
  { name := "", children := nodes }

/-- Names lead from a node to a node below it, or to itself if there are none. -/
def Leads : List String → PathNode → PathNode → Prop
  | [], node, target => node = target
  | name :: rest, node, target =>
    ∃ child ∈ node.children, child.name = name ∧ Leads rest child target

/-- The node that names lead to if the first child of a name is taken every time. -/
def descend : List String → PathNode → Option PathNode
  | [], node => some node
  | name :: rest, node =>
    (node.children.find? fun child => child.name = name).bind (descend rest)

/-- Names lead somewhere if they lead to a node. -/
theorem reaches_iff {names : List String} {node : PathNode} :
    Reaches node.children names ↔ ∃ target, Leads names node target := by
  induction names generalizing node with
  | nil => simp [Reaches, Leads]
  | cons name rest ih =>
      simp only [Reaches, Leads, ih]
      constructor
      · rintro ⟨child, hchild, hname, target, hrest⟩
        exact ⟨target, child, hchild, hname, hrest⟩
      · rintro ⟨target, child, hchild, hname, hrest⟩
        exact ⟨child, hchild, hname, target, hrest⟩

theorem distinct_of_mem {nodes : List PathNode} (h : AllDistinct nodes) {node : PathNode}
    (hnode : node ∈ nodes) : node.Distinct := by
  induction nodes with
  | nil => cases hnode
  | cons first rest ih =>
      obtain ⟨-, hfirst, hrest⟩ := h
      rcases List.mem_cons.1 hnode with rfl | hnode
      · exact hfirst
      · exact ih hrest hnode

/-- Among siblings with different names, a name has one node. -/
theorem find?_of_mem {nodes : List PathNode} (h : AllDistinct nodes) {node : PathNode}
    (hnode : node ∈ nodes) : (nodes.find? fun child => child.name = node.name) = some node := by
  induction nodes with
  | nil => cases hnode
  | cons first rest ih =>
      obtain ⟨hnot, -, hrest⟩ := h
      rcases List.mem_cons.1 hnode with rfl | hnode
      · exact List.find?_cons_of_pos (decide_eq_true rfl)
      · have hne : first.name ≠ node.name := by
          intro heq
          exact hnot (heq ▸ List.mem_map_of_mem hnode)
        rw [List.find?_cons_of_neg (by simpa using hne), ih hrest hnode]

theorem leads_iff {names : List String} {node target : PathNode} (h : node.Distinct) :
    Leads names node target ↔ descend names node = some target := by
  induction names generalizing node with
  | nil => exact Option.some_inj.symm
  | cons name rest ih =>
      rw [distinct_iff] at h
      rw [Leads, descend, Option.bind_eq_some_iff]
      constructor
      · rintro ⟨child, hchild, rfl, hrest⟩
        exact ⟨child, find?_of_mem h hchild, (ih (distinct_of_mem h hchild)).1 hrest⟩
      · rintro ⟨child, hfind, hrest⟩
        have hchild := List.mem_of_find?_eq_some hfind
        have hname := List.find?_some hfind
        exact ⟨child, hchild, by simpa using hname, (ih (distinct_of_mem h hchild)).2 hrest⟩

/-! ## Adding a path below a node -/

/-- Adds a path below a node. The path without names is the node itself. -/
def add (constraint : Option Constraint) : List String → PathNode → PathNode
  | [], node => constrain constraint node
  | name :: rest, node => { node with children := insert constraint (name :: rest) node.children }

/-- A node for the last of some names that has nothing below. -/
def fresh (names : List String) : PathNode :=
  { name := names.getLastD "" }

section

variable (constraint : Option Constraint)

theorem insert_cons (name : String) (rest : List String) (nodes : List PathNode) :
    insert constraint (name :: rest) nodes = change name (add constraint rest) nodes := by
  cases rest <;> rfl

theorem name_add (path : List String) (node : PathNode) :
    (add constraint path node).name = node.name := by
  cases path with
  | nil => exact name_constrain constraint node
  | cons name rest => rfl

theorem constraint_constrain (node : PathNode) :
    (constrain constraint node).constraint = constraint.or node.constraint := by
  cases constraint <;> rfl

theorem names_change {name : String} {f : PathNode → PathNode}
    (hf : ∀ node, (f node).name = node.name) (nodes : List PathNode) :
    names (change name f nodes)
      = if name ∈ names nodes then names nodes else names nodes ++ [name] := by
  induction nodes with
  | nil => simp [change, names, hf]
  | cons first rest ih =>
      rw [change]
      by_cases hname : first.name = name
      · simp [names, hf, hname]
      · rw [if_neg hname]
        simp only [names, List.map_cons, List.mem_cons] at ih ⊢
        rw [ih]
        have hne : ¬ name = first.name := fun heq => hname heq.symm
        by_cases hmem : name ∈ rest.map (·.name)
        · simp [hmem]
        · simp [hmem, hne]

theorem find?_change {name : String} {f : PathNode → PathNode}
    (hf : ∀ node, (f node).name = node.name) (other : String) (nodes : List PathNode) :
    ((change name f nodes).find? fun child => child.name = other)
      = if other = name
        then some (f ((nodes.find? fun child => child.name = name).getD { name }))
        else nodes.find? fun child => child.name = other := by
  induction nodes with
  | nil =>
      by_cases hother : other = name
      · simp [change, hf, hother]
      · have hne : ¬ name = other := fun heq => hother heq.symm
        simp [change, hf, hother, hne]
  | cons first rest ih =>
      rw [change]
      by_cases hname : first.name = name
      · by_cases hother : other = name
        · simp [hf, hname, hother]
        · have hne : ¬ name = other := fun heq => hother heq.symm
          simp [hf, hname, hother, hne]
      · rw [if_neg hname, List.find?_cons, ih, List.find?_cons, List.find?_cons]
        by_cases hother : other = name
        · simp [hother, hname]
        · by_cases hfirst : first.name = other
          · simp [hfirst, hother]
          · simp [hfirst, hother]

/-- What the beginning of a path leads to has the rest of the path added, also if it has been missing. -/
theorem descend_add_append (names tail : List String) (node : PathNode) :
    descend names (add constraint (names ++ tail) node)
      = some (add constraint tail ((descend names node).getD (fresh names))) := by
  induction names generalizing node with
  | nil => rfl
  | cons name rest ih =>
      rw [List.cons_append, descend, descend, add, insert_cons,
        find?_change (name_add constraint (rest ++ tail)), if_pos rfl, Option.bind_some, ih]
      -- below a name that was missing all further names were missing too
      cases node.children.find? fun child => child.name = name with
      | some child => cases rest <;> rfl
      | none => cases rest <;> rfl

/-- What names lead to that are no beginning of a path does not change when it is added. -/
theorem descend_add_of_not_isPrefix {names path : List String} (h : ¬ names <+: path)
    (node : PathNode) : descend names (add constraint path node) = descend names node := by
  induction names generalizing path node with
  | nil => exact absurd List.nil_prefix h
  | cons name rest ih =>
      cases path with
      | nil => rw [descend, descend, add, children_constrain]
      | cons first others =>
          rw [descend, descend, add, insert_cons, find?_change (name_add constraint others)]
          by_cases hname : name = first
          · subst hname
            have hothers : ¬ rest <+: others := fun hprefix =>
              h (List.cons_prefix_cons.2 ⟨rfl, hprefix⟩)
            rw [if_pos rfl, Option.bind_some, ih hothers]
            cases node.children.find? fun child => child.name = name with
            | some child => rfl
            | none =>
                -- the child that is added has nothing of its own below it
                cases rest with
                | nil => exact absurd List.nil_prefix hothers
                | cons _ _ => rfl
          · rw [if_neg hname]

end

/-! ## What names lead to -/

/-- The names right below what names lead to. -/
def namesBelow (start : List String) (node : PathNode) : List String :=
  (descend start node).elim [] fun target => names target.children

/-- The constraint of what names lead to. -/
def constraintAt (start : List String) (node : PathNode) : Option Constraint :=
  (descend start node).bind (·.constraint)

/-- The name that comes next in a path that begins with these names. -/
def next? (start path : List String) : Option String :=
  if start.isPrefixOf path then path[start.length]? else none

theorem next?_append (start tail : List String) : next? start (start ++ tail) = tail.head? := by
  rw [next?, if_pos (List.isPrefixOf_iff_prefix.2 (List.prefix_append start tail)),
    List.getElem?_append_right (Nat.le_refl _), Nat.sub_self, List.head?_eq_getElem?]

theorem next?_of_not_isPrefix {start path : List String} (h : ¬ start <+: path) :
    next? start path = none :=
  if_neg (mt List.isPrefixOf_iff_prefix.1 h)

section

variable (constraint : Option Constraint) (start path : List String) (node : PathNode)

theorem isSome_descend_add : (descend start (add constraint path node)).isSome = true
    ↔ (descend start node).isSome = true ∨ start <+: path := by
  by_cases h : start <+: path
  · obtain ⟨tail, rfl⟩ := h
    simp [descend_add_append]
  · simp [descend_add_of_not_isPrefix constraint h, h]

/-- A name that a path brings up anew comes last among its siblings. -/
theorem namesBelow_add : namesBelow start (add constraint path node)
    = namesBelow start node
      ++ (next? start path).toList.filter (· ∉ namesBelow start node) := by
  by_cases h : start <+: path
  · obtain ⟨tail, rfl⟩ := h
    have hbelow : names ((descend start node).getD (fresh start)).children
        = namesBelow start node := by
      unfold namesBelow
      cases descend start node <;> rfl
    rw [next?_append, namesBelow, descend_add_append, Option.elim_some]
    cases tail with
    | nil => simp [add, children_constrain, hbelow]
    | cons name rest =>
        rw [add, insert_cons, names_change (name_add constraint rest), hbelow]
        by_cases hmem : name ∈ namesBelow start node
        · simp [hmem]
        · simp [hmem]
  · rw [next?_of_not_isPrefix h, namesBelow, descend_add_of_not_isPrefix constraint h, ← namesBelow]
    exact (List.append_nil _).symm

/-- Only a path to a node constrains it. -/
theorem constraintAt_add : constraintAt start (add constraint path node)
    = (if path = start then constraint else none).or (constraintAt start node) := by
  by_cases h : start <+: path
  · obtain ⟨tail, rfl⟩ := h
    have hat : ((descend start node).getD (fresh start)).constraint
        = constraintAt start node := by
      unfold constraintAt
      cases descend start node <;> rfl
    rw [constraintAt, descend_add_append, Option.bind_some]
    cases tail with
    | nil => simp [add, constraint_constrain, hat]
    | cons name rest => simp [add, hat]
  · have hne : path ≠ start := fun heq => h (heq ▸ List.prefix_rfl)
    rw [if_neg hne, constraintAt, descend_add_of_not_isPrefix constraint h, ← constraintAt,
      Option.none_or]

end

/-! ## Adding paths one after another -/

/-- The tree of paths, each with what constrains it. -/
def tree (paths : List (List String × Option Constraint)) : PathNode :=
  paths.foldl (fun node (path, constraint) => add constraint path node) (root [])

variable (paths : List (List String × Option Constraint)) (start : List String)

theorem tree_concat (path : List String × Option Constraint) :
    tree (paths ++ [path]) = add path.2 path.1 (tree paths) :=
  List.foldl_concat ..

/-- Beginnings of paths lead to a node, and nothing else does. -/
theorem isSome_descend_tree : (descend start (tree paths)).isSome = true
    ↔ start = [] ∨ ∃ path ∈ paths, start <+: path.1 := by
  induction paths using List.reverseRecOn with
  | nil => cases start <;> simp [tree, root, descend]
  | append_singleton paths path ih =>
      rw [tree_concat, isSome_descend_add, ih]
      simp only [List.mem_append, List.mem_singleton, or_and_right, exists_or, exists_eq_left, or_assoc]

theorem eraseDups_concat (xs : List String) (x : String) :
    (xs ++ [x]).eraseDups = xs.eraseDups ++ [x].filter (· ∉ xs.eraseDups) := by
  rw [List.eraseDups_append, List.removeAll]
  by_cases hmem : x ∈ xs
  · simp [hmem]
  · simp [hmem, List.eraseDups_cons]

/-- Siblings stand in the order in which paths first bring up their names. -/
theorem namesBelow_tree :
    namesBelow start (tree paths) = (paths.filterMap fun path => next? start path.1).eraseDups := by
  induction paths using List.reverseRecOn with
  | nil => cases start <;> rfl
  | append_singleton paths path ih =>
      rw [tree_concat, namesBelow_add, ih, List.filterMap_append]
      cases hnext : next? start path.1 with
      | none => simp [hnext]
      | some name => simp [hnext, eraseDups_concat]

/-- A node has the constraint that was last given for exactly the path to it. -/
theorem constraintAt_tree : constraintAt start (tree paths)
    = (paths.filterMap fun path => if path.1 = start then path.2 else none).getLast? := by
  induction paths using List.reverseRecOn with
  | nil => cases start <;> rfl
  | append_singleton paths path ih =>
      rw [tree_concat, constraintAt_add, ih, List.filterMap_append]
      cases hgiven : (if path.1 = start then path.2 else none) with
      | none => simp [hgiven]
      | some f => simp [hgiven]

end PathNode

/-! ## Loaders -/

namespace EagerLoader

/-- Some name of the path is blank. -/
def isMalformed (path : String) : Bool :=
  (segments path).any String.isEmpty

/-- The names of the paths that are not malformed, each with what constrains it. -/
def added (paths : List (String × Option Constraint)) : List (List String × Option Constraint) :=
  (paths.filter fun path => !isMalformed path.1).map fun path => (segments path.1, path.2)

/-- The first path that is malformed. -/
def malformed? (paths : List (String × Option Constraint)) : Option String :=
  (paths.find? fun path => isMalformed path.1).map (·.1)

theorem segments_ne_nil (path : String) : segments path ≠ [] := by
  rw [segments, ne_eq, List.map_eq_nil_iff]
  exact List.splitOn_ne_nil _ _

variable (loader : EagerLoader) (paths : List (String × Option Constraint))

theorem root_addPath (path : String) (constraint : Option Constraint) :
    PathNode.root (loader.addPath path constraint).nodes
      = if isMalformed path then PathNode.root loader.nodes
        else PathNode.add constraint (segments path) (PathNode.root loader.nodes) := by
  rw [addPath, isMalformed]
  split
  · rfl
  · obtain ⟨name, rest, hsegments⟩ := List.exists_cons_of_ne_nil (segments_ne_nil path)
    rw [hsegments]
    rfl

/-- The tree of a loader is that of the paths that are not malformed. -/
theorem root_addPaths : PathNode.root (loader.addPaths paths).nodes
    = (added paths).foldl (fun node path => PathNode.add path.2 path.1 node)
        (PathNode.root loader.nodes) := by
  induction paths generalizing loader with
  | nil => rfl
  | cons first rest ih =>
      rw [addPaths_cons, ih, root_addPath]
      cases hfirst : isMalformed first.1 <;> simp [added, hfirst]

theorem root_ofPaths (fallback : LateralFallback) :
    PathNode.root (ofPaths fallback paths).nodes = PathNode.tree (added paths) :=
  root_addPaths { fallback } paths

/-- The first malformed path is remembered. -/
theorem malformed_addPaths :
    (loader.addPaths paths).malformed = loader.malformed.or (malformed? paths) := by
  induction paths generalizing loader with
  | nil => exact Option.or_none.symm
  | cons first rest ih =>
      rw [addPaths_cons, ih, addPath, malformed?, malformed?, List.find?_cons, ← isMalformed]
      cases isMalformed first.1 <;> cases loader.malformed <;> simp

variable {σ : Type} {loader} {path : String}

theorem load_of_malformed (h : loader.malformed = some path) (driver : Driver σ)
    (registry : ModelRegistry) :
    loader.load driver registry = throw (.validation (.relationPath path)) := by
  rw [load, h]

/-- A read for a loader with a malformed path sends no more than the read itself. -/
theorem get_of_malformed (h : loader.malformed = some path) (driver : Driver σ)
    (registry : ModelRegistry) (model : String) (query : Builder) (s : σ) :
    ∃ e, (loader.get driver registry model query).runFrom s
      = (.error e, ((query.get driver).runFrom s).2) := by
  rw [get, Action.runFrom_bind]
  rcases (query.get driver).runFrom s with ⟨e | rows, s'⟩
  · exact ⟨e, rfl⟩
  · dsimp only
    rw [Action.runFrom_bind, Action.runFrom_ofExcept]
    cases registry.hydrate model rows with
    | error e => exact ⟨e, rfl⟩
    | ok records =>
        refine ⟨.validation (.relationPath path), ?_⟩
        dsimp only
        rw [loaded, load_of_malformed h]
        rfl

/-- **Paths merge into the tree of their beginnings.** Siblings have different names at every level, and
    names lead to a node exactly if a path that was added begins with them. What stands below a node is in
    the order in which paths first bring it up, and a node is constrained as the path to it was constrained
    last. A malformed path makes loading fail before anything is sent. -/
theorem paths_merge_into_tree (fallback : LateralFallback)
    (paths : List (String × Option Constraint)) :
    let loader := ofPaths fallback paths
    PathNode.AllDistinct loader.nodes
      ∧ (∀ names, PathNode.Reaches loader.nodes names
          ↔ names = [] ∨ ∃ path ∈ added paths, names <+: path.1)
      ∧ (∀ names node, PathNode.Leads names (.root loader.nodes) node →
          PathNode.names node.children
              = ((added paths).filterMap fun path => PathNode.next? names path.1).eraseDups
            ∧ node.constraint
              = ((added paths).filterMap fun path =>
                  if path.1 = names then path.2 else none).getLast?)
      ∧ ∀ path, malformed? paths = some path →
          ∀ (σ : Type) (driver : Driver σ) (registry : ModelRegistry),
            loader.load driver registry = throw (.validation (.relationPath path))
              ∧ ∀ model query s, ∃ e, (loader.get driver registry model query).runFrom s
                  = (.error e, ((query.get driver).runFrom s).2) := by
  intro loader
  have hdistinct : PathNode.AllDistinct loader.nodes := distinct_ofPaths
  have htree : PathNode.root loader.nodes = PathNode.tree (added paths) := root_ofPaths paths fallback
  have hroot : (PathNode.tree (added paths)).Distinct := htree ▸ hdistinct
  refine ⟨hdistinct, fun names => ?_, fun names node hnode => ?_, fun path hpath => ?_⟩
  · have hreaches : PathNode.Reaches loader.nodes names
        ↔ ∃ node, PathNode.Leads names (.root loader.nodes) node :=
      @PathNode.reaches_iff names (.root loader.nodes)
    rw [hreaches, htree, ← PathNode.isSome_descend_tree, Option.isSome_iff_exists]
    exact exists_congr fun node => PathNode.leads_iff hroot
  · rw [htree, PathNode.leads_iff hroot] at hnode
    constructor
    · rw [← PathNode.namesBelow_tree, PathNode.namesBelow, hnode, Option.elim_some]
    · rw [← PathNode.constraintAt_tree, PathNode.constraintAt, hnode, Option.bind_some]
  · have hmalformed : loader.malformed = some path := by
      rw [← hpath]
      exact malformed_addPaths { fallback } paths
    exact fun σ driver registry => ⟨load_of_malformed hmalformed driver registry,
      get_of_malformed hmalformed driver registry⟩

example :
    (ofPaths .error [("posts.comments", none), ("profile", none), (" posts ", none)]).nodes.map
        (fun node => (node.name, PathNode.names node.children))
      = [("posts", ["comments"]), ("profile", [])] := by
  decide +kernel

end EagerLoader

end QueryKit
