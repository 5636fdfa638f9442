import QueryKit.Eager.Path

set_option autoImplicit false

/-! # Trees of paths

The paths that are added to a loader form a tree. Every path that was added leads to a node of it, and
none is lost by adding another (`EagerLoader.reaches_segments`). Siblings have different names
(`EagerLoader.distinct_ofPaths`), so every path leads to a single node. -/

namespace QueryKit

namespace PathNode

/-! ## Nodes of a level -/

/-- The names of nodes. -/
def names (nodes : List PathNode) : List String :=
  nodes.map (·.name)

/-- Some names lead from these nodes to a node below them. -/
def Reaches : List PathNode → List String → Prop
  | _, [] => True
  | nodes, name :: rest => ∃ node ∈ nodes, node.name = name ∧ Reaches node.children rest

mutual

/-- All nodes below a node have names that are different from those of their siblings. -/
def Distinct : PathNode → Prop
  | ⟨_, _, children⟩ => AllDistinct children

/-- Nodes, and all nodes below them, have names that are different from those of their siblings. -/
def AllDistinct : List PathNode → Prop
  | [] => True
  | node :: rest => node.name ∉ names rest ∧ node.Distinct ∧ AllDistinct rest

end

mutual

/-- The constraints of a node and of all nodes below it have a property. -/
def Narrowed (P : Constraint → Prop) : PathNode → Prop
  | ⟨_, constraint, children⟩ => (∀ f ∈ constraint, P f) ∧ AllNarrowed P children

/-- The constraints of nodes and of all nodes below them have a property. -/
def AllNarrowed (P : Constraint → Prop) : List PathNode → Prop
  | [] => True
  | node :: rest => node.Narrowed P ∧ AllNarrowed P rest

end

theorem Reaches.of_append {nodes : List PathNode} {before behind : List String}
    (h : Reaches nodes (before ++ behind)) : Reaches nodes before := by
  induction before generalizing nodes with
  | nil => trivial
  | cons name rest ih =>
      obtain ⟨node, hnode, hname, hrest⟩ := h
      exact ⟨node, hnode, hname, ih hrest⟩

/-! ## Changing a node -/

section

variable (name : String) (f : PathNode → PathNode) {nodes : List PathNode}

theorem exists_mem_change (nodes : List PathNode) :
    ∃ node, f node ∈ change name f nodes ∧ node.name = name := by
  induction nodes with
  | nil => exact ⟨{ name }, List.mem_singleton.2 rfl, rfl⟩
  | cons first rest ih =>
      rw [change]
      split
      · next hname => exact ⟨first, List.mem_cons_self .., hname⟩
      · obtain ⟨node, hnode, hname⟩ := ih
        exact ⟨node, List.mem_cons_of_mem _ hnode, hname⟩

/-- A node stays, or it is the one that is changed. -/
theorem mem_change_or {node : PathNode} (h : node ∈ nodes) :
    node ∈ change name f nodes ∨ (f node ∈ change name f nodes ∧ node.name = name) := by
  induction nodes with
  | nil => cases h
  | cons first rest ih =>
      rw [change]
      split
      · next hname =>
          rcases List.mem_cons.1 h with rfl | h
          · exact .inr ⟨List.mem_cons_self .., hname⟩
          · exact .inl (List.mem_cons_of_mem _ h)
      · rcases List.mem_cons.1 h with rfl | h
        · exact .inl (List.mem_cons_self ..)
        · exact (ih h).imp (List.mem_cons_of_mem _) (.imp_left (List.mem_cons_of_mem _))

variable {name f}

theorem mem_names_change (hf : ∀ node, (f node).name = node.name) {other : String} :
    other ∈ names (change name f nodes) ↔ other = name ∨ other ∈ names nodes := by
  induction nodes with
  | nil => simp [change, names, hf]
  | cons first rest ih =>
      rw [change]
      split
      · next hname => simp [names, hf, hname]
      · simp only [names, List.map_cons, List.mem_cons] at ih ⊢
        rw [ih, or_left_comm]

theorem allDistinct_change (hf : ∀ node, (f node).name = node.name)
    (hdistinct : ∀ node, node.Distinct → (f node).Distinct) (h : AllDistinct nodes) :
    AllDistinct (change name f nodes) := by
  induction nodes with
  | nil => exact ⟨List.not_mem_nil, hdistinct _ trivial, trivial⟩
  | cons first rest ih =>
      obtain ⟨hnot, hfirst, hrest⟩ := h
      rw [change]
      split
      · exact ⟨by rwa [hf], hdistinct _ hfirst, hrest⟩
      · next hname =>
          refine ⟨fun hmem => ?_, hfirst, ih hrest⟩
          rcases (mem_names_change hf).1 hmem with heq | hmem
          · exact hname heq
          · exact hnot hmem

theorem allNarrowed_change {P : Constraint → Prop}
    (hf : ∀ node : PathNode, node.Narrowed P → (f node).Narrowed P) (h : AllNarrowed P nodes) :
    AllNarrowed P (change name f nodes) := by
  induction nodes with
  | nil => exact ⟨hf _ ⟨nofun, trivial⟩, trivial⟩
  | cons first rest ih =>
      obtain ⟨hfirst, hrest⟩ := h
      rw [change]
      split
      · exact ⟨hf _ hfirst, hrest⟩
      · exact ⟨hfirst, ih hrest⟩

end

/-! ## Adding a path -/

theorem name_constrain (constraint : Option Constraint) (node : PathNode) :
    (constrain constraint node).name = node.name := by
  rw [constrain]
  split <;> rfl

theorem children_constrain (constraint : Option Constraint) (node : PathNode) :
    (constrain constraint node).children = node.children := by
  rw [constrain]
  split <;> rfl

theorem distinct_iff (node : PathNode) : node.Distinct ↔ AllDistinct node.children := by
  cases node
  rw [Distinct]

theorem narrowed_iff {P : Constraint → Prop} (node : PathNode) :
    node.Narrowed P ↔ (∀ f ∈ node.constraint, P f) ∧ AllNarrowed P node.children := by
  cases node
  rw [Narrowed]

variable (constraint : Option Constraint)

/-- A path that is added leads to a node. -/
theorem reaches_insert (path : List String) (nodes : List PathNode) :
    Reaches (insert constraint path nodes) path := by
  induction path generalizing nodes with
  | nil => trivial
  | cons name rest ih =>
      cases rest with
      | nil =>
          obtain ⟨node, hnode, hname⟩ := exists_mem_change name (constrain constraint) nodes
          exact ⟨_, hnode, (name_constrain constraint node).trans hname, trivial⟩
      | cons second rest =>
          obtain ⟨node, hnode, hname⟩ := exists_mem_change name (fun node => { node with
            children := insert constraint (second :: rest) node.children }) nodes
          exact ⟨_, hnode, hname, ih _⟩

/-- A path that leads to a node still does so when another one is added. -/
theorem Reaches.insert {other : List String} (path : List String) {nodes : List PathNode}
    (h : Reaches nodes other) : Reaches (PathNode.insert constraint path nodes) other := by
  induction path generalizing nodes other with
  | nil => exact h
  | cons name rest ih =>
      cases other with
      | nil => trivial
      | cons first others =>
          obtain ⟨node, hnode, hname, hothers⟩ := h
          cases rest with
          | nil =>
              rcases mem_change_or name (constrain constraint) hnode with
                hmem | ⟨hmem, -⟩
              · exact ⟨node, hmem, hname, hothers⟩
              · refine ⟨_, hmem, (name_constrain constraint node).trans hname, ?_⟩
                rwa [children_constrain]
          | cons second rest =>
              rcases mem_change_or name (fun node => { node with
                children := PathNode.insert constraint (second :: rest) node.children }) hnode with
                hmem | ⟨hmem, -⟩
              · exact ⟨node, hmem, hname, hothers⟩
              · exact ⟨_, hmem, hname, ih hothers⟩

theorem allDistinct_insert (path : List String) {nodes : List PathNode} (h : AllDistinct nodes) :
    AllDistinct (insert constraint path nodes) := by
  induction path generalizing nodes with
  | nil => exact h
  | cons name rest ih =>
      cases rest with
      | nil =>
          refine allDistinct_change (name_constrain constraint) (fun node hnode => ?_) h
          rw [distinct_iff, children_constrain, ← distinct_iff]
          exact hnode
      | cons second rest =>
          refine allDistinct_change (fun _ => rfl) (fun node hnode => ?_) h
          rw [distinct_iff] at hnode ⊢
          exact ih hnode

theorem allNarrowed_insert {P : Constraint → Prop} (hconstraint : ∀ f ∈ constraint, P f)
    (path : List String) {nodes : List PathNode} (h : AllNarrowed P nodes) :
    AllNarrowed P (insert constraint path nodes) := by
  induction path generalizing nodes with
  | nil => exact h
  | cons name rest ih =>
      cases rest with
      | nil =>
          refine allNarrowed_change (fun node hnode => ?_) h
          rw [constrain]
          split
          · exact (narrowed_iff _).2 ⟨hconstraint, ((narrowed_iff node).1 hnode).2⟩
          · exact hnode
      | cons second rest =>
          refine allNarrowed_change (fun node hnode => ?_) h
          obtain ⟨hown, hbelow⟩ := (narrowed_iff node).1 hnode
          exact (narrowed_iff _).2 ⟨hown, ih hbelow⟩

end PathNode

/-! ## Loaders -/

namespace EagerLoader

/-- Adds paths one after another. -/
def addPaths (loader : EagerLoader) (paths : List (String × Option Constraint)) : EagerLoader :=
  paths.foldl (fun loader (path, constraint) => loader.addPath path constraint) loader

/-- The loader of paths. -/
def ofPaths (fallback : LateralFallback) (paths : List (String × Option Constraint)) : EagerLoader :=
  ({ fallback } : EagerLoader).addPaths paths

variable {loader : EagerLoader} {paths : List (String × Option Constraint)}

theorem addPaths_cons (loader : EagerLoader) (first : String × Option Constraint)
    (rest : List (String × Option Constraint)) :
    loader.addPaths (first :: rest) = (loader.addPath first.1 first.2).addPaths rest := rfl

theorem distinct_addPaths (h : PathNode.AllDistinct loader.nodes) :
    PathNode.AllDistinct (loader.addPaths paths).nodes := by
  induction paths generalizing loader with
  | nil => exact h
  | cons first rest ih =>
      rw [addPaths_cons]
      refine ih ?_
      rw [addPath]
      split
      · exact h
      · exact PathNode.allDistinct_insert first.2 _ h

/-- The constraints of a tree are among those that were given with its paths. -/
theorem narrowed_addPaths {P : Constraint → Prop} (hpaths : ∀ path ∈ paths, ∀ f ∈ path.2, P f)
    (h : PathNode.AllNarrowed P loader.nodes) :
    PathNode.AllNarrowed P (loader.addPaths paths).nodes := by
  induction paths generalizing loader with
  | nil => exact h
  | cons first rest ih =>
      rw [addPaths_cons]
      refine ih (fun path hpath => hpaths path (List.mem_cons_of_mem _ hpath)) ?_
      rw [addPath]
      split
      · exact h
      · exact PathNode.allNarrowed_insert first.2 (hpaths first (List.mem_cons_self ..)) _ h

theorem fallback_addPaths (loader : EagerLoader) (paths : List (String × Option Constraint)) :
    (loader.addPaths paths).fallback = loader.fallback := by
  induction paths generalizing loader with
  | nil => rfl
  | cons first rest ih =>
      rw [addPaths_cons, ih, addPath]
      split <;> rfl

/-- A loader remembers that a path was malformed. -/
theorem malformed_of_addPaths (h : (loader.addPaths paths).malformed = none) :
    loader.malformed = none := by
  induction paths generalizing loader with
  | nil => exact h
  | cons first rest ih =>
      rw [addPaths_cons] at h
      have hfirst := ih h
      rw [addPath] at hfirst
      split at hfirst
      · cases hfirst
      · exact hfirst

theorem reaches_addPaths {names : List String} (h : PathNode.Reaches loader.nodes names) :
    PathNode.Reaches (loader.addPaths paths).nodes names := by
  induction paths generalizing loader with
  | nil => exact h
  | cons first rest ih =>
      rw [addPaths_cons]
      refine ih ?_
      rw [addPath]
      split
      · exact h
      · exact h.insert first.2 _

/-- **Every path that was added leads to a node**, unless one of them was malformed. -/
theorem reaches_segments (h : (loader.addPaths paths).malformed = none)
    {path : String × Option Constraint} (hpath : path ∈ paths) :
    PathNode.Reaches (loader.addPaths paths).nodes (segments path.1) := by
  induction paths generalizing loader with
  | nil => cases hpath
  | cons first rest ih =>
      rw [addPaths_cons] at h ⊢
      rcases List.mem_cons.1 hpath with rfl | hpath
      · refine reaches_addPaths ?_
        have hadded := malformed_of_addPaths h
        rw [addPath] at hadded ⊢
        split at hadded
        · cases hadded
        · next hnames =>
            rw [if_neg hnames]
            exact PathNode.reaches_insert path.2 _ _
      · exact ih h hpath

variable {fallback : LateralFallback}

theorem distinct_ofPaths : PathNode.AllDistinct (ofPaths fallback paths).nodes :=
  distinct_addPaths trivial

theorem narrowed_ofPaths {P : Constraint → Prop} (hpaths : ∀ path ∈ paths, ∀ f ∈ path.2, P f) :
    PathNode.AllNarrowed P (ofPaths fallback paths).nodes :=
  narrowed_addPaths hpaths trivial

end EagerLoader

end QueryKit
