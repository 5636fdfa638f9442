import QueryKit.Proofs.Driver.Action
import QueryKit.Proofs.Eager.Paths
import QueryKit.Proofs.Eager.Refilling

set_option autoImplicit false

/-! # Complete loading

A loader that succeeds has loaded every relation of its paths on all records that the paths lead to
(`EagerLoader.loads_every_level`). A relation is loaded as its kind asks, also on records without a key.
A level is loaded on the records of all of its models. What a node loads stays while its siblings are
loaded, as their names are different, and while what is below it is put back. -/

namespace QueryKit

variable {σ : Type}

/-! ## The kinds of relations -/

namespace Relation

variable {ctx : LoadContext σ} {r : Relation}

theorem isMany_loaded {α : Type} (found : List α) : (r.loaded found).isMany = r.kind.isMany := by
  rw [loaded]
  split
  · next h => rw [h]; rfl
  · next h => rw [Bool.eq_false_iff.2 h]; rfl

theorem isMany_distributed (found : List (Key × Record)) (p : Record) :
    (r.distributed found p).isMany = r.kind.isMany := by
  rw [distributed]
  split
  · exact isMany_loaded _
  · exact isMany_loaded _

theorem yields_directAssignment {parent : Model} {constraint : Option Constraint}
    {parents : List Record} :
    (r.directAssignment ctx parent constraint parents).Yields fun assign =>
      ∀ p, (assign p).isMany = r.kind.isMany := by
  rw [directAssignment]
  refine .bind fun related => ?_
  dsimp only
  split
  · exact .pure fun _ => isMany_loaded _
  · exact .bind fun rows => .pure (isMany_distributed _)

theorem yields_ownersAssignment {constraint : Option Constraint} {parents : List Record} :
    (r.ownersAssignment ctx constraint parents).Yields fun assign => ∀ p, (assign p).isMany = false := by
  rw [ownersAssignment]
  split
  · exact .throw _
  · refine .bind fun owners => .pure fun p => ?_
    split <;> rfl

theorem yields_pivotAssignment {constraint : Option Constraint} {parents : List Record} :
    (r.pivotAssignment ctx constraint parents).Yields fun assign => ∀ p, (assign p).isMany = true := by
  rw [pivotAssignment]
  split
  · exact .throw _
  · refine .bind fun related => ?_
    dsimp only
    split
    · exact .pure fun _ => rfl
    · split
      · exact .throw _
      · refine .bind fun rows => .bind fun found => .pure fun p => ?_
        rw [assignLinked]
        split <;> rfl

/-- **A relation is loaded as its kind asks**, on records with and without a key. -/
theorem yields_assignment {parent : Model} {constraint : Option Constraint} {parents : List Record} :
    (r.assignment ctx parent constraint parents).Yields fun assign =>
      ∀ p, (assign p).isMany = r.kind.isMany := by
  rw [assignment]
  split
  · next hkind => rw [hkind]; exact yields_ownersAssignment
  · next hkind => rw [hkind]; exact yields_pivotAssignment
  · exact yields_directAssignment

end Relation

/-! ## Loading a level -/

namespace PathNode

variable {ctx : LoadContext σ} {name : String} {constraint : Option Constraint}

/-- What loading a relation does to a record of a level. -/
structure LoadedRecord (registry : ModelRegistry) (name : String) (r r' : Record) : Prop where
  agrees : Record.AgreesBut [name] r r'
  loaded : r.HasLoaded registry name → r'.HasLoaded registry name

theorem runFrom_loadModel_eq_ok {model : String} {s s' : σ} {records out : List Record}
    (h : (loadModel ctx name constraint model).runFrom (s, records) = (.ok (), (s', out))) :
    List.Forall₂ (fun r r' => LoadedRecord ctx.registry name r r'
      ∧ (r.model.name = model → r'.HasLoaded ctx.registry name)) records out := by
  rw [runFrom_loadModel] at h
  split at h
  · next assign s₁ hrun =>
    rw [assignment] at hrun
    obtain ⟨m, s₂, hm, hrun⟩ := Action.runFrom_bind_eq_ok hrun
    obtain ⟨relation, s₃, hrelation, hrun⟩ := Action.runFrom_bind_eq_ok hrun
    rw [Action.runFrom_ofExcept, Prod.mk.injEq] at hm hrelation
    have hmany := Relation.yields_assignment s₃ assign s₁ hrun
    cases h
    rw [List.forall₂_map_right_iff]
    refine List.forall₂_same.2 fun r _ => ?_
    cases hof : r.isOf model with
    | true =>
        have hmodel : r.model.name = model := eq_of_beq hof
        have hloaded : (r.attach name (assign r)).HasLoaded ctx.registry name := by
          refine ⟨m, relation, assign r, ?_, hrelation.1, ?_, hmany r⟩
          · rw [(Record.AgreesBut.attach name (assign r) r).model, hmodel]
            exact hm.1
          · rw [Record.loaded?_attach, if_pos rfl]
        exact ⟨⟨.attach name _ r, fun _ => hloaded⟩, fun _ => hloaded⟩
    | false =>
        refine ⟨⟨.refl _ r, id⟩, fun hmodel => ?_⟩
        rw [Record.isOf, hmodel, beq_self_eq_true] at hof
        cases hof
  · cases h

theorem runFrom_forM_loadModel_eq_ok {models : List String} {s s' : σ} {records out : List Record}
    (h : (models.forM (loadModel ctx name constraint)).runFrom (s, records) = (.ok (), (s', out))) :
    List.Forall₂ (fun r r' => LoadedRecord ctx.registry name r r'
      ∧ (r.model.name ∈ models → r'.HasLoaded ctx.registry name)) records out := by
  induction models generalizing s records with
  | nil =>
      cases h
      exact List.forall₂_same.2 fun r _ => ⟨⟨.refl _ r, id⟩, fun hmem => absurd hmem List.not_mem_nil⟩
  | cons model rest ih =>
      obtain ⟨_, ⟨s₁, between⟩, hfirst, hrest⟩ := Action.runFrom_bind_eq_ok h
      refine forall₂_trans ?_ (runFrom_loadModel_eq_ok hfirst) (ih hrest)
      rintro r₁ r₂ r₃ ⟨hloaded, hmodel⟩ ⟨hloaded', hbehind⟩
      refine ⟨⟨hloaded.agrees.trans hloaded'.agrees, fun hr => hloaded'.loaded (hloaded.loaded hr)⟩, ?_⟩
      intro hmem
      rcases List.mem_cons.1 hmem with heq | hmem
      · exact hloaded'.loaded (hmodel heq)
      · exact hbehind (by rwa [hloaded.agrees.model])

/-- **A level is loaded on all of its records**, whatever their models. -/
theorem runFrom_loadLevel_eq_ok {s s' : σ} {records out : List Record}
    (h : (loadLevel ctx name constraint).runFrom (s, records) = (.ok (), (s', out))) :
    List.Forall₂ (fun r r' => Record.AgreesBut [name] r r' ∧ r'.HasLoaded ctx.registry name)
      records out := by
  rw [loadLevel] at h
  obtain ⟨models, _, hmodels, h⟩ := Action.runFrom_bind_eq_ok h
  cases hmodels
  have hall := runFrom_forM_loadModel_eq_ok h
  exact ((List.forall₂_and_left _ _).2 ⟨fun _ => Record.mem_models, hall⟩).imp
    fun _ _ h => ⟨h.2.1.agrees, h.2.2 h.1⟩

/-! ## Loading a tree -/

/-- The records that lead on along the tree have loaded the next relation, at every level. -/
def Loads (registry : ModelRegistry) (nodes : List PathNode) (records : List Record) : Prop :=
  ∀ before name, Reaches nodes (before ++ [name]) →
    ∀ r ∈ Record.reached before records, r.HasLoaded registry name

section

variable {registry : ModelRegistry} {node : PathNode} {records out : List Record}

theorem Loads.cons {rest : List PathNode} (h : Loads registry [node] records)
    (hrest : Loads registry rest records) : Loads registry (node :: rest) records := by
  intro before name hreaches
  cases before with
  | nil =>
      obtain ⟨other, hother, hbelow⟩ := hreaches
      rcases List.mem_cons.1 hother with rfl | hother
      · exact h [] name ⟨other, List.mem_singleton_self _, hbelow⟩
      · exact hrest [] name ⟨other, hother, hbelow⟩
  | cons first behind =>
      obtain ⟨other, hother, hbelow⟩ := hreaches
      rcases List.mem_cons.1 hother with rfl | hother
      · exact h (first :: behind) name ⟨other, List.mem_singleton_self _, hbelow⟩
      · exact hrest (first :: behind) name ⟨other, hother, hbelow⟩

theorem loads_nil (nodes : List PathNode) : Loads registry nodes [] := by
  intro before name _ r hr
  rw [Record.reached_nil] at hr
  cases hr

/-- A node is loaded on records if its relation is, and what is below it on all that they lead to. -/
theorem loads_node (hloaded : ∀ r ∈ records, r.HasLoaded registry node.name) {next : List Record}
    (hnext : records.flatMap (Record.related node.name) ⊆ next)
    (hchildren : Loads registry node.children next) : Loads registry [node] records := by
  intro before name hreaches r hr
  cases before with
  | nil =>
      obtain ⟨other, hother, rfl, -⟩ := hreaches
      rw [List.mem_singleton.1 hother]
      exact hloaded r hr
  | cons first rest =>
      obtain ⟨other, hother, hname, hrest⟩ := hreaches
      rw [List.mem_singleton.1 hother] at hname hrest
      subst hname
      exact hchildren rest name hrest r (Record.reached_mono hnext hr)

/-- What has been loaded below a node stays loaded while other relations are. -/
theorem Loads.of_agreesBut {names : List String} (h : Loads registry [node] records)
    (hagrees : List.Forall₂ (Record.AgreesBut names) records out) (hname : node.name ∉ names) :
    Loads registry [node] out := by
  have hrelated : out.flatMap (Record.related node.name)
      = records.flatMap (Record.related node.name) := by
    clear h
    induction hagrees with
    | nil => rfl
    | cons hfirst _ ih =>
        rw [List.flatMap_cons, List.flatMap_cons, ih, Record.related_congr (hfirst.others _ hname)]
  intro before name hreaches r hr
  cases before with
  | nil =>
      obtain ⟨p, hp, hagreed⟩ := exists_mem_of_forall₂ hagrees hr
      have hloaded := h [] name hreaches p hp
      obtain ⟨other, hother, rfl, -⟩ := hreaches
      rw [List.mem_singleton.1 hother] at hloaded ⊢
      exact hloaded.congr hagreed.model (hagreed.others _ hname)
  | cons first rest =>
      refine h (first :: rest) name hreaches r ?_
      obtain ⟨other, hother, hfirst, -⟩ := hreaches
      rw [List.mem_singleton.1 hother] at hfirst
      rw [Record.reached, ← hfirst] at hr ⊢
      rwa [← hrelated]

end

theorem runFrom_onNextLevel_eq_ok {action : Loading σ Unit} {s s' : σ}
    {records out : List Record}
    (h : (action.onNextLevel name).runFrom (s, records) = (.ok (), (s', out))) :
    (Record.nextLevel name records = [] ∧ out = records)
      ∨ ∃ next, action.runFrom (s, Record.nextLevel name records) = (.ok (), (s', next))
          ∧ out = Record.refillLevel name records next := by
  rw [Loading.runFrom_onNextLevel] at h
  split at h
  · next hempty =>
    cases h
    exact .inl ⟨List.isEmpty_iff.1 hempty, rfl⟩
  · rcases hrun : action.runFrom (s, Record.nextLevel name records) with ⟨result, s₁, next⟩
    rw [hrun] at h
    cases h
    exact .inr ⟨next, rfl, rfl⟩

mutual

/-- A node that has been loaded has been loaded on all levels, and what else was loaded stays. -/
theorem runFrom_load_eq_ok : ∀ (node : PathNode), node.Distinct →
    ∀ {s s' : σ} {records out : List Record},
      (node.load ctx).runFrom (s, records) = (.ok (), (s', out)) →
        List.Forall₂ (Record.AgreesBut [node.name]) records out ∧ Loads ctx.registry [node] out
  | ⟨name, constraint, children⟩, hdistinct, s, s', records, out, h => by
      rw [load] at h
      obtain ⟨_, ⟨s₁, between⟩, hlevel, hnext⟩ := Action.runFrom_bind_eq_ok h
      have hloaded := runFrom_loadLevel_eq_ok hlevel
      rcases runFrom_onNextLevel_eq_ok hnext with ⟨hnone, rfl⟩ | ⟨next, hrun, rfl⟩
      · refine ⟨hloaded.imp fun _ _ h => h.1, loads_node (fun r hr => ?_) ?_ (loads_nil children)⟩
        · obtain ⟨_, -, -, hr⟩ := exists_mem_of_forall₂ hloaded hr
          exact hr
        · exact hnone ▸ Record.related_subset_nextLevel name out
      · obtain ⟨-, hbelow⟩ := runFrom_loadAll_eq_ok children hdistinct hrun
        have hrefilled := Record.refillLevel_refilled name between next
        refine ⟨forall₂_trans (fun _ _ _ h h' => h.1.trans h'.1.agrees) hloaded hrefilled,
          loads_node (fun r hr => ?_) (fun x hx => ?_) hbelow⟩
        · obtain ⟨p, hp, hpr, -⟩ := exists_mem_of_forall₂ hrefilled hr
          obtain ⟨_, -, -, hp⟩ := exists_mem_of_forall₂ hloaded hp
          exact hpr.loaded _ hp
        · obtain ⟨r, hr, hx⟩ := List.mem_flatMap.1 hx
          obtain ⟨_, -, -, hrelated⟩ := exists_mem_of_forall₂ hrefilled hr
          exact hrelated hx

theorem runFrom_loadAll_eq_ok : ∀ (nodes : List PathNode), AllDistinct nodes →
    ∀ {s s' : σ} {records out : List Record},
      (loadAll ctx nodes).runFrom (s, records) = (.ok (), (s', out)) →
        List.Forall₂ (Record.AgreesBut (names nodes)) records out ∧ Loads ctx.registry nodes out
  | [], _, s, s', records, out, h => by
      rw [loadAll] at h
      cases h
      refine ⟨List.forall₂_same.2 fun r _ => .refl _ r, fun before name hreaches => ?_⟩
      cases before with
      | nil => exact absurd hreaches (by rintro ⟨_, hnode, -⟩; cases hnode)
      | cons => exact absurd hreaches (by rintro ⟨_, hnode, -⟩; cases hnode)
  | node :: rest, hdistinct, s, s', records, out, h => by
      rw [loadAll] at h
      obtain ⟨_, ⟨s₁, between⟩, hfirst, hrest⟩ := Action.runFrom_bind_eq_ok h
      obtain ⟨hnot, hnode, hothers⟩ := hdistinct
      obtain ⟨hagrees, hloads⟩ := runFrom_load_eq_ok node hnode hfirst
      obtain ⟨hagrees', hloads'⟩ := runFrom_loadAll_eq_ok rest hothers hrest
      refine ⟨forall₂_trans (fun _ _ _ h h' => ?_) hagrees hagrees', ?_⟩
      · refine (h.mono ?_).trans (h'.mono ?_)
        · exact List.cons_subset_cons _ (List.nil_subset _)
        · exact List.subset_cons_self _ _
      · -- what is below the first node stays loaded, as its name is not among those of the others
        exact (hloads.of_agreesBut hagrees' hnot).cons hloads'

end

end PathNode

/-! ## Loaders -/

namespace EagerLoader

/-- **Every relation of a path is loaded on all records that the path leads to**, and the records stay
    as they are but for their relations. -/
theorem loads_every_level {fallback : LateralFallback} {paths : List (String × Option Constraint)}
    {driver : Driver σ} {registry : ModelRegistry} {s s' : σ} {records out : List Record}
    (hrun : ((ofPaths fallback paths).load driver registry).runFrom (s, records)
      = (.ok (), (s', out))) :
    List.Forall₂ (fun r r' => r'.model = r.model ∧ r'.attributes = r.attributes ∧ r'.stored = r.stored)
        records out
      ∧ ∀ path ∈ paths, ∀ (before : List String) (name : String),
          before ++ [name] <+: segments path.1 →
            ∀ r ∈ Record.reached before out, r.HasLoaded registry name := by
  cases hmalformed : (ofPaths fallback paths).malformed with
  | some path =>
      rw [load, hmalformed] at hrun
      cases hrun
  | none =>
      rw [runFrom_load hmalformed] at hrun
      split at hrun
      · next hempty =>
        cases hrun
        rw [List.isEmpty_iff.1 hempty]
        refine ⟨.nil, fun _ _ before name _ r hr => ?_⟩
        rw [Record.reached_nil] at hr
        cases hr
      · obtain ⟨hagrees, hloads⟩ := PathNode.runFrom_loadAll_eq_ok _ distinct_ofPaths hrun
        refine ⟨hagrees.imp fun _ _ h => ⟨h.model, h.attributes, h.stored⟩, ?_⟩
        intro path hpath before name hprefix
        obtain ⟨behind, hbehind⟩ := hprefix
        have hwhole : PathNode.Reaches (ofPaths fallback paths).nodes
            ((before ++ [name]) ++ behind) := hbehind ▸ reaches_segments hmalformed hpath
        exact hloads before name hwhole.of_append

/-- Comments on a post and on a video, and one on nothing. The author is loaded on the post and on the
    video, which are of different models. -/
theorem loads_every_level_below_owners :
    ∃ (comment user post video : Model) (registry : ModelRegistry) (driver : Driver Unit)
      (records out owners : List Record),
      comment = { name := "Comment", table := "comments",
                  relations := [.morphTo "commentable" "commentable"] }
      ∧ user = { name := "User", table := "users" }
      ∧ post = { name := "Post", table := "posts",
                 relations := [.belongsTo "author" "User" "author_id"] }
      ∧ video = { name := "Video", table := "videos",
                  relations := [.belongsTo "author" "User" "author_id"] }
      ∧ registry = [comment, user, post, video].foldl (fun reg m => reg.register m) {}
      ∧ driver = { Driver.blank .postgres with
          query := fun _ => pure (.ofRows [.ofList [("id", .int 1), ("author_id", .int 1)]]) }
      ∧ records = [
          .ofRow comment (.ofList [("commentable_type", .text "Post"), ("commentable_id", .int 1)]),
          .ofRow comment (.ofList [("commentable_type", .text "Video"), ("commentable_id", .int 1)]),
          .ofRow comment (.ofList [("commentable_type", .null), ("commentable_id", .null)])]
      ∧ ((ofPaths .error [("commentable.author", none)]).load driver registry).runFrom ((), records)
          = (.ok (), ((), out))
      ∧ owners = Record.reached ["commentable"] out
      ∧ owners.map (·.model.name) = ["Post", "Video"]
      ∧ ∀ r ∈ owners, r.HasLoaded registry "author" := by
  let comment : Model :=
    { name := "Comment", table := "comments",
      relations := [.morphTo "commentable" "commentable"] }
  let user : Model := { name := "User", table := "users" }
  let post : Model :=
    { name := "Post", table := "posts",
      relations := [.belongsTo "author" "User" "author_id"] }
  let video : Model :=
    { name := "Video", table := "videos",
      relations := [.belongsTo "author" "User" "author_id"] }
  let registry : ModelRegistry := [comment, user, post, video].foldl (fun reg m => reg.register m) {}
  let driver : Driver Unit := { Driver.blank .postgres with
    query := fun _ => pure (.ofRows [.ofList [("id", .int 1), ("author_id", .int 1)]]) }
  let records : List Record := [
    .ofRow comment (.ofList [("commentable_type", .text "Post"), ("commentable_id", .int 1)]),
    .ofRow comment (.ofList [("commentable_type", .text "Video"), ("commentable_id", .int 1)]),
    .ofRow comment (.ofList [("commentable_type", .null), ("commentable_id", .null)])]
  have hpath : segments "commentable.author" = ["commentable", "author"] := by decide +kernel
  have hloader : ofPaths .error [("commentable.author", none)]
      = { nodes := [{ name := "commentable", children := [{ name := "author" }] }] } := by
    rw [ofPaths, addPaths_cons, addPath, hpath]
    rfl
  obtain ⟨out, hrun, howners⟩ : ∃ out,
      ((ofPaths .error [("commentable.author", none)]).load driver registry).runFrom ((), records)
          = (.ok (), ((), out))
        ∧ (Record.reached ["commentable"] out).map (·.model.name) = ["Post", "Video"] := by
    rw [hloader]
    subst records driver registry video post user comment
    refine ⟨_, rfl, ?_⟩
    rfl
  refine ⟨comment, user, post, video, registry, driver, records, out,
    Record.reached ["commentable"] out, rfl, rfl, rfl, rfl, rfl, rfl, rfl, hrun, rfl, howners, ?_⟩
  refine (loads_every_level hrun).2 _ (List.mem_singleton_self _) ["commentable"] "author" ?_
  rw [hpath]
  exact List.prefix_refl _

end EagerLoader

end QueryKit
