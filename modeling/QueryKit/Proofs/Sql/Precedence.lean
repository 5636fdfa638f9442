import QueryKit.Proofs.Filter.Basic
import QueryKit.Proofs.Sql.Reading

set_option autoImplicit false

/-! # Truth of SQL text

The text of conditions is true as its words say: AND and OR join what stands between them, AND binds
tighter, and parentheses around a part make it one condition (`textTruth`). The AND that belongs to a
BETWEEN joins nothing. Every other part is a condition that is true or false.

Texts that are joined by words have the entries of all of them, one after another
(`entries_joinedNodes`). So an OR at the top of one of them stands between all others. -/

namespace QueryKit

namespace Sql

/-! ## Words that join -/

/-- A word in capitals. -/
def Node.upper? : Node → Option String
  | .leaf (.word cs) => some (String.ofList (cs.map Char.toUpper))
  | _ => none

/-- The connective that a word stands for. -/
def Node.connective? (n : Node) : Option Connective :=
  if n.upper? = some "AND" then some .and
  else if n.upper? = some "OR" then some .or
  else none

/-- The word is followed by an AND that joins nothing. -/
def Node.isBetween (n : Node) : Bool :=
  n.upper? == some "BETWEEN"

/-- The connective that a node stands for, unless it is the AND that a BETWEEN waits for. -/
def Node.joins? (waiting : Bool) (n : Node) : Option Connective :=
  if waiting && n.connective? == some .and then none else n.connective?

/-- Behind a node, whether the AND of a BETWEEN is still to come. -/
def awaits (waiting : Bool) (n : Node) : Bool :=
  n.connective?.isNone && (waiting || n.isBetween)

/-- The AND of every BETWEEN is there. -/
def Settled (nodes : List Node) : Prop :=
  nodes.foldl awaits false = false

/-! ## Truth -/

section Truth

variable (ρ : List Node → Bool)

/-- The truth of a part between two words, beside the nodes of which stands the truth of what they hold
    between parentheses. -/
def partTruth : List (Node × Bool) → Bool
  | [(.paren _, inner)] => inner
  | part => ρ (part.map Prod.fst)

/-- The parts between words with their truths, each with the word in front of it, behind a part that has
    begun. -/
def entriesFrom (k : Connective) (part : List (Node × Bool)) (waiting : Bool) :
    List (Node × Bool) → List (Connective × Bool)
  | [] => [(k, partTruth ρ part)]
  | e :: rest =>
    match e.1.joins? waiting with
    | some next => (k, partTruth ρ part) :: entriesFrom next [] false rest
    | none => entriesFrom k (part ++ [e]) (awaits waiting e.1) rest

/-- The parts with their truths. The word in front of the first one is given. -/
def entriesOf (k : Connective) (nodes : List (Node × Bool)) : List (Connective × Bool) :=
  if nodes.isEmpty then [] else entriesFrom ρ k [] false nodes

mutual

/-- The truth of what stands between parentheses. -/
def Node.inner : Node → Bool
  | .leaf _ => true
  | .paren nodes => Connective.truth (entriesOf ρ .and (judged nodes))

/-- The nodes with the truth of what they hold between parentheses. -/
def judged : List Node → List (Node × Bool)
  | [] => []
  | n :: rest => (n, n.inner) :: judged rest

end

/-- The parts of nodes with their truths. -/
def entries (k : Connective) (nodes : List Node) : List (Connective × Bool) :=
  entriesOf ρ k (judged ρ nodes)

/-- The truth of nodes when `ρ` says which parts are true. -/
def nodesTruth (nodes : List Node) : Bool :=
  Connective.truth (entries ρ .and nodes)

/-- The truth of a text when `ρ` says which conditions in it are true. -/
def textTruth (xs : List Symbol) : Bool :=
  nodesTruth ρ (nodesOf xs)

end Truth

variable (ρ : List Node → Bool)

theorem judged_eq_map (nodes : List Node) : judged ρ nodes = nodes.map fun n => (n, n.inner ρ) := by
  induction nodes with
  | nil => rfl
  | cons n rest ih => rw [judged, ih, List.map_cons]

theorem inner_paren (nodes : List Node) : (Node.paren nodes).inner ρ = nodesTruth ρ nodes := by
  rw [Node.inner, nodesTruth, entries]

theorem entries_of_ne_nil (k : Connective) {nodes : List Node} (h : nodes ≠ []) :
    entries ρ k nodes = entriesFrom ρ k [] false (judged ρ nodes) := by
  rw [entries, entriesOf, judged_eq_map, if_neg (by simpa using h)]

/-- Parentheses around nodes make them one part. -/
theorem entries_paren (k : Connective) (nodes : List Node) :
    entries ρ k [.paren nodes] = [(k, nodesTruth ρ nodes)] := by
  rw [entries_of_ne_nil ρ k (List.cons_ne_nil _ _), judged, judged, inner_paren]
  rfl

/-! ## Parts one after another -/

theorem joins?_connectiveNode (k : Connective) : (connectiveNode k).joins? false = some k := by
  cases k <;> rfl

theorem awaits_of_joins? {waiting : Bool} {n : Node} {next : Connective}
    (h : n.joins? waiting = some next) : awaits waiting n = false := by
  rw [Node.joins?] at h
  split at h
  · cases h
  · rw [awaits, h, Option.isNone_some, Bool.false_and]

section

variable (k : Connective) (part : List (Node × Bool)) {waiting : Bool} {n : Node} (rest : List Node)

theorem entriesFrom_of_joins? {next : Connective} (h : n.joins? waiting = some next) :
    entriesFrom ρ k part waiting (judged ρ (n :: rest))
      = (k, partTruth ρ part) :: entriesFrom ρ next [] false (judged ρ rest) := by
  rw [judged, entriesFrom, h]

theorem entriesFrom_of_joins?_eq_none (h : n.joins? waiting = none) :
    entriesFrom ρ k part waiting (judged ρ (n :: rest))
      = entriesFrom ρ k (part ++ [(n, n.inner ρ)]) (awaits waiting n) (judged ρ rest) := by
  rw [judged, entriesFrom, h]

end

/-- A word behind nodes that wait for nothing ends a part. -/
theorem entriesFrom_append (k : Connective) (part : List (Node × Bool)) {waiting : Bool}
    {xs : List Node} (h : xs.foldl awaits waiting = false) (next : Connective) (ys : List Node) :
    entriesFrom ρ k part waiting (judged ρ (xs ++ connectiveNode next :: ys))
      = entriesFrom ρ k part waiting (judged ρ xs) ++ entriesFrom ρ next [] false (judged ρ ys) := by
  induction xs generalizing k part waiting with
  | nil =>
    rw [List.foldl_nil] at h
    subst h
    exact entriesFrom_of_joins? ρ k part ys (joins?_connectiveNode next)
  | cons n rest ih =>
    rw [List.foldl_cons] at h
    rw [List.cons_append]
    cases hjoins : n.joins? waiting with
    | some word =>
      rw [awaits_of_joins? hjoins] at h
      rw [entriesFrom_of_joins? ρ k part _ hjoins, entriesFrom_of_joins? ρ k part _ hjoins, ih _ _ h,
        List.cons_append]
    | none =>
      rw [entriesFrom_of_joins?_eq_none ρ k part _ hjoins,
        entriesFrom_of_joins?_eq_none ρ k part _ hjoins, ih _ _ h]

/-- Nodes one after another, with the word in front of all but the first. -/
def joinedNodes : List (Connective × List Node) → List Node
  | [] => []
  | [p] => p.2
  | p :: next :: rest => p.2 ++ connectiveNode next.1 :: joinedNodes (next :: rest)

/-- **Texts that are joined have the parts of all of them**, each behind the word in front of it. -/
theorem entries_joinedNodes (p : Connective × List Node) (rest : List (Connective × List Node))
    (h : ∀ e ∈ p :: rest, e.2 ≠ [] ∧ Settled e.2) :
    entries ρ p.1 (joinedNodes (p :: rest)) = (p :: rest).flatMap fun e => entries ρ e.1 e.2 := by
  induction rest generalizing p with
  | nil => rw [joinedNodes, List.flatMap_cons, List.flatMap_nil, List.append_nil]
  | cons next rest ih =>
    rw [List.forall_mem_cons] at h
    obtain ⟨⟨hne, hsettled⟩, hrest⟩ := h
    have hnext : joinedNodes (next :: rest) ≠ [] := by
      have hfirst := (hrest next (List.mem_cons_self ..)).1
      cases rest with
      | nil => exact hfirst
      | cons _ _ => exact List.append_ne_nil_of_left_ne_nil hfirst _
    rw [joinedNodes, List.flatMap_cons, ← ih next hrest, entries_of_ne_nil ρ _ hne,
      entries_of_ne_nil ρ _ hnext, entries_of_ne_nil ρ _ (List.append_ne_nil_of_left_ne_nil hne _),
      entriesFrom_append ρ _ _ hsettled]

/-- The word in front of the first part does not count. -/
theorem exists_entriesFrom (part : List (Node × Bool)) (waiting : Bool) (nodes : List Node) :
    ∃ b rest, ∀ k, entriesFrom ρ k part waiting (judged ρ nodes) = (k, b) :: rest := by
  induction nodes generalizing part waiting with
  | nil => exact ⟨partTruth ρ part, [], fun k => rfl⟩
  | cons n nodes ih =>
    cases hjoins : n.joins? waiting with
    | some next =>
      exact ⟨_, _, fun k => entriesFrom_of_joins? ρ k part nodes hjoins⟩
    | none =>
      obtain ⟨b, rest, h⟩ := ih (part ++ [(n, n.inner ρ)]) (awaits waiting n)
      exact ⟨b, rest, fun k => by rw [entriesFrom_of_joins?_eq_none ρ k part nodes hjoins, h]⟩

theorem truth_entries (k : Connective) (nodes : List Node) :
    Connective.truth (entries ρ k nodes) = nodesTruth ρ nodes := by
  by_cases hne : nodes = []
  · subst hne
    rfl
  · obtain ⟨b, rest, h⟩ := exists_entriesFrom ρ [] false nodes
    rw [nodesTruth, entries_of_ne_nil ρ k hne, entries_of_ne_nil ρ .and hne, h, h]
    rfl

/-- Some OR stands at the top of the nodes. -/
def opens (nodes : List Node) : Bool :=
  nodes.any fun n => n.connective? == some .or

theorem connective?_of_joins? {waiting : Bool} {n : Node} {next : Connective}
    (h : n.joins? waiting = some next) : n.connective? = some next := by
  rw [Node.joins?] at h
  split at h
  · cases h
  · exact h

theorem connective_of_mem_entriesFrom {nodes : List Node} (h : opens nodes = false) (k : Connective)
    (part : List (Node × Bool)) (waiting : Bool) :
    ∀ e ∈ (entriesFrom ρ k part waiting (judged ρ nodes)).tail, e.1 = .and := by
  induction nodes generalizing k part waiting with
  | nil => exact fun e he => absurd he List.not_mem_nil
  | cons n rest ih =>
    rw [opens, List.any_cons, Bool.or_eq_false_iff] at h
    cases hjoins : n.joins? waiting with
    | none =>
      rw [entriesFrom_of_joins?_eq_none ρ k part rest hjoins]
      exact ih h.2 _ _ _
    | some next =>
      rw [entriesFrom_of_joins? ρ k part rest hjoins, List.tail_cons]
      have hnext : next = .and := by
        cases next with
        | and => rfl
        | or =>
          rw [connective?_of_joins? hjoins] at h
          exact absurd h.1 (by decide)
      subst hnext
      obtain ⟨b, tail, hfrom⟩ := exists_entriesFrom ρ [] false rest
      have htail := ih h.2 .and [] false
      rw [hfrom, List.tail_cons] at htail
      rw [hfrom]
      exact List.forall_mem_cons.2 ⟨rfl, htail⟩

/-- The entries of nodes: the first one has the word that is given, and the others are joined by AND if
    no OR stands at the top. -/
theorem exists_entries {nodes : List Node} (hne : nodes ≠ []) (k : Connective) :
    ∃ b rest, entries ρ k nodes = (k, b) :: rest
      ∧ (opens nodes = false → ∀ e ∈ rest, e.1 = .and) := by
  obtain ⟨b, rest, h⟩ := exists_entriesFrom ρ [] false nodes
  rw [entries_of_ne_nil ρ k hne]
  refine ⟨b, rest, h k, fun hopens => ?_⟩
  have htail := connective_of_mem_entriesFrom ρ hopens k [] false
  rwa [h k, List.tail_cons] at htail

end Sql

/-! ## Lists in the place of entries -/

namespace Connective

/-- No entry that opens stands beside an AND. The word in front of the first entry does not count. -/
def separated (first : Bool) : List (Connective × Bool) → Bool
  | [] => true
  | (k, opens) :: rest =>
    (!opens || ((first || k == .or) && rest.head?.all fun next => next.1 == .or))
      && separated false rest

section Splice

variable {α : Type} (k : α → Connective) (opens : α → Bool) (E : α → List (Connective × Bool))

/-- The entries for `x` begin with its connective, and have no other OR unless it opens. -/
def Extends (x : α) : Prop :=
  ∃ b rest, E x = (k x, b) :: rest ∧ (opens x = false → ∀ e ∈ rest, e.1 = .and)

variable {k opens E}

theorem head?_flatMap_eq_or {xs : List α} (hE : ∀ x ∈ xs, Extends k opens E x)
    (h : ((xs.map fun x => (k x, opens x)).head?.all fun next => next.1 == .or) = true) :
    (∀ p ∈ (xs.flatMap E).head?, p.1 = .or)
      ∧ ∀ p ∈ (xs.map fun x => (k x, truth (E x))).head?, p.1 = .or := by
  cases xs with
  | nil => exact ⟨nofun, nofun⟩
  | cons x rest =>
    obtain ⟨b, tail, hx, -⟩ := hE x (List.mem_cons_self ..)
    have hk : k x = .or := by simpa using h
    rw [List.flatMap_cons, hx, List.map_cons]
    exact ⟨by rintro _ ⟨⟩; exact hk, by rintro _ ⟨⟩; exact hk⟩

/-- Behind the first entry for `x`, the others and all that follows have the truth that they have with a
    single entry for `x`. -/
theorem truthFrom_append_flatMap {xs : List α} {b : Bool} {tail : List (Connective × Bool)}
    (hE : ∀ x ∈ xs, Extends k opens E x)
    (hrest : ∀ c, truthFrom c (xs.flatMap E) = truthFrom c (xs.map fun x => (k x, truth (E x))))
    (h : (∀ e ∈ tail, e.1 = .and)
      ∨ ((xs.map fun x => (k x, opens x)).head?.all fun next => next.1 == .or) = true) :
    truthFrom b (tail ++ xs.flatMap E)
      = truthFrom (truthFrom b tail) (xs.map fun x => (k x, truth (E x))) := by
  rcases h with hand | hor
  · rw [truthFrom_append_of_and b hand, hrest]
  · obtain ⟨hflat, hmap⟩ := head?_flatMap_eq_or hE hor
    rw [truthFrom_append_of_or b tail hflat, hrest]
    exact (truthFrom_append_of_or (truthFrom b tail) [] hmap).symm

theorem truthFrom_flatMap {xs : List α} (hE : ∀ x ∈ xs, Extends k opens E x)
    (h : separated false (xs.map fun x => (k x, opens x)) = true) (current : Bool) :
    truthFrom current (xs.flatMap E)
      = truthFrom current (xs.map fun x => (k x, truth (E x))) := by
  induction xs generalizing current with
  | nil => rfl
  | cons x rest ih =>
    rw [List.forall_mem_cons] at hE
    obtain ⟨⟨b, tail, hx, hand⟩, hE⟩ := hE
    rw [List.map_cons, separated, Bool.and_eq_true, Bool.false_or] at h
    obtain ⟨hbeside, h⟩ := h
    have hopens : opens x = false ∨ k x = .or
        ∧ ((rest.map fun x => (k x, opens x)).head?.all fun next => next.1 == .or) = true := by
      simpa using hbeside
    have hjoin : truthFrom b (tail ++ rest.flatMap E)
        = truthFrom (truthFrom b tail) (rest.map fun x => (k x, truth (E x))) :=
      truthFrom_append_flatMap hE (ih hE h) (hopens.imp hand And.right)
    have htruth : truth (E x) = truthFrom b tail := by
      rw [hx]
      rfl
    rw [List.flatMap_cons, List.map_cons, htruth, hx, List.cons_append]
    cases hk : k x with
    | or => rw [truthFrom, truthFrom, hjoin]
    | and =>
      -- only what does not open stands behind an AND
      have hnone : opens x = false := hopens.resolve_right fun hor => by simp [hk] at hor
      rw [truthFrom, truthFrom, truthFrom_append_of_and _ (hand hnone), ih hE h,
        truthFrom_of_forall_and _ _ (hand hnone), truthFrom_of_forall_and _ _ (hand hnone),
        Bool.and_assoc]

/-- **Lists in the place of entries.** If no list with an OR stands beside an AND, then each of the
    lists counts as a single entry. -/
theorem truth_flatMap {xs : List α} (hE : ∀ x ∈ xs, Extends k opens E x)
    (h : separated true (xs.map fun x => (k x, opens x)) = true) :
    truth (xs.flatMap E) = truth (xs.map fun x => (k x, truth (E x))) := by
  cases xs with
  | nil => rfl
  | cons x rest =>
    rw [List.forall_mem_cons] at hE
    obtain ⟨⟨b, tail, hx, hand⟩, hE⟩ := hE
    rw [List.map_cons, separated, Bool.and_eq_true, Bool.true_or, Bool.true_and] at h
    obtain ⟨hbeside, h⟩ := h
    have hopens : opens x = false
        ∨ ((rest.map fun x => (k x, opens x)).head?.all fun next => next.1 == .or) = true := by
      simpa using hbeside
    have htruth : truth (E x) = truthFrom b tail := by
      rw [hx]
      rfl
    rw [List.flatMap_cons, List.map_cons, htruth, hx]
    exact truthFrom_append_flatMap hE (truthFrom_flatMap hE h) (hopens.imp_left hand)

end Splice

end Connective

end QueryKit
