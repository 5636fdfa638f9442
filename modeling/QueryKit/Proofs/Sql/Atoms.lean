import QueryKit.Proofs.Filter.Rendering
import QueryKit.Proofs.Sql.Precedence

set_option autoImplicit false

/-! # Conditions read as one

A condition on columns is read as a single condition wherever it stands: no word in it joins, since
columns are written between quotes, and the AND of a BETWEEN belongs to it (`Condition.Plain.reads`). -/

namespace QueryKit

namespace Sql

/-! ## Text without words that join -/

/-- No parenthesis, and no word that joins or waits for one that does not. -/
def Token.isInert : Token → Bool
  | .leaf l => (Node.leaf l).connective?.isNone && !(Node.leaf l).isBetween
  | .opening => false
  | .closing => false

/-- The symbols close their quotes, and nothing in them joins. -/
structure Inert (xs : List Symbol) : Prop where
  closed : IsClosed xs
  inert : ∀ t ∈ tokens xs, t.isInert = true

instance (xs : List Symbol) : Decidable (Inert xs) :=
  decidable_of_iff (IsClosed xs ∧ ∀ t ∈ tokens xs, t.isInert = true)
    ⟨fun h => ⟨h.1, h.2⟩, fun h => ⟨h.closed, h.inert⟩⟩

/-- Nodes that join nothing. -/
def AreInert (nodes : List Node) : Prop :=
  ∀ n ∈ nodes, n.connective? = none ∧ n.isBetween = false

instance (nodes : List Node) : Decidable (AreInert nodes) :=
  inferInstanceAs (Decidable (∀ n ∈ nodes, n.connective? = none ∧ n.isBetween = false))

namespace Inert

variable {xs ys : List Symbol}

theorem nil : Inert [] := ⟨rfl, nofun⟩

theorem append (hxs : Inert xs) (hys : Inert ys) (hword : EndsWord ys) : Inert (xs ++ ys) := by
  refine ⟨hxs.closed.append hys.closed, fun t ht => ?_⟩
  rw [tokens_append hxs.closed hword, List.mem_append] at ht
  exact ht.elim (hxs.inert t) (hys.inert t)

theorem hole (v : Value) : Inert [.hole v] :=
  ⟨rfl, by rintro t ht; rw [List.mem_singleton.1 ht]; rfl⟩

/-- Inert text is read as inert nodes, one of them a leaf if there is a token. -/
theorem exists_reads (h : Inert xs) : ∃ ns, Reads xs ns ∧ AreInert ns
    ∧ ((tokens xs).isEmpty = false → ∃ l, Node.leaf l ∈ ns) := by
  have hnodes : ∀ ts : List Token, (∀ t ∈ ts, t.isInert = true) →
      ∃ ns, ts = tokensOf ns ∧ AreInert ns ∧ (ts.isEmpty = false → ∃ l, Node.leaf l ∈ ns) := by
    intro ts hts
    induction ts with
    | nil => exact ⟨[], rfl, nofun, nofun⟩
    | cons t rest ih =>
      rw [List.forall_mem_cons] at hts
      obtain ⟨ns, hns, hinert, -⟩ := ih hts.2
      cases t with
      | leaf l =>
        have hl : (Node.leaf l).connective? = none ∧ (Node.leaf l).isBetween = false := by
          simpa [Token.isInert] using hts.1
        exact ⟨.leaf l :: ns, by rw [tokensOf, ← hns]; rfl, List.forall_mem_cons.2 ⟨hl, hinert⟩,
          fun _ => ⟨l, List.mem_cons_self ..⟩⟩
      | opening | closing => exact absurd hts.1 (by decide)
  obtain ⟨ns, hns, hinert, hleaf⟩ := hnodes (tokens xs) h.inert
  exact ⟨ns, ⟨h.closed, hns⟩, hinert, hleaf⟩

end Inert

theorem textSymbols_append (s t : String) : textSymbols (s ++ t) = textSymbols s ++ textSymbols t := by
  rw [textSymbols, String.toList_append, List.map_append]
  rfl

/-! ## Columns -/

theorem foldl_map_char (span : Span) (cs : List Char) :
    (cs.map Symbol.char).foldl Symbol.next span = span.after cs := by
  rw [List.foldl_map]
  rfl

theorem isWordPart_of_isQuote {q : Char} (h : isQuote q = true) : isWordPart q = false := by
  simp only [isQuote, Bool.or_eq_true, beq_iff_eq] at h
  rcases h with (rfl | rfl) | rfl <;> decide

theorem signTokens_of_isQuote {q : Char} (h : isQuote q = true) :
    signTokens q = [.leaf (.sign q)] := by
  simp only [isQuote, Bool.or_eq_true, beq_iff_eq] at h
  rcases h with (rfl | rfl) | rfl <;> rfl

section Quote

variable {q : Char} (hq : isQuote q = true)

include hq

/-- Between quotes, doubled quotes are read as signs and quoted characters. -/
theorem inert_doubled (part : List Char) :
    ∀ t ∈ tokensFrom (some q) [] ((doubled q part ++ [q]).map .char), t.isInert = true := by
  induction part with
  | nil =>
    intro t ht
    have htokens : tokensFrom (some q) [] [.char q] = [.leaf (.quoted q)] := by simp [tokensFrom]
    rw [doubled, List.flatMap_nil, List.nil_append, List.map_singleton, htokens] at ht
    rw [List.mem_singleton.1 ht]
    rfl
  | cons c rest ih =>
    rw [doubled, List.flatMap_cons, ← doubled]
    have hsign : Token.isInert (.leaf (.sign q)) = true := rfl
    by_cases hc : c = q
    · -- the first of the two closes the quotes, the second one opens them again
      subst hc
      simp only [BEq.rfl, if_true, List.cons_append, List.nil_append, List.map_cons, tokensFrom,
        Option.isSome_some, wordTokens_nil, List.forall_mem_cons]
      refine ⟨rfl, ?_⟩
      simpa [Span.next, hq, isWordPart_of_isQuote hq, signTokens_of_isQuote hq, hsign] using ih
    · simp only [beq_eq_false_iff_ne.2 hc, Bool.false_eq_true, if_false, List.cons_append,
        List.nil_append, List.map_cons, tokensFrom, Option.isSome_some, if_true, wordTokens_nil,
        List.forall_mem_cons]
      refine ⟨rfl, ?_⟩
      simpa [Span.next, hc] using ih

theorem endsWord_quotePart (part : List Char) : EndsWord ((quotePart q part).map .char) := by
  unfold quotePart
  split
  · next hstar =>
    rw [hstar]
    exact .char (by decide) []
  · exact .char (isWordPart_of_isQuote hq) _

theorem inert_quotePart (part : List Char) : Inert ((quotePart q part).map .char) := by
  constructor
  · rw [IsClosed, foldl_map_char]
    exact (neutral_quotePart hq part).closed
  · unfold quotePart
    split
    · next hstar =>
      rw [hstar]
      decide
    · have hnext : Span.next none q = some q := by simp [Span.next, hq]
      have htokens : tokens ((q :: doubled q part ++ [q]).map .char)
          = .leaf (.sign q) :: tokensFrom (some q) [] ((doubled q part ++ [q]).map .char) := by
        rw [List.cons_append, List.map_cons, tokens, tokensFrom]
        simp [hnext, isWordPart_of_isQuote hq, signTokens_of_isQuote hq]
      rw [htokens]
      exact List.forall_mem_cons.2 ⟨rfl, inert_doubled hq part⟩

end Quote

theorem Inert.sign_cons {c : Char} {xs : List Symbol} (hword : isWordPart c = false)
    (hquote : isQuote c = false) (hc : ∀ t ∈ signTokens c, t.isInert = true) (h : Inert xs) :
    Inert (.char c :: xs) := by
  have hnext : Span.next none c = none := by simp [Span.next, hquote]
  constructor
  · rw [IsClosed, List.foldl_cons, Symbol.next, hnext]
    exact h.closed
  · have htokens : tokens (.char c :: xs) = signTokens c ++ tokens xs := by
      simp [tokens, tokensFrom, hword, hnext]
    rw [htokens]
    exact List.forall_mem_append.2 ⟨hc, h.inert⟩

theorem EndsWord.append {xs ys : List Symbol} (hxs : EndsWord xs) (hys : EndsWord ys) :
    EndsWord (xs ++ ys) := by
  cases xs with
  | nil => exact hys
  | cons x rest => exact hxs

theorem endsWord_column (d : Dialect) {reference : String} (h : '(' ∉ reference.toList) :
    EndsWord (textSymbols (d.column reference)) := by
  rw [textSymbols, Dialect.column, String.toList_ofList]
  refine quoteColumn_induction (P := fun cs => EndsWord (cs.map .char)) .nil
    (endsWord_quotePart (isQuote_identifierQuote d)) (fun xs ys hxs _ => ?_) (fun xs label hxs => ?_)
    reference.toList h
  · rw [List.map_append]
    exact hxs.append (.char (by decide) _)
  · rw [List.map_append]
    exact hxs.append (.char (by decide) _)

/-- What is written for a reference without a parenthesis joins nothing. -/
theorem inert_column (d : Dialect) {reference : String} (h : '(' ∉ reference.toList) :
    Inert (textSymbols (d.column reference)) := by
  have hq := isQuote_identifierQuote d
  rw [textSymbols, Dialect.column, String.toList_ofList]
  refine quoteColumn_induction (P := fun cs => Inert (cs.map .char)) .nil (inert_quotePart hq)
    (fun xs ys hxs hys => ?_) (fun xs label hxs => ?_) reference.toList h
  · rw [List.map_append]
    exact hxs.append (hys.sign_cons (by decide) (by decide) (by decide)) (.char (by decide) _)
  · rw [aliasSuffix, List.map_append, List.map_append]
    exact hxs.append (Inert.append (by decide) (inert_quotePart hq label) (endsWord_quotePart hq label))
      (.char (by decide) _)

/-! ## Nodes of a single condition -/

/-- The nodes are a single part that is not between parentheses, wherever they stand. -/
structure IsOne (nodes : List Node) : Prop where
  leaf : ∃ l, Node.leaf l ∈ nodes
  settled : Settled nodes
  opens : opens nodes = false
  entries : ∀ (ρ : List Node → Bool) (k : Connective), entries ρ k nodes = [(k, ρ nodes)]

theorem partTruth_judged (ρ : List Node → Bool) {nodes : List Node} (h : ∃ l, Node.leaf l ∈ nodes) :
    partTruth ρ (judged ρ nodes) = ρ nodes := by
  have hmap : (judged ρ nodes).map Prod.fst = nodes := by
    rw [judged_eq_map, List.map_map]
    exact List.map_id _
  unfold partTruth
  split
  · next inside inner heq =>
    rw [heq] at hmap
    obtain ⟨l, hl⟩ := h
    rw [← hmap] at hl
    cases List.mem_singleton.1 hl
  · rw [hmap]

theorem ne_nil_of_leaf {nodes : List Node} (h : ∃ l, Node.leaf l ∈ nodes) : nodes ≠ [] := by
  obtain ⟨l, hl⟩ := h
  exact List.ne_nil_of_mem hl

namespace AreInert

variable {ns ms : List Node}

theorem nil : AreInert [] := List.forall_mem_nil _

theorem append (hns : AreInert ns) (hms : AreInert ms) : AreInert (ns ++ ms) :=
  List.forall_mem_append.2 ⟨hns, hms⟩

theorem paren (nodes : List Node) : AreInert [.paren nodes] := by
  intro n hn
  rw [List.mem_singleton.1 hn]
  exact ⟨rfl, rfl⟩

theorem hole (v : Value) : AreInert [.leaf (.hole v)] := by
  intro n hn
  rw [List.mem_singleton.1 hn]
  exact ⟨rfl, rfl⟩

theorem foldl_awaits (h : AreInert ns) (waiting : Bool) : ns.foldl awaits waiting = waiting := by
  induction ns with
  | nil => rfl
  | cons n rest ih =>
    rw [AreInert, List.forall_mem_cons] at h
    obtain ⟨⟨hconnective, hbetween⟩, hrest⟩ := h
    have hn : awaits waiting n = waiting := by simp [awaits, hconnective, hbetween]
    rw [List.foldl_cons, hn, ih hrest]

theorem opens (h : AreInert ns) : Sql.opens ns = false := by
  rw [Sql.opens, List.any_eq_false]
  intro n hn
  rw [(h n hn).1]
  decide

/-- Inert nodes go on with the part that has begun. -/
theorem entriesFrom_append (h : AreInert ns) (ρ : List Node → Bool) (k : Connective)
    (part : List (Node × Bool)) (waiting : Bool) (rest : List Node) :
    entriesFrom ρ k part waiting (judged ρ (ns ++ rest))
      = entriesFrom ρ k (part ++ judged ρ ns) waiting (judged ρ rest) := by
  induction ns generalizing part with
  | nil => rw [List.nil_append, judged, List.append_nil]
  | cons n ns ih =>
    have hfirst := h.foldl_awaits
    rw [AreInert, List.forall_mem_cons] at h
    obtain ⟨⟨hconnective, hbetween⟩, hrest⟩ := h
    have hjoins : n.joins? waiting = none := by simp [Node.joins?, hconnective]
    have hn : awaits waiting n = waiting := by simp [awaits, hconnective, hbetween]
    rw [List.cons_append, entriesFrom_of_joins?_eq_none ρ k part _ hjoins, hn, ih hrest, judged,
      List.append_assoc, List.singleton_append]

theorem isOne (h : AreInert ns) (hleaf : ∃ l, Node.leaf l ∈ ns) : IsOne ns where
  leaf := hleaf
  settled := h.foldl_awaits false
  opens := h.opens
  entries := fun ρ k => by
    have hfrom := h.entriesFrom_append ρ k [] false []
    rw [List.append_nil, List.nil_append] at hfrom
    rw [entries_of_ne_nil ρ k (ne_nil_of_leaf hleaf), hfrom, judged, entriesFrom,
      partTruth_judged ρ hleaf]

end AreInert

/-- A word by itself. -/
def wordNode (s : String) : Node :=
  .leaf (.word s.toList)

/-- The AND of a BETWEEN joins nothing. -/
theorem isOne_between {ns : List Node} (h : AreInert ns) (low high : Value) :
    IsOne (ns ++ [wordNode "BETWEEN", .leaf (.hole low), wordNode "AND", .leaf (.hole high)]) where
  leaf := ⟨.hole high, by simp⟩
  settled := by
    rw [Settled, List.foldl_append, h.foldl_awaits]
    rfl
  opens := by
    rw [opens, List.any_append, ← opens, h.opens]
    rfl
  entries := fun ρ k => by
    rw [← partTruth_judged ρ ⟨.hole high, by simp⟩, entries_of_ne_nil ρ k (by simp),
      h.entriesFrom_append, List.nil_append, judged_eq_map, judged_eq_map, judged_eq_map,
      List.map_append]
    show [(k, partTruth ρ ((((_ ++ [_]) ++ [_]) ++ [_]) ++ [_]))] = _
    rw [List.append_assoc, List.append_assoc, List.append_assoc]
    rfl

/-! ## Conditions on columns -/

/-- Words behind a column that join nothing. -/
structure AreWords (xs : List Symbol) : Prop where
  inert : Inert xs
  some : (tokens xs).isEmpty = false
  begins : EndsWord xs

theorem areWords_operator (d : Dialect) {op : String} (h : op ∈ operators) :
    AreWords (textSymbols (" " ++ d.operator op ++ " ")) := by
  have hall : ∀ op ∈ operators, Inert (textSymbols (" " ++ d.operator op ++ " "))
      ∧ (tokens (textSymbols (" " ++ d.operator op ++ " "))).isEmpty = false := by
    cases d <;> decide
  refine ⟨(hall op h).1, (hall op h).2, ?_⟩
  rw [textSymbols_append, textSymbols_append]
  exact .char (by decide) _

theorem areWords_in (negated : Bool) :
    AreWords (textSymbols (if negated then " NOT IN " else " IN ")) := by
  cases negated <;> exact ⟨by decide, by decide, .char (by decide) _⟩

theorem areWords_null (negated : Bool) :
    AreWords (textSymbols (if negated then " IS NOT NULL" else " IS NULL")) := by
  cases negated <;> exact ⟨by decide, by decide, .char (by decide) _⟩

/-- A column, words and what they compare it with are one condition. -/
theorem reads_tested (d : Dialect) {column : String} (hcolumn : '(' ∉ column.toList)
    {words rest : List Symbol} {ms : List Node} (hwords : AreWords words) (hrest : Reads rest ms)
    (hinert : AreInert ms) (hends : EndsWord rest) :
    ∃ ns, Reads (textSymbols (d.column column) ++ (words ++ rest)) ns ∧ IsOne ns := by
  obtain ⟨cs, hcs, hcolumnInert, -⟩ := (inert_column d hcolumn).exists_reads
  obtain ⟨ws, hws, hwordsInert, hleaf⟩ := hwords.inert.exists_reads
  obtain ⟨l, hl⟩ := hleaf hwords.some
  have hall : AreInert (cs ++ (ws ++ ms)) := hcolumnInert.append (hwordsInert.append hinert)
  refine ⟨_, hcs.append (hws.append hrest hends) (hwords.begins.append hends), hall.isOne ⟨l, ?_⟩⟩
  exact List.mem_append_right _ (List.mem_append_left _ hl)

theorem inert_holes (vs : List Value) :
    Inert (Template.join ", " (vs.map Template.hole)).symbols
      ∧ EndsWord (Template.join ", " (vs.map Template.hole)).symbols := by
  induction vs with
  | nil => exact ⟨.nil, .nil⟩
  | cons v rest ih =>
    cases rest with
    | nil => exact ⟨.hole v, .hole v []⟩
    | cons w rest =>
      refine ⟨?_, .hole v _⟩
      show Inert ([.hole v] ++ (textSymbols ", " ++ _))
      exact (Inert.hole v).append (Inert.append (by decide) ih.1 ih.2) (.char (by decide) _)

theorem reads_between (d : Dialect) {column : String} (h : '(' ∉ column.toList) (low high : Value)
    (negated : Bool) :
    ∃ ns, Reads (conditionTemplate d (.between column low high negated)).symbols ns ∧ IsOne ns := by
  have hsymbols : (conditionTemplate d (.between column low high negated)).symbols
      = (textSymbols (d.column column) ++ textSymbols (if negated then " NOT" else ""))
        ++ (textSymbols " BETWEEN " ++ ([.hole low] ++ (textSymbols " AND " ++ [.hole high]))) := by
    have hwords : (if negated then " NOT BETWEEN " else " BETWEEN ")
        = (if negated then " NOT" else "") ++ " BETWEEN " := by
      cases negated <;> rfl
    simp [conditionTemplate, hwords, textSymbols_append]
  have hcolumn : Inert (textSymbols (d.column column)
      ++ textSymbols (if negated then " NOT" else "")) := by
    cases negated with
    | false => exact (inert_column d h).append (by decide) .nil
    | true => exact (inert_column d h).append (by decide) (.char (by decide) _)
  have hbetween : Reads (textSymbols " BETWEEN ") [wordNode "BETWEEN"] := ⟨by decide, rfl⟩
  have hand : Reads (textSymbols " AND ") [wordNode "AND"] := ⟨by decide, rfl⟩
  have hbounds := hbetween.append ((Reads.hole low).append
    (hand.append (.hole high) (.hole high [])) (.char (by decide) _)) (.hole low _)
  obtain ⟨ns, hns, hinert, -⟩ := hcolumn.exists_reads
  rw [hsymbols]
  exact ⟨_, hns.append hbounds (.char (by decide) _), isOne_between hinert low high⟩

end Sql

/-- **A condition on columns is read as one.** -/
theorem Condition.Plain.reads (d : Dialect) {c : Condition} (h : c.Plain) :
    ∃ ns, Sql.Reads (Sql.conditionTemplate d c).symbols ns ∧ Sql.IsOne ns := by
  cases c with
  | compare column op value =>
    obtain ⟨hop, hcolumn⟩ := h
    have hreads := Sql.reads_tested d hcolumn (Sql.areWords_operator d hop) (.hole value) (.hole value)
      (.hole value [])
    simpa [Sql.conditionTemplate, Sql.compareTemplate, Sql.textSymbols_append] using hreads
  | oneOf column values negated =>
    obtain ⟨ns, hns, -, -⟩ := (Sql.inert_holes values).1.exists_reads
    have hwords : (if negated then " NOT IN (" else " IN (")
        = (if negated then " NOT IN " else " IN ") ++ "(" := by
      cases negated <;> rfl
    have hreads := Sql.reads_tested d h (Sql.areWords_in negated) hns.paren (.paren ns)
      (.char (by decide) _)
    simpa [Sql.conditionTemplate, hwords, Sql.textSymbols_append, Sql.Template.text] using hreads
  | isNull column negated =>
    have hreads := Sql.reads_tested d h (Sql.areWords_null negated) .nil .nil .nil
    simpa [Sql.conditionTemplate, Sql.textSymbols_append, Sql.Template.text] using hreads
  | between column low high negated => exact Sql.reads_between d h low high negated
  | compareColumns left op right =>
    obtain ⟨hop, hleft, hright⟩ := h
    obtain ⟨ms, hms, hinert, -⟩ := (Sql.inert_column d hright).exists_reads
    have hreads := Sql.reads_tested d hleft (Sql.areWords_operator d hop) hms hinert
      (Sql.endsWord_column d hright)
    simpa [Sql.conditionTemplate, Sql.textSymbols_append, Sql.Template.text] using hreads
  | raw | nested => exact h.elim

end QueryKit
