import QueryKit.Proofs.Sql.Quoting
import QueryKit.Proofs.Sql.Aliases

set_option autoImplicit false

/-! # Quoted references read back

What is written for a reference is made of segments: stars, and bodies between quotes in which every
quote is doubled (`IsSegment`). Between segments stands a point or the word `AS`, and neither begins with
a quote, so a segment ends where its quotes say it does and a text has no more than one reading
(`joined_inj`). Halving the doubled quotes gives the parts of the reference back
(`exists_quoted_column`). Outside of quotes stands nothing but the points, the words and the stars. -/

namespace QueryKit.Sql

/-! ## Doubled quotes -/

/-- Every quote in the text is doubled. -/
inductive Paired (q : Char) : List Char → Prop
  | nil : Paired q []
  | quote {cs : List Char} (rest : Paired q cs) : Paired q (q :: q :: cs)
  | other {c : Char} {cs : List Char} (hc : c ≠ q) (rest : Paired q cs) : Paired q (c :: cs)

/-- Makes one quote of every two. -/
def halved (q : Char) : List Char → List Char
  | [] => []
  | [c] => [c]
  | c :: d :: cs => if c = q then c :: halved q cs else c :: halved q (d :: cs)

theorem halved_other {q c : Char} (hc : c ≠ q) (cs : List Char) :
    halved q (c :: cs) = c :: halved q cs := by
  rcases cs with _ | ⟨d, rest⟩
  · rfl
  · rw [halved, if_neg hc]

theorem doubled_cons (q c : Char) (cs : List Char) :
    doubled q (c :: cs) = (if c = q then [c, c] else [c]) ++ doubled q cs := by
  simp [doubled]

theorem paired_doubled (q : Char) (cs : List Char) : Paired q (doubled q cs) := by
  induction cs with
  | nil => exact .nil
  | cons c rest ih =>
      rw [doubled_cons]
      by_cases hc : c = q
      · rw [if_pos hc, hc]
        exact .quote ih
      · rw [if_neg hc]
        exact .other hc ih

theorem halved_doubled (q : Char) (cs : List Char) : halved q (doubled q cs) = cs := by
  induction cs with
  | nil => rfl
  | cons c rest ih =>
      rw [doubled_cons]
      by_cases hc : c = q
      · rw [if_pos hc, List.cons_append, List.singleton_append, halved, if_pos hc, ih]
      · rw [if_neg hc, List.singleton_append, halved_other hc, ih]

/-- A body ends at the first quote behind which no further quote stands. -/
theorem Paired.append_inj {q : Char} {body body' rest rest' : List Char} (h : Paired q body)
    (h' : Paired q body') (hrest : rest.head? ≠ some q) (hrest' : rest'.head? ≠ some q)
    (heq : body ++ q :: rest = body' ++ q :: rest') : body = body' ∧ rest = rest' := by
  induction h generalizing body' with
  | nil =>
      rcases h' with _ | ⟨_⟩ | ⟨hc, _⟩
      · exact ⟨rfl, (List.cons.inj heq).2⟩
      · -- the quote behind the empty body would be the first of two
        refine absurd ?_ hrest
        rw [(List.cons.inj heq).2]
        rfl
      · exact absurd (List.cons.inj heq).1.symm hc
  | quote _ ih =>
      rcases h' with _ | ⟨rest⟩ | ⟨hc, _⟩
      · refine absurd ?_ hrest'
        rw [← (List.cons.inj heq).2]
        rfl
      · obtain ⟨rfl, htail⟩ := ih rest (List.cons.inj (List.cons.inj heq).2).2
        exact ⟨rfl, htail⟩
      · exact absurd (List.cons.inj heq).1.symm hc
  | other hc _ ih =>
      rcases h' with _ | ⟨_⟩ | ⟨_, rest⟩
      · exact absurd (List.cons.inj heq).1 hc
      · exact absurd (List.cons.inj heq).1 hc
      · obtain ⟨rfl, htail⟩ := ih rest (List.cons.inj heq).2
        exact ⟨by rw [(List.cons.inj heq).1], htail⟩

/-! ## Segments -/

/-- A star, or a body between quotes in which every quote is doubled. -/
inductive IsSegment (q : Char) : List Char → Prop
  | star : IsSegment q ['*']
  | quoted {body : List Char} (h : Paired q body) : IsSegment q (q :: (body ++ [q]))

/-- The part for which a segment stands: its body with the quotes halved, the star for itself. -/
def unquoted (q : Char) (segment : List Char) : List Char :=
  if segment = ['*'] then segment else halved q segment.tail.dropLast

theorem isSegment_quotePart (q : Char) (part : List Char) : IsSegment q (quotePart q part) := by
  unfold quotePart
  split
  · next hstar =>
      rw [hstar]
      exact .star
  · exact .quoted (paired_doubled q part)

theorem unquoted_quotePart {q : Char} (hq : q ≠ '*') (part : List Char) :
    unquoted q (quotePart q part) = part := by
  unfold quotePart
  split
  · next hstar => rw [unquoted, if_pos hstar]
  · have hne : q :: doubled q part ++ [q] ≠ ['*'] := by
      intro h
      exact hq (List.cons.inj h).1
    rw [unquoted, if_neg hne, List.cons_append, List.tail_cons, List.dropLast_concat, halved_doubled]

/-- A segment ends where no quote follows. -/
theorem IsSegment.append_inj {q : Char} (hq : q ≠ '*') {segment segment' rest rest' : List Char}
    (h : IsSegment q segment) (h' : IsSegment q segment') (hrest : rest.head? ≠ some q)
    (hrest' : rest'.head? ≠ some q) (heq : segment ++ rest = segment' ++ rest') :
    segment = segment' ∧ rest = rest' := by
  rcases h with _ | ⟨hbody⟩ <;> rcases h' with _ | ⟨hbody'⟩
  · exact ⟨rfl, (List.cons.inj heq).2⟩
  · exact absurd (List.cons.inj heq).1.symm hq
  · exact absurd (List.cons.inj heq).1 hq
  · simp only [List.cons_append, List.append_assoc, List.nil_append, List.cons.injEq,
      true_and] at heq
    obtain ⟨rfl, htail⟩ := hbody.append_inj hbody' hrest hrest' heq
    exact ⟨rfl, htail⟩

/-! ## Joined segments -/

/-- Segments, each with a mark in front of it. -/
def marked (mark : List Char) (segments : List (List Char)) : List Char :=
  segments.flatMap (mark ++ ·)

/-- What stands in front of an alias. -/
def asMark : List Char := [' ', 'A', 'S', ' ']

/-- Segments with points between them and aliases behind them. -/
def joined (segments labels : List (List Char)) : List Char :=
  List.intercalate ['.'] segments ++ marked asMark labels

theorem marked_cons (mark segment : List Char) (rest : List (List Char)) :
    marked mark (segment :: rest) = mark ++ (segment ++ marked mark rest) := by
  rw [marked, List.flatMap_cons, List.append_assoc]
  rfl

theorem joined_cons (segment : List Char) (others labels : List (List Char)) :
    joined (segment :: others) labels
      = segment ++ (marked ['.'] others ++ marked asMark labels) := by
  rw [joined, ← List.append_assoc]
  congr 1
  induction others generalizing segment with
  | nil => simp [marked, List.intercalate]
  | cons next rest ih => rw [List.intercalate_cons_cons, ih, marked_cons, List.append_assoc]

section Reading

variable {q : Char} (hq : isQuote q = true)

include hq

theorem ne_of_isQuote {c : Char} (hc : isQuote c = false) : q ≠ c := by
  rintro rfl
  rw [hq] at hc
  cases hc

variable {c : Char} (hc : isQuote c = false) {rest rest' : List Char} (hrest : rest.head? ≠ some q)
  (hrest' : rest'.head? ≠ some q)

include hc hrest

theorem head?_marked_ne (mark : List Char) (segments : List (List Char)) :
    (marked (c :: mark) segments ++ rest).head? ≠ some q := by
  rcases segments with _ | ⟨segment, others⟩
  · exact hrest
  · intro h
    exact ne_of_isQuote hq hc (Option.some.inj h).symm

include hrest'

/-- Marked segments end where the mark ends. -/
theorem marked_inj {mark : List Char} {segments segments' : List (List Char)}
    (h : ∀ s ∈ segments, IsSegment q s) (h' : ∀ s ∈ segments', IsSegment q s)
    (hend : rest.head? ≠ some c) (hend' : rest'.head? ≠ some c)
    (heq : marked (c :: mark) segments ++ rest = marked (c :: mark) segments' ++ rest') :
    segments = segments' ∧ rest = rest' := by
  induction segments generalizing segments' with
  | nil =>
      rcases segments' with _ | ⟨segment', others'⟩
      · exact ⟨rfl, heq⟩
      · exact absurd (congrArg List.head? heq) hend
  | cons segment others ih =>
      rcases segments' with _ | ⟨segment', others'⟩
      · exact absurd (congrArg List.head? heq).symm hend'
      · obtain ⟨hsegment, hothers⟩ := List.forall_mem_cons.1 h
        obtain ⟨hsegment', hothers'⟩ := List.forall_mem_cons.1 h'
        simp only [marked_cons, List.append_assoc, List.append_cancel_left_eq] at heq
        obtain ⟨rfl, htail⟩ := hsegment.append_inj (ne_of_isQuote hq (by decide)) hsegment'
          (head?_marked_ne hq hc hrest mark others) (head?_marked_ne hq hc hrest' mark others') heq
        obtain ⟨rfl, hend⟩ := ih hothers hothers' htail
        exact ⟨rfl, hend⟩

omit hc hrest hrest'

theorem head?_labels_ne (labels : List (List Char)) : (marked asMark labels).head? ≠ some q := by
  rw [← List.append_nil (marked asMark labels)]
  exact head?_marked_ne hq (by decide) (by simp) _ labels

/-- What stands behind the first segment has one reading. -/
theorem behind_inj {others others' labels labels' : List (List Char)}
    (hothers : ∀ s ∈ others, IsSegment q s) (hothers' : ∀ s ∈ others', IsSegment q s)
    (hlabels : ∀ s ∈ labels, IsSegment q s) (hlabels' : ∀ s ∈ labels', IsSegment q s)
    (heq : marked ['.'] others ++ marked asMark labels
      = marked ['.'] others' ++ marked asMark labels') : others = others' ∧ labels = labels' := by
  have hpoint : ∀ labels : List (List Char), (marked asMark labels).head? ≠ some '.' := by
    rintro (_ | ⟨label, rest⟩)
    · simp [marked]
    · exact fun h => absurd (Option.some.inj h) (by decide)
  obtain ⟨rfl, hmarked⟩ := marked_inj hq (by decide) (head?_labels_ne hq labels)
    (head?_labels_ne hq labels') hothers hothers' (hpoint labels) (hpoint labels') heq
  rw [← List.append_nil (marked asMark labels), ← List.append_nil (marked asMark labels')] at hmarked
  obtain ⟨rfl, -⟩ := marked_inj hq (by decide) (by simp) (by simp) hlabels hlabels' (by simp) (by simp)
    hmarked
  exact ⟨rfl, rfl⟩

/-- Labels alone begin with a blank, which no segment does. -/
theorem IsSegment.append_ne_joined_nil {segment rest : List Char} (h : IsSegment q segment)
    (labels : List (List Char)) : segment ++ rest ≠ joined [] labels := by
  intro heq
  rcases labels with _ | ⟨label, others⟩
  · rcases h with _ | ⟨_⟩ <;> cases heq
  · rcases h with _ | ⟨_⟩
    · cases heq
    · exact ne_of_isQuote hq (by decide : isQuote ' ' = false) (List.cons.inj heq).1

/-- **A text has no more than one reading** as segments joined by points with aliases behind them. -/
theorem joined_inj {segments segments' labels labels' : List (List Char)} (hne : segments ≠ [])
    (h : ∀ s ∈ segments ++ labels, IsSegment q s) (h' : ∀ s ∈ segments' ++ labels', IsSegment q s)
    (heq : joined segments labels = joined segments' labels') :
    segments = segments' ∧ labels = labels' := by
  obtain ⟨segment, others, rfl⟩ := List.exists_cons_of_ne_nil hne
  obtain ⟨hsegments, hlabels⟩ := List.forall_mem_append.1 h
  obtain ⟨hsegment, hothers⟩ := List.forall_mem_cons.1 hsegments
  obtain ⟨hsegments', hlabels'⟩ := List.forall_mem_append.1 h'
  rw [joined_cons] at heq
  rcases segments' with _ | ⟨segment', others'⟩
  · exact absurd heq (hsegment.append_ne_joined_nil hq labels')
  · obtain ⟨hsegment', hothers'⟩ := List.forall_mem_cons.1 hsegments'
    rw [joined_cons] at heq
    obtain ⟨rfl, htail⟩ := hsegment.append_inj (ne_of_isQuote hq (by decide)) hsegment'
      (head?_marked_ne hq (by decide) (head?_labels_ne hq labels) [] others)
      (head?_marked_ne hq (by decide) (head?_labels_ne hq labels') [] others') heq
    obtain ⟨rfl, rfl⟩ := behind_inj hq hothers hothers' hlabels hlabels' htail
    exact ⟨rfl, rfl⟩

end Reading

/-! ## Outside of quotes -/

/-- The characters that stand outside of quotes, the quotes themselves left out. -/
def outside (span : Span) : List Char → List Char
  | [] => []
  | c :: cs =>
    (if span = none ∧ span.next c = none then [c] else []) ++ outside (span.next c) cs

theorem outside_append (span : Span) (xs ys : List Char) :
    outside span (xs ++ ys) = outside span xs ++ outside (span.after xs) ys := by
  induction xs generalizing span with
  | nil => rfl
  | cons c rest ih => rw [List.cons_append, outside, outside, ih, Span.after_cons, List.append_assoc]

theorem Neutral.outside_append {xs : List Char} (h : Neutral xs) (ys : List Char) :
    outside none (xs ++ ys) = outside none xs ++ outside none ys := by
  rw [Sql.outside_append, h.closed]

/-- What is left of a part outside of quotes: the star, or nothing. -/
def bare (part : List Char) : List Char :=
  if part = ['*'] then part else []

section Outside

variable {q : Char} (hq : isQuote q = true)

include hq

theorem outside_doubled (part : List Char) : outside (some q) (doubled q part) = [] := by
  induction part with
  | nil => rfl
  | cons c rest ih =>
      rw [doubled_cons]
      by_cases hc : c = q
      · -- the quotes close and open again, and are left out both times
        subst hc
        simp [outside, Span.next, hq, ih]
      · simp [outside, Span.next, hc, ih]

theorem outside_quotePart (part : List Char) : outside none (quotePart q part) = bare part := by
  unfold quotePart bare
  split
  · next hstar =>
      rw [hstar]
      rfl
  · have hopen : Span.next none q = some q := by
      simp [Span.next, hq]
    rw [List.cons_append, outside, hopen, Sql.outside_append, outside_doubled hq,
      (scan_doubled hq part).1]
    simp [outside, Span.next]

theorem outside_marked {mark : List Char} (hmark : Neutral mark) (hplain : outside none mark = mark)
    (parts : List (List Char)) (rest : List Char) :
    outside none (marked mark (parts.map (quotePart q)) ++ rest)
      = marked mark (parts.map bare) ++ outside none rest := by
  induction parts with
  | nil => rfl
  | cons part others ih =>
      rw [List.map_cons, List.map_cons, marked_cons, marked_cons, List.append_assoc, List.append_assoc,
        hmark.outside_append, hplain, (neutral_quotePart hq part).outside_append,
        outside_quotePart hq, ih, List.append_assoc, List.append_assoc]

theorem outside_joined {parts : List (List Char)} (hne : parts ≠ []) (labels : List (List Char)) :
    outside none (joined (parts.map (quotePart q)) (labels.map (quotePart q)))
      = joined (parts.map bare) (labels.map bare) := by
  obtain ⟨part, others, rfl⟩ := List.exists_cons_of_ne_nil hne
  have hlabels : outside none (marked asMark (labels.map (quotePart q)) ++ [])
      = marked asMark (labels.map bare) ++ [] :=
    outside_marked hq ⟨by decide, by decide⟩ (by decide) labels []
  rw [List.append_nil, List.append_nil] at hlabels
  rw [List.map_cons, List.map_cons, joined_cons, joined_cons,
    (neutral_quotePart hq part).outside_append, outside_quotePart hq,
    outside_marked hq ⟨by decide, by decide⟩ (by decide), hlabels]

end Outside

/-! ## References -/

/-- The text is a reference between quotes: the segments stand for the parts of the name and the
    quoted labels for the labels, no other reading gives the text, and nothing else stands outside of
    quotes. -/
structure Quoted (q : Char) (reference text name : List Char)
    (labels segments quoted : List (List Char)) : Prop where
  aliased : Aliased (Text.trim reference) name labels
  setApart : SetApart reference name labels
  length_le : quoted.length ≤ 2
  text_eq : text = joined segments quoted
  isSegment : ∀ s ∈ segments ++ quoted, IsSegment q s
  parts_eq : segments.map (unquoted q) = name.splitOn '.'
  labels_eq : quoted.map (unquoted q) = labels
  unique : ∀ segments' quoted', (∀ s ∈ segments' ++ quoted', IsSegment q s) →
    text = joined segments' quoted' → segments' = segments ∧ quoted' = quoted
  outside_eq : outside none text = joined ((name.splitOn '.').map bare) (labels.map bare)
  neutral : Neutral text

theorem exists_quoted {q : Char} (hq : isQuote q = true) (reference : List Char)
    (h : '(' ∉ reference) : ∃ name labels segments quoted,
      Quoted q reference (quoteColumn q reference) name labels segments quoted := by
  obtain ⟨name, labels, haliased, hlength, hcolumn⟩ := exists_aliased q reference h
  have hparts : name.splitOn '.' ≠ [] := List.splitOnP_ne_nil _ _
  have hstar : q ≠ '*' := ne_of_isQuote hq (by decide)
  have htext : quoteColumn q reference
      = joined ((name.splitOn '.').map (quotePart q)) (labels.map (quotePart q)) := by
    rw [hcolumn, quoteDotted, joined, marked, List.flatMap_map]
    rfl
  have hsegments : ∀ s ∈ (name.splitOn '.').map (quotePart q) ++ labels.map (quotePart q),
      IsSegment q s := by
    intro s hs
    rw [← List.map_append] at hs
    obtain ⟨part, -, rfl⟩ := List.mem_map.1 hs
    exact isSegment_quotePart q part
  have hback : ∀ parts : List (List Char), (parts.map (quotePart q)).map (unquoted q) = parts := by
    intro parts
    rw [List.map_map]
    exact List.map_id'' (fun part => unquoted_quotePart hstar part) parts
  refine ⟨name, labels, _, _, {
    aliased := haliased
    setApart := ?_
    length_le := by rwa [List.length_map]
    text_eq := htext
    isSegment := hsegments
    parts_eq := hback _
    labels_eq := hback _
    unique := ?_
    outside_eq := by rw [htext, outside_joined hq hparts]
    neutral := neutral_quoteColumn hq reference h }⟩
  · obtain ⟨front, back, heq, hfront, hback⟩ := Text.exists_trim reference
    rw [heq]
    exact (haliased.setApart.front hfront).back hback
  · intro segments' quoted' hsegments' heq
    rw [htext] at heq
    obtain ⟨hs, hl⟩ := joined_inj hq (by simp [hparts]) hsegments hsegments' heq
    exact ⟨hs.symm, hl.symm⟩

/-- **No character of a reference without a parenthesis escapes its quotes**: the text written for it
    reads back, in one way only, as the parts of its name and its aliases. -/
theorem exists_quoted_column (d : Dialect) (reference : String) (h : '(' ∉ reference.toList) :
    ∃ name labels segments quoted,
      Quoted d.identifierQuote reference.toList (d.column reference).toList name labels segments
        quoted := by
  rw [Dialect.column, String.toList_ofList]
  exact exists_quoted (isQuote_identifierQuote d) reference.toList h

/-- A star, a quote and two aliases, one behind a blank and one behind `as`. -/
theorem exists_quoted_column_two_aliases :
    Dialect.postgres.column " shop.to\"tal.* sum As \"all\" "
        = "\"shop\".\"to\"\"tal\".* AS \"sum\" AS \"\"\"all\"\"\""
      ∧ '(' ∉ " shop.to\"tal.* sum As \"all\" ".toList
      ∧ ∃ name labels segments quoted,
        Quoted Dialect.postgres.identifierQuote " shop.to\"tal.* sum As \"all\" ".toList
          (Dialect.postgres.column " shop.to\"tal.* sum As \"all\" ").toList name labels segments
          quoted :=
  ⟨by decide +kernel, by decide, exists_quoted_column .postgres _ (by decide)⟩

end QueryKit.Sql
