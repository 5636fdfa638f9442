import QueryKit.Proofs.Sql.Scanning

set_option autoImplicit false

/-! # Templates written again

What a template writes depends only on its characters and its holes, in whatever pieces the characters
stand (`Template.symbols`). If a scan of a text with markers finds the holes of the template and nothing
else, then the text filled again has the symbols of the template (`Template.Scannable.symbols_fill`). So
a group writes what its conditions write, between parentheses. -/

namespace QueryKit

namespace Sql

/-- A character or a hole of a template. -/
inductive Symbol
  | char (c : Char)
  | hole (v : Value)

/-- The symbols of a text. -/
def textSymbols (s : String) : List Symbol :=
  s.toList.map .char

namespace Template

/-! ## Symbols -/

/-- The characters and the holes from left to right. -/
def symbols (t : Template) : List Symbol :=
  t.flatMap fun
    | .text s => textSymbols s
    | .hole v => [.hole v]

@[simp] theorem symbols_nil : symbols [] = [] := rfl

@[simp] theorem symbols_text_cons (s : String) (t : Template) :
    symbols (.text s :: t) = textSymbols s ++ symbols t := rfl

@[simp] theorem symbols_hole_cons (v : Value) (t : Template) :
    symbols (.hole v :: t) = .hole v :: symbols t := rfl

@[simp] theorem symbols_append (t u : Template) : symbols (t ++ u) = symbols t ++ symbols u :=
  List.flatMap_append

/-- Writes characters as they are, and a hole by its index and its value. -/
def writeSymbols (place : Nat → Value → String) (start : Nat) : List Symbol → String
  | [] => ""
  | .char c :: rest => String.singleton c ++ writeSymbols place start rest
  | .hole v :: rest => place start v ++ writeSymbols place (start + 1) rest

theorem writeSymbols_text (place : Nat → Value → String) (start : Nat) (cs : List Char)
    (rest : List Symbol) :
    writeSymbols place start (cs.map .char ++ rest)
      = String.ofList cs ++ writeSymbols place start rest := by
  induction cs with
  | nil => simp
  | cons c cs ih =>
      have hcons : String.ofList (c :: cs) = String.singleton c ++ String.ofList cs := by
        rw [← String.toList_inj]
        simp
      rw [List.map_cons, List.cons_append, writeSymbols, ih, hcons, String.append_assoc]

theorem write_eq_writeSymbols (place : Nat → Value → String) (start : Nat) (t : Template) :
    t.write place start = writeSymbols place start t.symbols := by
  induction t generalizing start with
  | nil => rfl
  | cons piece rest ih =>
      cases piece with
      | text s =>
          rw [write, ih, symbols_text_cons, textSymbols, writeSymbols_text, String.ofList_toList]
      | hole v => rw [write, ih, symbols_hole_cons, writeSymbols]

theorem values_eq_filterMap (t : Template) :
    t.values = t.symbols.filterMap fun
      | .char _ => none
      | .hole v => some v := by
  induction t with
  | nil => rfl
  | cons piece rest ih =>
      cases piece with
      | text s => simp [textSymbols, ih, List.filterMap_append, List.filterMap_map]
      | hole v => simp [ih]

/-- Templates with the same symbols are written alike for every dialect, and have the same values. -/
theorem numbered_eq_of_symbols {t u : Template} (h : t.symbols = u.symbols) (d : Dialect)
    (start : Nat) : t.numbered d start = u.numbered d start := by
  rw [numbered, numbered, write_eq_writeSymbols, h, ← write_eq_writeSymbols]

theorem values_eq_of_symbols {t u : Template} (h : t.symbols = u.symbols) : t.values = u.values := by
  rw [values_eq_filterMap, h, ← values_eq_filterMap]

/-! ## Filling a text again -/

/-- Text without markers stays as it is. -/
theorem symbols_fillFrom_append {span : Span} {cs : List Char} (h : countFrom span cs = 0)
    (rest : List Char) (vs : List Value) :
    (fillFrom span (cs ++ rest) vs).symbols
      = cs.map .char ++ (fillFrom (span.after cs) rest vs).symbols := by
  induction cs generalizing span with
  | nil => rfl
  | cons c cs ih =>
      have hmarker : span.isMarker c = false := by
        cases hc : span.isMarker c with
        | false => rfl
        | true => simp [countFrom, hc] at h
      have hrest : countFrom (span.next c) cs = 0 := by
        simpa [countFrom, hmarker] using h
      simp only [List.cons_append, fillFrom, hmarker, Bool.false_eq_true, if_false, symbols_text_cons,
        textSymbols, String.toList_singleton, List.map_cons, List.map_nil, List.nil_append,
        List.cons_append, ih hrest, Span.after_cons]

/-- If there are as many markers as holes, and no hole is inside of quotes, then every marker is that of
    a hole. -/
theorem symbols_fillFrom {span : Span} {t : Template} (h : Exposed span t)
    (hcount : countFrom span t.marked.toList = t.values.length) :
    (fillFrom span t.marked.toList t.values).symbols = t.symbols := by
  induction t generalizing span with
  | nil => rfl
  | cons piece rest ih =>
      cases piece with
      | text s =>
          rw [marked_text_cons, String.toList_append, countFrom_append, values_text_cons] at hcount
          -- the holes behind the text use up all markers
          have hle := length_values_le (span.after s.toList) rest h
          have htext : countFrom span s.toList = 0 := by omega
          have hrest : countFrom (span.after s.toList) (marked rest).toList = (values rest).length := by
            omega
          rw [marked_text_cons, String.toList_append, values_text_cons,
            symbols_fillFrom_append htext, ih h hrest, symbols_text_cons, textSymbols]
      | hole v =>
          obtain ⟨rfl, hexposed⟩ := h
          have hmarked : (marked (.hole v :: rest)).toList = '?' :: (marked rest).toList := by
            rw [marked_hole_cons, String.toList_append]
            rfl
          have hopen : Span.isMarker none '?' = true := by decide
          have hnext : Span.next none '?' = none := by decide
          rw [hmarked, countFrom, hopen, hnext, values_hole_cons, List.length_cons] at hcount
          have hrest : countFrom none (marked rest).toList = (values rest).length := by
            simp only [if_true] at hcount
            omega
          rw [hmarked, values_hole_cons, fillFrom, hopen, hnext]
          simp only [if_true]
          rw [symbols_hole_cons, ih hexposed hrest, symbols_hole_cons]

/-- A scan of the text with markers finds the holes and nothing else, and leaves no quote open. -/
structure Scannable (t : Template) : Prop extends Clean t where
  counted : countMarkers t.marked = t.values.length

namespace Scannable

theorem symbols_fill {t : Template} (h : Scannable t) :
    (fill t.marked t.values).symbols = t.symbols :=
  symbols_fillFrom h.exposed h.counted

theorem nil : Scannable [] := ⟨.nil, rfl⟩

theorem append {t u : Template} (ht : Scannable t) (hu : Scannable u) : Scannable (t ++ u) := by
  refine ⟨ht.toClean.append hu.toClean, ?_⟩
  have hclosed : Span.after none t.marked.toList = none := ht.closed
  have htcount := ht.counted
  have hucount := hu.counted
  rw [countMarkers] at htcount hucount
  rw [countMarkers, marked_append, String.toList_append, countFrom_append, hclosed, htcount, hucount,
    values_append, List.length_append]

theorem text {s : String} (h : Neutral s.toList) : Scannable (text s) := by
  refine ⟨.text_cons h.closed .nil, ?_⟩
  rw [countMarkers, Template.text, marked_text_cons, marked_nil, String.append_empty, h.unmarked]
  rfl

theorem hole (v : Value) : Scannable (hole v) :=
  ⟨.hole_cons .nil, by
    rw [Template.hole, marked_hole_cons, marked_nil, String.append_empty]
    rfl⟩

theorem text_cons {s : String} {t : Template} (hs : Neutral s.toList) (ht : Scannable t) :
    Scannable (.text s :: t) :=
  (Scannable.text hs).append ht

theorem hole_cons {v : Value} {t : Template} (ht : Scannable t) : Scannable (.hole v :: t) :=
  (Scannable.hole v).append ht

theorem fill {sql : String} {vs : List Value} (h : Closed sql) (hcount : countMarkers sql = vs.length) :
    Scannable (fill sql vs) := by
  refine ⟨.fill h vs, ?_⟩
  rw [marked_fill, values_fill, hcount, List.take_length]

theorem join {separator : String} (hseparator : Neutral separator.toList) (ts : List Template)
    (h : ∀ t ∈ ts, Scannable t) : Scannable (join separator ts) := by
  induction ts with
  | nil => exact .nil
  | cons t rest ih =>
      rw [List.forall_mem_cons] at h
      have hrest := ih h.2
      cases rest with
      | nil => exact h.1
      | cons u rest => exact h.1.append (.text_cons hseparator hrest)

theorem flatMap {α : Type} {f : α → Template} (xs : List α) (h : ∀ x ∈ xs, Scannable (f x)) :
    Scannable (xs.flatMap f) := by
  induction xs with
  | nil => exact .nil
  | cons x rest ih =>
      rw [List.forall_mem_cons] at h
      rw [List.flatMap_cons]
      exact h.1.append (ih h.2)

end Scannable

end Template

/-! ## Conditions -/

instance (cs : List Char) : Decidable (Neutral cs) :=
  decidable_of_iff (Span.after none cs = none ∧ countFrom none cs = 0)
    ⟨fun h => ⟨h.1, h.2⟩, fun h => ⟨h.closed, h.unmarked⟩⟩

theorem neutral_append {s t : String} (hs : Neutral s.toList) (ht : Neutral t.toList) :
    Neutral (s ++ t).toList := by
  rw [String.toList_append]
  exact hs.append ht

theorem neutral_operator (d : Dialect) {op : String} (h : op ∈ operators) :
    Neutral (d.operator op).toList := by
  have hall : ∀ op ∈ operators, Neutral (d.operator op).toList := by
    cases d <;> decide
  exact hall op h

theorem scannable_connected (parts : List (Connective × Template)) (h : ∀ p ∈ parts, p.2.Scannable) :
    (connected parts).Scannable := by
  cases parts with
  | nil => exact .nil
  | cons first rest =>
      rw [List.forall_mem_cons] at h
      refine h.1.append (.flatMap rest fun p hp => .text_cons ?_ (h.2 p hp))
      cases p.1 <;> decide

/-- What is written for the reference is neutral. Only references with a parenthesis can fail to be, as
    they are written as they are. -/
def NeutralReference (d : Dialect) (reference : String) : Prop :=
  '(' ∈ reference.toList → Neutral (d.column reference).toList

theorem NeutralReference.column {d : Dialect} {reference : String} (h : NeutralReference d reference) :
    Neutral (d.column reference).toList := by
  by_cases hparen : '(' ∈ reference.toList
  · exact h hparen
  · exact neutral_column d reference hparen

end Sql

namespace Condition

/-- The references to columns in a condition. -/
def references : Condition → List String
  | .compare column _ _ => [column]
  | .oneOf column _ _ => [column]
  | .isNull column _ => [column]
  | .between column _ _ _ => [column]
  | .raw .. => []
  | .nested .. => []
  | .compareColumns left _ right => [left, right]

/-- The condition leaves no quote open, and what is written for its columns holds no markers. -/
def Neutral (d : Dialect) (c : Condition) : Prop :=
  (∀ reference ∈ c.references, Sql.NeutralReference d reference)
    ∧ ∀ sql values, c = .raw sql values → Sql.Closed sql

end Condition

namespace Sql

theorem scannable_nested (d : Dialect) {fragment : String} {values : List Value} (h : Closed fragment)
    (hcount : countMarkers fragment = values.length) :
    (conditionTemplate d (.nested fragment values)).Scannable :=
  .text_cons (by decide) (.append (.fill h hcount) (.text (by decide)))

theorem scannable_conditionTemplate (d : Dialect) {c : Condition} (hvalid : c.Valid)
    (hneutral : c.Neutral d) : (conditionTemplate d c).Scannable := by
  obtain ⟨hreferences, hraw⟩ := hneutral
  have hcolumn : ∀ reference ∈ c.references, Neutral (d.column reference).toList :=
    fun reference hreference => (hreferences reference hreference).column
  cases c with
  | compare column op value =>
      have hop := neutral_operator d hvalid
      refine .text_cons ?_ (.hole value)
      exact neutral_append (neutral_append (neutral_append
        (hcolumn column (List.mem_singleton_self _)) (by decide)) hop) (by decide)
  | oneOf column values negated =>
      have hwords : Neutral (if negated then " NOT IN (" else " IN (").toList := by
        cases negated <;> decide
      refine .text_cons (neutral_append (hcolumn column (List.mem_singleton_self _)) hwords)
        (.append (.join (by decide) _ fun t ht => ?_) (.text (by decide)))
      obtain ⟨v, -, rfl⟩ := List.mem_map.1 ht
      exact .hole v
  | isNull column negated =>
      have hwords : Neutral (if negated then " IS NOT NULL" else " IS NULL").toList := by
        cases negated <;> decide
      exact .text (neutral_append (hcolumn column (List.mem_singleton_self _)) hwords)
  | between column low high negated =>
      have hwords : Neutral (if negated then " NOT BETWEEN " else " BETWEEN ").toList := by
        cases negated <;> decide
      exact .text_cons (neutral_append (hcolumn column (List.mem_singleton_self _)) hwords)
        (.hole_cons (.text_cons (by decide) (.hole high)))
  | raw sql values => exact .fill (hraw sql values rfl) hvalid
  | nested fragment values => exact hvalid.elim
  | compareColumns left op right =>
      have hop := neutral_operator d hvalid
      have hleft := hcolumn left (List.mem_cons_self ..)
      have hright := hcolumn right (List.mem_cons_of_mem _ (List.mem_singleton_self _))
      exact .text (neutral_append (neutral_append (neutral_append (neutral_append hleft (by decide)) hop)
        (by decide)) hright)

end Sql

end QueryKit
