import QueryKit.Proofs.Sql.Layout

set_option autoImplicit false

/-! # Inserted rows

An insert names the columns of its first row and writes a tuple of placeholders for every row. Rows are
accepted if all of them have the columns of the first one (`Uniform`). Then every tuple has as many
placeholders as there are columns, so that of row `i` begins behind `i` times that number, and the value
at a place of a row is that of the column named at this place (`insert_lays_out_uniform_rows`). -/

namespace QueryKit

/-! ## Columns and values of a row -/

namespace Row

theorem length_values (row : Row) : row.values.length = row.columns.length := by
  rw [values, columns, Assoc.keys, List.length_map, List.length_map]

theorem isEmpty_iff {row : Row} : row.isEmpty = true ↔ row.columns = [] := by
  rw [isEmpty, columns, Assoc.keys, List.isEmpty_iff, List.map_eq_nil_iff]

/-- What stands at the place of a column is its value. -/
theorem getElem?_values {row : Row} {place : Nat} {column : String}
    (h : row.columns[place]? = some column) :
    ∃ v, row.values[place]? = some v ∧ row.get? column = some v := by
  rw [columns, Assoc.keys, List.getElem?_map, Option.map_eq_some_iff] at h
  obtain ⟨⟨_, v⟩, hentry, rfl⟩ := h
  refine ⟨v, ?_, (Assoc.get?_eq_some_iff row.nodup).2 (List.mem_of_getElem? hentry)⟩
  rw [values, List.getElem?_map, hentry, Option.map_some]

end Row

namespace Sql

/-! ## Values of uniform lists -/

/-- In lists of one length that follow each other, place `j` of list `i` is behind `i` whole lists. -/
theorem getElem?_flatMap_of_length {α β : Type} {f : α → List β} {m : Nat} {items : List α}
    (h : ∀ a ∈ items, (f a).length = m) {i j : Nat} {a : α} (hi : items[i]? = some a) (hj : j < m) :
    (items.flatMap f)[i * m + j]? = (f a)[j]? := by
  induction items generalizing i with
  | nil => cases hi
  | cons first rest ih =>
      obtain ⟨hfirst, hrest⟩ := List.forall_mem_cons.1 h
      rw [List.flatMap_cons]
      cases i with
      | zero =>
          cases hi
          rw [Nat.zero_mul, Nat.zero_add, List.getElem?_append_left (hfirst ▸ hj)]
      | succ i =>
          have hplace : (i + 1) * m + j = m + (i * m + j) := by
            rw [Nat.succ_mul]
            omega
          rw [List.getElem?_append_right (by omega), hfirst, hplace, Nat.add_sub_cancel_left]
          exact ih hrest hi

/-! ## Templates that are written alike -/

/-- Joined templates with `m` holes each, which are written alike from the same index on, are written
    one after another, each from the index behind the holes before it. -/
theorem Template.numbered_join {d : Dialect} (separator : String) {text : Nat → String} {m : Nat}
    {ts : List Template} (h : ∀ t ∈ ts, t.values.length = m ∧ ∀ start, t.numbered d start = text start)
    (start : Nat) :
    (join separator ts).numbered d start
      = String.intercalate separator ((List.range ts.length).map fun i => text (start + i * m)) := by
  induction ts generalizing start with
  | nil => rfl
  | cons t rest ih =>
      obtain ⟨⟨hlength, htext⟩, hrest⟩ := List.forall_mem_cons.1 h
      cases rest with
      | nil => simp [join, htext]
      | cons u rest =>
          have hnext : ∀ i, start + m + i * m = start + (i + 1) * m := by
            intro i
            rw [Nat.succ_mul]
            omega
          have htail := ih hrest (start + m)
          simp only [hnext] at htail
          have hjoin : join separator (t :: u :: rest)
              = t ++ .text separator :: join separator (u :: rest) := rfl
          rw [hjoin, numbered, write_append, write, hlength, ← numbered, ← numbered, htext, htail]
          simp [List.range_succ_eq_map, Function.comp_def, String.append_assoc]

/-! ## Tuples -/

/-- The placeholders of a tuple with these many indices between parentheses, the first of them
    `start`. -/
def tupleText (d : Dialect) (count start : Nat) : String :=
  "(" ++ String.intercalate ", " (placeholders d start count) ++ ")"

theorem values_rowTemplate (row : Row) : (rowTemplate row).values = row.values := by
  have hholes : (row.values.map Template.hole).flatMap Template.values = row.values := by
    rw [List.flatMap_map]
    exact List.flatMap_singleton' row.values
  rw [rowTemplate, Template.values_text_cons, Template.values_append, Template.values_join, hholes,
    Template.values_text, List.append_nil]

theorem numbered_rowTemplate (d : Dialect) (row : Row) (start : Nat) :
    (rowTemplate row).numbered d start = tupleText d row.columns.length start := by
  have hholes : (Template.join ", " (row.values.map Template.hole)).numbered d start
      = String.intercalate ", " (placeholders d start row.columns.length) := by
    have halike : ∀ t ∈ row.values.map Template.hole,
        t.values.length = 1 ∧ ∀ start, t.numbered d start = d.placeholder start := by
      intro t ht
      obtain ⟨v, -, rfl⟩ := List.mem_map.1 ht
      exact ⟨rfl, fun start => String.append_empty⟩
    rw [Template.numbered_join ", " halike, List.length_map, Row.length_values, placeholders]
    simp only [Nat.mul_one]
  rw [Template.numbered] at hholes
  rw [rowTemplate, Template.numbered, Template.write, Template.write_append, hholes,
    Template.write_text, tupleText, String.append_assoc]

/-! ## Uniform rows -/

/-- All rows have the columns of the first one, in the same order; a row without columns stands
    alone. -/
inductive Uniform : List Row → Prop
  | filled {first : Row} {rest : List Row} (hcolumns : first.columns ≠ [])
      (hsame : ∀ row ∈ rest, row.columns = first.columns) : Uniform (first :: rest)
  | bare {row : Row} (hcolumns : row.columns = []) : Uniform [row]

theorem firstDifferent?_eq_none_iff {columns : List String} {rows : List Row} :
    firstDifferent? columns rows = none ↔ ∀ row ∈ rows, row.columns = columns := by
  rw [firstDifferent?, Option.map_eq_none_iff, List.findIdx?_eq_none_iff]
  simp

/-- The text of an insert: the table, the columns, and as many tuples as there are rows. Without columns
    there is only the row that the dialect fills by itself. -/
def insertText (d : Dialect) (verb : String) (q : Query) (columns : List String) (count : Nat) :
    String :=
  verb ++ " " ++ d.table q.table ++ " " ++
    if columns = [] then d.defaultRow
    else
      "(" ++ String.intercalate ", " (columns.map d.identifier) ++ ") VALUES " ++
        String.intercalate ", "
          ((List.range count).map fun i => tupleText d columns.length (i * columns.length + 1))

/-- Rows of which an insert can be made are uniform. -/
theorem uniform_of_insertTemplate {d : Dialect} {verb : String} {q : Query} {rows : List Row}
    {t : Template} (h : insertTemplate d verb q rows = .ok t) : Uniform rows := by
  cases rows with
  | nil => cases h
  | cons first rest =>
      rw [insertTemplate] at h
      split at h
      · next hempty =>
        split at h
        · next hrest =>
          rw [List.isEmpty_iff.1 hrest]
          exact .bare (Row.isEmpty_iff.1 hempty)
        · cases h
      · next hempty =>
        split at h
        · cases h
        · next hsame =>
          exact .filled (fun hnil => hempty (Row.isEmpty_iff.2 hnil))
            (firstDifferent?_eq_none_iff.1 hsame)

/-- Uniform rows are inserted by a template with their values, row by row. -/
theorem insertTemplate_of_uniform (d : Dialect) (verb : String) (q : Query) {first : Row}
    {rest : List Row} (h : Uniform (first :: rest)) :
    ∃ t, insertTemplate d verb q (first :: rest) = .ok t
      ∧ t.values = (first :: rest).flatMap Row.values
      ∧ t.numbered d 1 = insertText d verb q first.columns (first :: rest).length := by
  rcases h with ⟨hcolumns, hsame⟩ | ⟨hcolumns⟩
  · have hempty : ¬first.isEmpty = true := fun hempty => hcolumns (Row.isEmpty_iff.1 hempty)
    have hall : ∀ row ∈ first :: rest, row.columns = first.columns :=
      List.forall_mem_cons.2 ⟨rfl, hsame⟩
    have halike : ∀ t ∈ (first :: rest).map rowTemplate, t.values.length = first.columns.length
        ∧ ∀ start, t.numbered d start = tupleText d first.columns.length start := by
      intro t ht
      obtain ⟨row, hrow, rfl⟩ := List.mem_map.1 ht
      rw [values_rowTemplate, Row.length_values, ← hall row hrow]
      exact ⟨rfl, numbered_rowTemplate d row⟩
    have hvalues : ((first :: rest).map rowTemplate).flatMap Template.values
        = (first :: rest).flatMap Row.values := by
      rw [List.flatMap_map]
      exact List.flatMap_congr fun row _ => values_rowTemplate row
    have htuples := Template.numbered_join ", " halike 1
    refine ⟨_, by rw [insertTemplate, if_neg hempty, firstDifferent?_eq_none_iff.2 hsame], ?_, ?_⟩
    · rw [Template.values_text_cons, Template.values_join, hvalues]
    · rw [Template.numbered, Template.write, ← Template.numbered, htuples, insertText, if_neg hcolumns,
        List.length_map]
      simp only [Nat.add_comm 1, String.append_assoc]
  · have hempty : first.isEmpty = true := Row.isEmpty_iff.2 hcolumns
    have hvalues : first.values = [] :=
      List.length_eq_zero_iff.1 (by rw [Row.length_values, hcolumns, List.length_nil])
    refine ⟨_, by rw [insertTemplate, if_pos hempty, if_pos List.isEmpty_nil], ?_, ?_⟩
    · rw [Template.values_text, List.flatMap_cons, hvalues]
      rfl
    · rw [Template.numbered, Template.write_text, insertText, if_pos hcolumns]

/-- The columns of a row among uniform ones are those of the first. -/
theorem Uniform.columns_eq {first row : Row} {rest : List Row} (h : Uniform (first :: rest))
    (hrow : row ∈ first :: rest) : row.columns = first.columns := by
  rcases List.mem_cons.1 hrow with rfl | hrow
  · rfl
  · rcases h with ⟨-, hsame⟩ | ⟨-⟩
    · exact hsame row hrow
    · cases hrow

/-- **An insert is made of uniform rows exactly, and lays them out row by row.** Its bindings are the
    values of the rows one after another; with `m` columns, the tuple of row `i` has the placeholders
    from `i * m + 1` to `(i + 1) * m`; and the binding for a place of that tuple is the value that the
    row has for the column named at this place. -/
theorem insert_lays_out_uniform_rows (d : Dialect) (q : Query) (rows : List Row) :
    ((∃ s, compileInsert d q rows = .ok s) ↔ Uniform rows)
      ∧ ∀ s, compileInsert d q rows = .ok s → ∃ first, rows.head? = some first
          ∧ s.sql = insertText d insertVerb q first.columns rows.length
          ∧ s.bindings = rows.flatMap Row.values
          ∧ ∀ (i j : Nat) (row : Row) (column : String), rows[i]? = some row →
              first.columns[j]? = some column →
              ∃ v, row.get? column = some v
                ∧ s.bindings[i * first.columns.length + j]? = some v := by
  have hok : ∀ {s}, compileInsert d q rows = .ok s →
      ∃ t, insertTemplate d insertVerb q rows = .ok t ∧ s = t.statement d :=
    Request.template_of_compile (r := .insert rows)
  refine ⟨⟨fun ⟨s, hs⟩ => ?_, fun h => ?_⟩, fun s hs => ?_⟩
  · obtain ⟨t, ht, -⟩ := hok hs
    exact uniform_of_insertTemplate ht
  · obtain ⟨first, rest, rfl⟩ : ∃ first rest, rows = first :: rest := by
      cases h <;> exact ⟨_, _, rfl⟩
    obtain ⟨t, ht, -, -⟩ := insertTemplate_of_uniform d insertVerb q h
    exact ⟨t.statement d, by rw [compileInsert_eq, ht]; rfl⟩
  · obtain ⟨t, ht, rfl⟩ := hok hs
    have huniform := uniform_of_insertTemplate ht
    obtain ⟨first, rest, rfl⟩ : ∃ first rest, rows = first :: rest := by
      cases huniform <;> exact ⟨_, _, rfl⟩
    obtain ⟨u, hu, hvalues, htext⟩ := insertTemplate_of_uniform d insertVerb q huniform
    obtain rfl : t = u := Except.ok.inj (ht.symm.trans hu)
    refine ⟨first, rfl, htext, hvalues, fun i j row column hrow hcolumn => ?_⟩
    have hcolumns : row.columns = first.columns := huniform.columns_eq (List.mem_of_getElem? hrow)
    obtain ⟨v, hplace, hget⟩ := Row.getElem?_values (hcolumns ▸ hcolumn)
    refine ⟨v, hget, ?_⟩
    have hlength : ∀ row ∈ first :: rest, row.values.length = first.columns.length := by
      intro row hrow
      rw [Row.length_values, huniform.columns_eq hrow]
    show t.values[_]? = _
    rw [hvalues, getElem?_flatMap_of_length hlength hrow (List.getElem?_eq_some_iff.1 hcolumn).1, hplace]

/-- A row with a column that is set twice, and one with a column that is left out and set again. -/
theorem insert_lays_out_uniform_rows_two :
    ∃ first second : Row, first = Row.ofList [("a", .int 1), ("b", .null), ("a", .int 2)]
      ∧ second = ((Row.ofList [("b", .int 3), ("a", .int 4)]).erase "b").push "b" (.int 5)
      ∧ Uniform [first, second]
      ∧ compileInsert .postgres { table := "t" } [first, second]
        = .ok
          ⟨"INSERT INTO \"t\" (\"a\", \"b\") VALUES ($1, $2), ($3, $4)",
            [.int 2, .null, .int 4, .int 5]⟩
      ∧ ∃ v, second.get? "b" = some v
        ∧ ([.int 2, .null, .int 4, .int 5] : List Value)[1 * 2 + 1]? = some v := by
  refine ⟨_, _, rfl, rfl, ?_⟩
  have hcompile : compileInsert .postgres { table := "t" }
      [Row.ofList [("a", .int 1), ("b", .null), ("a", .int 2)],
        ((Row.ofList [("b", .int 3), ("a", .int 4)]).erase "b").push "b" (.int 5)]
      = .ok
        ⟨"INSERT INTO \"t\" (\"a\", \"b\") VALUES ($1, $2), ($3, $4)",
          [.int 2, .null, .int 4, .int 5]⟩ := by
    rfl
  obtain ⟨huniform, hlaid⟩ := insert_lays_out_uniform_rows .postgres { table := "t" }
    [Row.ofList [("a", .int 1), ("b", .null), ("a", .int 2)],
      ((Row.ofList [("b", .int 3), ("a", .int 4)]).erase "b").push "b" (.int 5)]
  obtain ⟨first, hfirst, -, -, hplaces⟩ := hlaid _ hcompile
  cases hfirst
  exact ⟨huniform.1 ⟨_, hcompile⟩, hcompile, hplaces 1 1 _ "b" rfl rfl⟩

end Sql

end QueryKit
