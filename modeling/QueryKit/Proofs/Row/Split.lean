import QueryKit.Proofs.Row.Basic

set_option autoImplicit false

/-! # Rows as two lists

A row can be kept as a list of column names beside a list of values: a column and its value are then
found by their position, and nothing but the way in which both lists are changed keeps them together
(`SplitRow`). Whatever columns are set and taken out, in any order, both lists stay those of a row
(`Row.split_after`). So the names stay distinct and the lists equally long, and the lists are an ordered
map: setting a column keeps the place of every other one, and taking it out keeps their order
(`Row.split_rows_are_ordered_maps`). -/

namespace QueryKit

/-! ## Positions of names -/

namespace Assoc

variable {α : Type} {name : String} {entries : Assoc α}

/-- What a name has stands at its position. -/
theorem get?_eq_at (name : String) (entries : Assoc α) :
    get? name entries
      = ((keys entries).idxOf? name).bind fun i => (entries.map Prod.snd)[i]? := by
  induction entries with
  | nil => rfl
  | cons entry rest ih =>
      obtain ⟨n, v⟩ := entry
      simp only [get?, keys, List.map_cons, List.idxOf?_cons, beq_iff_eq]
      by_cases hname : n = name
      · simp [hname]
      · rw [if_neg hname, if_neg hname, ih]
        simp [keys, Option.bind_map]

/-- A name is set at its position. -/
theorem set_eq_at {i : Nat} (h : (keys entries).idxOf? name = some i) (value : α) :
    set name value entries = List.set entries i (name, value) := by
  induction entries generalizing i with
  | nil => cases h
  | cons entry rest ih =>
      obtain ⟨n, v⟩ := entry
      simp only [keys, List.map_cons, List.idxOf?_cons, beq_iff_eq] at h
      by_cases hname : n = name
      · rw [if_pos hname, Option.some.injEq] at h
        rw [← h, set, if_pos hname, hname, List.set_cons_zero]
      · rw [if_neg hname, Option.map_eq_some_iff] at h
        obtain ⟨j, hj, rfl⟩ := h
        rw [set, if_neg hname, ih hj, List.set_cons_succ]

/-- A name is left out at its position. -/
theorem erase_eq_at {i : Nat} (h : (keys entries).idxOf? name = some i) :
    erase name entries = entries.eraseIdx i := by
  induction entries generalizing i with
  | nil => cases h
  | cons entry rest ih =>
      obtain ⟨n, v⟩ := entry
      simp only [keys, List.map_cons, List.idxOf?_cons, beq_iff_eq] at h
      by_cases hname : n = name
      · rw [if_pos hname, Option.some.injEq] at h
        rw [← h, erase, if_pos hname, List.eraseIdx_cons_zero]
      · rw [if_neg hname, Option.map_eq_some_iff] at h
        obtain ⟨j, hj, rfl⟩ := h
        rw [erase, if_neg hname, ih hj, List.eraseIdx_cons_succ]

theorem erase_of_notMem (h : name ∉ keys entries) : erase name entries = entries := by
  induction entries with
  | nil => rfl
  | cons entry rest ih =>
      obtain ⟨n, v⟩ := entry
      rw [keys, List.map_cons, List.mem_cons, not_or] at h
      rw [erase, if_neg (Ne.symm h.1), ih h.2]

end Assoc

/-! ## Two lists -/

/-- A row as a list of column names and a list of values, which belong together by position. -/
structure SplitRow where
  columns : List String
  values : List Value

namespace SplitRow

/-- No names and no values. -/
def empty : SplitRow := ⟨[], []⟩

/-- Puts a value at the position of its column. A column without position gets one at the end. -/
def push (column : String) (value : Value) (row : SplitRow) : SplitRow :=
  match row.columns.idxOf? column with
  | some i => { row with values := row.values.set i value }
  | none => ⟨row.columns ++ [column], row.values ++ [value]⟩

/-- The value at the position of a column. -/
def get? (column : String) (row : SplitRow) : Option Value :=
  (row.columns.idxOf? column).bind fun i => row.values[i]?

/-- The value at the position of a column together with the lists without this position. -/
def take (column : String) (row : SplitRow) : Option Value × SplitRow :=
  match row.columns.idxOf? column with
  | some i => (row.values[i]?, ⟨row.columns.eraseIdx i, row.values.eraseIdx i⟩)
  | none => (none, row)

/-- The names with the values beside them, as far as both lists go. -/
def pairs (row : SplitRow) : List (String × Value) :=
  row.columns.zip row.values

end SplitRow

namespace Row

/-- The names and the values of a row as two lists. -/
def split (row : Row) : SplitRow := ⟨row.columns, row.values⟩

theorem get?_split (column : String) (row : Row) : row.split.get? column = row.get? column :=
  (Assoc.get?_eq_at column row.entries).symm

theorem split_push (column : String) (value : Value) (row : Row) :
    (row.push column value).split = row.split.push column value := by
  unfold SplitRow.push
  cases hposition : row.split.columns.idxOf? column with
  | none =>
      have hnew : column ∉ row.entries.keys := List.idxOf?_eq_none_iff.1 hposition
      simp [split, push, columns, values, Assoc.keys, Assoc.set_of_notMem hnew]
  | some i =>
      obtain ⟨hi, hcolumn, -⟩ := List.idxOf?_eq_some_iff.1 hposition
      -- the list of names is not touched, but the entry is set as a whole
      have hself : row.columns.set i column = row.columns := by
        rw [← hcolumn]
        exact List.set_getElem_self hi
      have hentries : (row.push column value).entries = List.set row.entries i (column, value) :=
        Assoc.set_eq_at hposition value
      simp only [split, columns, values, Assoc.keys, hentries, List.map_set] at hself ⊢
      rw [hself]

theorem take_split (column : String) (row : Row) :
    row.split.take column = ((row.take column).1, (row.take column).2.split) := by
  unfold SplitRow.take
  cases hposition : row.split.columns.idxOf? column with
  | none =>
      have hnot : column ∉ row.entries.keys := List.idxOf?_eq_none_iff.1 hposition
      have hget := get?_split column row
      rw [SplitRow.get?, hposition] at hget
      simp [take, ← hget, erase, split, columns, values, Assoc.erase_of_notMem hnot]
  | some i =>
      have hget := get?_split column row
      rw [SplitRow.get?, hposition] at hget
      simp [take, ← hget, erase, split, columns, values, Assoc.keys, Assoc.erase_eq_at hposition,
        List.eraseIdx_map]

theorem pairs_split (row : Row) : row.split.pairs = row.entries := by
  unfold split SplitRow.pairs columns values Assoc.keys
  rw [List.zip_map', List.map_id']

/-! ## Runs -/

/-- What can be done to a row. -/
inductive Step
  | push (column : String) (value : Value)
  | take (column : String)

/-- Does something to a row. -/
def Step.run : Step → Row → Row
  | .push column value, row => row.push column value
  | .take column, row => (row.take column).2

/-- The row that arises from the empty one. -/
def after (steps : List Step) : Row :=
  steps.foldl (fun row step => step.run row) empty

end Row

namespace SplitRow

/-- Does something to two lists. -/
def run : Row.Step → SplitRow → SplitRow
  | .push column value, row => row.push column value
  | .take column, row => (row.take column).2

/-- The lists that arise from the empty ones. -/
def after (steps : List Row.Step) : SplitRow :=
  steps.foldl (fun row step => row.run step) empty

end SplitRow

namespace Row

theorem split_run (step : Step) (row : Row) : (step.run row).split = row.split.run step := by
  cases step with
  | push column value => exact split_push column value row
  | take column => rw [SplitRow.run, take_split, Step.run]

/-- Two lists stay those of a row, whatever is done to them. -/
theorem split_after (steps : List Step) : SplitRow.after steps = (after steps).split := by
  have hempty : SplitRow.empty = empty.split := rfl
  rw [SplitRow.after, after, hempty]
  exact List.foldl_hom split fun row step => (split_run step row).symm

/-- **Two lists that are changed by position are an insertion-ordered map.** -/
theorem split_rows_are_ordered_maps (steps : List Step) :
    let row := after steps
    let lists := SplitRow.after steps
    lists = row.split
      ∧ lists.columns.Nodup
      ∧ lists.columns.length = lists.values.length
      ∧ lists.pairs = row.entries
      ∧ (∀ column value,
          (∀ other, (lists.push column value).get? other
            = if other = column then some value else row.get? other)
          ∧ (lists.push column value).columns
            = if column ∈ row.columns then row.columns else row.columns ++ [column])
      ∧ ∀ column,
          (lists.take column).1 = row.get? column
          ∧ (lists.take column).2.pairs = row.entries.filter fun entry => entry.1 != column := by
  intro row lists
  have hlists : lists = row.split := split_after steps
  rw [hlists]
  refine ⟨rfl, row.nodup, ?_, pairs_split row, fun column value => ⟨fun other => ?_, ?_⟩,
    fun column => ⟨?_, ?_⟩⟩
  · simp [split, columns, values, Assoc.keys]
  · rw [← split_push, get?_split, get?_push]
  · rw [← split_push]
    exact columns_push column value row
  · rw [take_split, take]
  · rw [take_split, pairs_split]
    exact entries_erase column row

/-- A column that is set again keeps its place, also when the one before it is taken out. -/
example :
    SplitRow.after [.push "a" (.int 1), .push "b" (.int 2), .push "c" (.int 3), .push "b" .null,
        .take "a"]
      = ⟨["b", "c"], [.null, .int 3]⟩ :=
  rfl

end Row

end QueryKit
