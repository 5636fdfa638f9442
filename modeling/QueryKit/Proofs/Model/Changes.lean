import QueryKit.Model.Record
import QueryKit.Proofs.Row.Basic
import QueryKit.Proofs.Value.Sameness

set_option autoImplicit false

/-! # Changes of records

A record holds as changed the columns whose values are not the same as those of the row that it came from
or was last accepted as (`Record.get?_dirty`), and that row with these columns set is the present one, but
for the spelling of equal numbers (`Row.exists_get?_pushAll_changes`). What stands for no number is not the
same as itself, though: a column that holds it is changed from the start, and stays so when the record is
accepted (`Record.isDirty_of_accepted`). So changes are exact for all runs of writes
(`Record.changes_exact_unless_nan`), and a record without changes is one without such a column. -/

namespace QueryKit

/-! ## What differs between rows -/

/-- The same value, or an equal one. -/
theorem Value.same_of_agrees {w v : Value} (h : w = v ∨ w.same v = true) : w.same v = !v.hasNaN := by
  rcases h with rfl | h
  · exact w.same_self
  · rw [h, hasNaN_of_same w v h, Bool.not_false]

theorem Value.itemsHaveNaN_eq_any (vs : List Value) : itemsHaveNaN vs = vs.any hasNaN := by
  induction vs with
  | nil => rfl
  | cons v rest ih => rw [itemsHaveNaN, ih, List.any_cons]

namespace Row

/-- Some value holds what stands for no number. -/
def hasNaN (row : Row) : Bool :=
  Value.itemsHaveNaN row.values

/-- The columns of a row that an earlier one does not have, or has with another value. -/
def changes (before now : Row) : List (String × Value) :=
  now.entries.filter fun (column, v) => Record.differs before column v

variable {before now : Row}

theorem nodup_changes (before now : Row) : (Assoc.keys (changes before now)).Nodup :=
  (List.filter_sublist.map Prod.fst).nodup now.nodup

theorem differs_iff {column : String} {v : Value} : Record.differs before column v = true
    ↔ ∀ old, before.get? column = some old → old.same v = false := by
  unfold Record.differs
  cases before.get? column <;> simp

theorem mem_changes_iff {column : String} {v : Value} : (column, v) ∈ changes before now
    ↔ now.get? column = some v ∧ ∀ old, before.get? column = some old → old.same v = false := by
  rw [changes, List.mem_filter, get?_eq_some_iff, differs_iff]

/-- Setting what has changed leads to the present columns, in their order. -/
theorem columns_pushAll_changes (h : before.columns <+: now.columns) :
    (before.pushAll (changes before now)).columns = now.columns := by
  obtain ⟨added, hadded⟩ := h
  have hnew : (Assoc.keys (changes before now)).filter (· ∉ before.columns)
      = now.columns.filter (· ∉ before.columns) := by
    simp only [changes, columns, Assoc.keys, List.filter_map, List.filter_filter]
    refine congrArg (List.map Prod.fst) (List.filter_congr fun entry _ => ?_)
    by_cases hmem : entry.1 ∈ before.entries.map Prod.fst
    · simp [hmem]
    · have hget : before.get? entry.1 = none := Assoc.get?_eq_none_of_notMem hmem
      simp [Record.differs, hget]
  have hdisjoint : ∀ column ∈ added, column ∉ before.columns := by
    have hnodup : now.columns.Nodup := now.nodup
    rw [← hadded, List.nodup_append'] at hnodup
    exact fun column hmem hbefore => hnodup.2.2 hbefore hmem
  calc (before.pushAll (changes before now)).columns
      = before.columns ++ (Assoc.keys (changes before now)).filter (· ∉ before.columns) := by
        rw [columns, entries_pushAll]
        exact Assoc.keys_setAll (nodup_changes before now) before.entries
    _ = before.columns ++ added := by
        rw [hnew, ← hadded, List.filter_append, List.filter_eq_nil_iff.2 (by simp), List.nil_append,
          List.filter_eq_self.2 (by simpa using hdisjoint)]
    _ = now.columns := hadded

/-- Setting what has changed leads to the present values, or to equal ones. -/
theorem exists_get?_pushAll_changes {column : String} {v : Value} (h : now.get? column = some v) :
    ∃ w, (before.pushAll (changes before now)).get? column = some w ∧ (w = v ∨ w.same v = true) := by
  have hnodup := nodup_changes before now
  have hget : (before.pushAll (changes before now)).get? column
      = (Assoc.get? column (changes before now)).or (before.get? column) := by
    rw [get?, entries_pushAll, Assoc.get?_setAll,
      ← Assoc.get?_of_perm (List.reverse_perm (changes before now)).symm hnodup, get?]
  rw [hget]
  cases hchange : Assoc.get? column (changes before now) with
  | some w =>
      have hw := (mem_changes_iff.1 (Assoc.mem_of_get? hchange)).1
      rw [h, Option.some.injEq] at hw
      exact ⟨w, rfl, .inl hw.symm⟩
  | none =>
      -- a column that has not changed was there before, with a value that is the same
      have hsame : ¬ ∀ old, before.get? column = some old → old.same v = false := by
        intro hdiffers
        have hmem := (Assoc.get?_eq_some_iff hnodup).2 (mem_changes_iff.2 ⟨h, hdiffers⟩)
        rw [hchange] at hmem
        cases hmem
      simp only [not_forall, Bool.not_eq_false] at hsame
      obtain ⟨old, hold, hsame⟩ := hsame
      exact ⟨old, hold, .inr hsame⟩

theorem sameItems_of_agree {xs ys : Assoc Value} (hkeys : Assoc.keys xs = Assoc.keys ys)
    (hnodup : (Assoc.keys ys).Nodup)
    (h : ∀ column v, Assoc.get? column ys = some v →
      ∃ w, Assoc.get? column xs = some w ∧ (w = v ∨ w.same v = true)) :
    Value.sameItems (xs.map Prod.snd) (ys.map Prod.snd)
      = !Value.itemsHaveNaN (ys.map Prod.snd) := by
  induction ys generalizing xs with
  | nil =>
      cases xs with
      | nil => rfl
      | cons _ _ => cases hkeys
  | cons entry ys ih =>
      obtain ⟨n, v⟩ := entry
      cases xs with
      | nil => cases hkeys
      | cons other xs =>
          obtain ⟨m, w⟩ := other
          obtain ⟨rfl, hrest⟩ := List.cons.inj hkeys
          obtain ⟨hnot, hnodup⟩ := List.nodup_cons.1 hnodup
          have hfirst : w.same v = !v.hasNaN := by
            obtain ⟨w', hw', hagrees⟩ := h m v (if_pos rfl)
            rw [Assoc.get?, if_pos rfl, Option.some.injEq] at hw'
            exact Value.same_of_agrees (hw' ▸ hagrees)
          -- the first name is not looked up again, so the rest agrees without the first entries
          have htail := ih hrest hnodup fun column v' hv' => by
            have hne : m ≠ column := by
              rintro rfl
              exact hnot (List.mem_map.2 ⟨_, Assoc.mem_of_get? hv', rfl⟩)
            have hv := h column v' (by rwa [Assoc.get?, if_neg hne])
            rwa [Assoc.get?, if_neg hne] at hv
          rw [List.map_cons, List.map_cons, Value.sameItems, Value.itemsHaveNaN, hfirst, htail,
            Bool.not_or]

/-- Setting what has changed leads to a row that is the same as the present one, unless that is not the
    same as itself. -/
theorem same_pushAll_changes (h : before.columns <+: now.columns) :
    (before.pushAll (changes before now)).same now = !now.hasNaN := by
  have hcolumns := columns_pushAll_changes h
  have hitems := sameItems_of_agree hcolumns now.nodup fun _ _ hv => exists_get?_pushAll_changes hv
  rw [same, beq_iff_eq.2 hcolumns, Bool.true_and]
  exact hitems

end Row

/-! ## Records -/

namespace Record

theorem entries_dirty (r : Record) : r.dirty.entries = Row.changes r.stored r.attributes :=
  Row.entries_ofList (Row.nodup_changes r.stored r.attributes)

/-- A column has changed if the stored row does not have it, or has it with another value. -/
theorem get?_dirty (r : Record) (column : String) (v : Value) : r.dirty.get? column = some v
    ↔ r.attributes.get? column = some v
      ∧ ∀ old, r.stored.get? column = some old → old.same v = false := by
  rw [Row.get?_eq_some_iff, entries_dirty, Row.mem_changes_iff]

/-- **A record whose row has just been accepted has changed where its values are not the same as
    themselves.** -/
theorem isDirty_of_accepted {r : Record} (h : r.stored = r.attributes) :
    r.isDirty = r.attributes.hasNaN := by
  have hchanged : r.dirty.entries = r.attributes.entries.filter fun entry => entry.2.hasNaN := by
    rw [entries_dirty, h]
    refine List.filter_congr fun (column, v) hentry => ?_
    have hget : r.attributes.get? column = some v := Row.get?_eq_some_iff.2 hentry
    simp [differs, hget, v.same_self]
  rw [isDirty, Row.isEmpty, hchanged, Row.hasNaN, Value.itemsHaveNaN_eq_any, Row.values, List.any_map,
    Bool.eq_iff_iff]
  simp

/-! ## Runs -/

/-- What can be done to the attributes of a record. -/
inductive Change
  | set (column : String) (v : Value)
  | sync

/-- Writes a value. -/
def Change.isSet : Change → Bool
  | .set .. => true
  | .sync => false

/-- Does something to a record. -/
def Change.run : Change → Record → Record
  | .set column v, r => r.set column v
  | .sync, r => r.sync

/-- The record of a row after changes. -/
def changed (model : Model) (row : Row) (changes : List Change) : Record :=
  changes.foldl (fun r change => change.run r) (ofRow model row)

/-- The values that changes write, as they are written to the columns of a model. -/
def written (model : Model) (changes : List Change) : List (String × Value) :=
  changes.filterMap fun
    | .set column v => some (column, mutated model column v)
    | .sync => none

/-- The row with all values that changes write. -/
def writtenRow (model : Model) (row : Row) (changes : List Change) : Row :=
  row.pushAll (written model changes)

/-- The changes up to the last time that the record was accepted. -/
def accepted (changes : List Change) : List Change :=
  changes.rdropWhile Change.isSet

variable (model : Model) (row : Row) (changes : List Change)

theorem writtenRow_concat (change : Change) : writtenRow model row (changes ++ [change])
    = (writtenRow model row changes).pushAll (written model [change]) := by
  rw [writtenRow, written, List.filterMap_append, Row.pushAll, List.foldl_append]
  rfl

theorem model_changed : (changed model row changes).model = model := by
  induction changes using List.reverseRecOn with
  | nil => rfl
  | append_singleton changes change ih =>
      rw [changed, List.foldl_append, ← changed]
      cases change with
      | set column v => exact ih
      | sync => exact ih

/-- The attributes are those of the row with all that has been written. -/
theorem attributes_changed : (changed model row changes).attributes = writtenRow model row changes := by
  induction changes using List.reverseRecOn with
  | nil => rfl
  | append_singleton changes change ih =>
      rw [writtenRow_concat, ← ih, changed, List.foldl_append, ← changed]
      cases change with
      | set column v =>
          show (changed model row changes).attributes.push column
            (mutated (changed model row changes).model column v) = _
          rw [model_changed]
          rfl
      | sync => rfl

/-- The stored row is that with all that had been written when the record was accepted last. -/
theorem stored_changed :
    (changed model row changes).stored = writtenRow model row (accepted changes) := by
  induction changes using List.reverseRecOn with
  | nil => rfl
  | append_singleton changes change ih =>
      rw [changed, List.foldl_append, ← changed]
      cases change with
      | set column v => rw [accepted, List.rdropWhile_concat_pos _ _ _ rfl, ← accepted, ← ih]; rfl
      | sync =>
          rw [accepted, List.rdropWhile_concat_neg _ _ _ Bool.false_ne_true, writtenRow_concat,
            ← attributes_changed]
          rfl

theorem columns_accepted_prefix :
    (writtenRow model row (accepted changes)).columns <+: (writtenRow model row changes).columns := by
  obtain ⟨later, hlater⟩ := List.rdropWhile_prefix Change.isSet changes
  have hrow : writtenRow model row changes
      = (writtenRow model row (accepted changes)).pushAll (written model later) := by
    conv_lhs => rw [← hlater]
    rw [writtenRow, written, List.filterMap_append, Row.pushAll, List.foldl_append]
    rfl
  rw [hrow, Row.columns, Row.columns, Row.entries_pushAll]
  exact Assoc.keys_prefix_setAll _ _

/-- **The changes of a record are exact, except for values that are not the same as themselves.** -/
theorem changes_exact_unless_nan :
    let record := changed model row changes
    let before := writtenRow model row (accepted changes)
    let now := writtenRow model row changes
    record.attributes = now
      ∧ (∀ column v, record.dirty.get? column = some v
          ↔ now.get? column = some v ∧ ∀ old, before.get? column = some old → old.same v = false)
      ∧ (before.pushAll record.dirty.entries).columns = now.columns
      ∧ (∀ column v, now.get? column = some v →
          ∃ w, (before.pushAll record.dirty.entries).get? column = some w
            ∧ (w = v ∨ w.same v = true))
      ∧ (before.pushAll record.dirty.entries).same now = !now.hasNaN
      ∧ (ofRow model row).isDirty = row.hasNaN
      ∧ record.sync.isDirty = now.hasNaN := by
  intro record before now
  have hnow : record.attributes = now := attributes_changed model row changes
  have hbefore : record.stored = before := stored_changed model row changes
  have hchanges : record.dirty.entries = Row.changes before now := by
    rw [entries_dirty, hnow, hbefore]
  have hprefix : before.columns <+: now.columns := columns_accepted_prefix model row changes
  refine ⟨hnow, fun column v => ?_, ?_, fun column v hv => ?_, ?_, isDirty_of_accepted rfl, ?_⟩
  · rw [get?_dirty, hnow, hbefore]
  · rw [hchanges]
    exact Row.columns_pushAll_changes hprefix
  · rw [hchanges]
    exact Row.exists_get?_pushAll_changes hv
  · rw [hchanges]
    exact Row.same_pushAll_changes hprefix
  · rw [isDirty_of_accepted rfl]
    exact congrArg Row.hasNaN hnow

/-- A column that holds no number is changed as soon as the record is there. -/
example :
    (ofRow { name := "User", table := "users" } (Row.ofList [("ratio", .float .nan)])).isDirty = true := by
  decide +kernel

end Record

end QueryKit
