import QueryKit.Proofs.Document.Truth
import QueryKit.Proofs.Driver.Action
import QueryKit.Proofs.Row.Basic

set_option autoImplicit false

/-! # Rows of documents

A row becomes a document whose fields are in order, with its key under a name of its own. On the way back
the key gets its name again and every value that JSON has is the value that was written, so the row comes
back but for the order of its columns (`inserted_rows_restored`).

The key of a document gets its name back in two ways: field by field (`rowOf`), and in a row that has the
name of the store (`restoreKey`). Where a document has both the stored key and a field of the name of the
primary key, the second way keeps the stored key, and the first one whatever comes last in the order of
names (`restored_rows_agree_iff`). -/

namespace QueryKit

/-! ## Values that JSON has -/

namespace Value

mutual

/-- A value that JSON has: null, a truth value, an integer, a finite floating-point number, a text, a
    JSON object, or a list of such values. -/
def IsNative : Value → Prop
  | .null => True
  | .bool _ => True
  | .int _ => True
  | .float x => x.value?.isSome = true
  | .text _ => True
  | .json (.object _) => True
  | .array items => AreNative items
  | _ => False

/-- JSON has every item. -/
def AreNative : List Value → Prop
  | [] => True
  | item :: rest => item.IsNative ∧ AreNative rest

end

mutual

/-- A value that JSON has is read back from its form. -/
theorem ofJson_toJson : ∀ v : Value, v.IsNative → ofJson v.toJson = v
  | .null, _ => rfl
  | .bool _, _ => rfl
  | .int n, _ => by
    have hread : (JsonNumber.integer n.toInt).toInt64? = some n := by
      rw [JsonNumber.toInt64?, decide_eq_true n.minValue_le_toInt, decide_eq_true n.toInt_le,
        Int64.ofInt_toInt]
      rfl
    rw [toJson, Json.int, ofJson, hread]
  | .float x, h => by
    have hfinite : x.value?.isSome = true := h
    rw [toJson, Json.float, if_pos hfinite]
    rfl
  | .text _, _ => rfl
  | .json (.object _), _ => rfl
  | .array items, h => by rw [toJson, ofJson, ofJsonItems_toJsonItems items h]

theorem ofJsonItems_toJsonItems : ∀ items : List Value, AreNative items →
    ofJsonItems (toJsonItems items) = items
  | [], _ => rfl
  | item :: rest, h => by
    rw [toJsonItems, ofJsonItems, ofJson_toJson item h.1, ofJsonItems_toJsonItems rest h.2]

end

end Value

namespace Document

/-! ## Columns of fields -/

/-- The column that a field becomes. -/
def columnOf (primaryKey field : String) : String :=
  if field == idField then primaryKey else field

/-- The columns of fields with their values, in the order of the fields. -/
def columnsOf (primaryKey : String) (fields : List (String × Json)) : List (String × Value) :=
  fields.map fun field => (columnOf primaryKey field.1, .ofJson field.2)

theorem rowOf_object (fields : List (String × Json)) (primaryKey : String) :
    rowOf (.object fields) primaryKey = Row.ofList (columnsOf primaryKey fields) := rfl

theorem columnOf_idField (primaryKey : String) : columnOf primaryKey idField = primaryKey := rfl

theorem columnOf_of_ne {field : String} (h : field ≠ idField) (primaryKey : String) :
    columnOf primaryKey field = field :=
  if_neg (by simpa using h)

theorem splitQualifier?_eq_none {column : String} (h : '.' ∉ column.toList) :
    splitQualifier? column = none := by
  have hnil : column.toList.dropWhile (· != '.') = [] := by
    rw [List.dropWhile_eq_nil_iff]
    intro c hc
    rw [bne_iff_ne]
    rintro rfl
    exact h hc
  rw [splitQualifier?, hnil]

/-- A column without a point that is not taken for the stored key is named as before. -/
theorem columnOf_fieldOf {q : Query} {column : String} (hpoint : '.' ∉ column.toList)
    (hid : column = idField → q.primaryKey = idField) :
    columnOf q.primaryKey (fieldOf q column) = column := by
  rw [fieldOf, splitQualifier?_eq_none hpoint]
  show columnOf _ (bareField q column) = column
  rw [bareField]
  split
  · next hkey => exact (beq_iff_eq.1 hkey).symm
  · next hkey =>
    refine columnOf_of_ne (fun heq => hkey ?_) _
    rw [hid heq, heq, beq_self_eq_true]

/-! ## Rows that come back -/

/-- A row that a document holds: its columns have no points and are not taken for the stored key, and
    JSON has its values. -/
def IsHeld (primaryKey : String) (row : Row) : Prop :=
  ∀ entry ∈ row.entries,
    '.' ∉ entry.1.toList ∧ (entry.1 = idField → primaryKey = idField) ∧ entry.2.IsNative

/-- A row comes back from its document but for the order of its columns. -/
theorem rowOf_documentOf {q : Query} {row : Row} (h : IsHeld q.primaryKey row) :
    (rowOf (documentOf q row.entries) q.primaryKey).entries.Perm row.entries := by
  let fields := row.entries.map fun entry => (fieldOf q entry.1, entry.2.toJson)
  have hback : columnsOf q.primaryKey fields = row.entries := by
    rw [columnsOf, List.map_map]
    refine (List.map_congr_left fun entry hentry => ?_).trans (List.map_id row.entries)
    obtain ⟨hpoint, hid, hnative⟩ := h entry hentry
    exact Prod.ext (columnOf_fieldOf hpoint hid) (Value.ofJson_toJson _ hnative)
  -- columns that come back are different, so their fields were
  have hfields : (fields.map Prod.fst).Nodup := by
    refine List.Nodup.of_map (columnOf q.primaryKey) ?_
    have hcolumns := row.nodup
    rw [← hback, Assoc.keys, columnsOf, List.map_map] at hcolumns
    rwa [List.map_map]
  have hperm : (columnsOf q.primaryKey (Json.sortFields fields)).Perm row.entries := by
    rw [← hback]
    exact (Json.sortFields_perm hfields).map _
  have hdocument : documentOf q row.entries = .object (Json.sortFields fields) := rfl
  rw [hdocument, rowOf_object, Row.entries_ofList ((hperm.map Prod.fst).nodup_iff.2 row.nodup)]
  exact hperm

/-- **Inserted rows come back.** The command of an insert has one document for every row, and the row of
    the document has the columns of that row with their values. -/
theorem inserted_rows_restored (q : Query) {rows : List Row} (hrows : rows ≠ [])
    (hheld : ∀ row ∈ rows, IsHeld q.primaryKey row) :
    ∃ command documents, compileInsert q rows = .ok command
      ∧ command.payload = some (.array documents)
      ∧ List.Forall₂ (fun row document =>
        (rowOf document q.primaryKey).entries.Perm row.entries) rows documents := by
  have hcompiled : compileInsert q rows = .ok
      { collection := q.table
        operation := .insertMany
        payload := some (.array (rows.map fun row => documentOf q row.entries)) } := by
    rw [compileInsert, if_neg (by simpa using hrows)]
  refine ⟨_, _, hcompiled, rfl, ?_⟩
  rw [List.forall₂_map_right_iff, List.forall₂_same]
  exact fun row hrow => rowOf_documentOf (hheld row hrow)

/-- A list of numbers, lists and objects comes back, and so does the key. -/
theorem inserted_rows_restored_nested :
    ∃ (q : Query) (row : Row) (command : Command) (document : Json),
      row.entries = [("name", .text "a"), ("id", .int 7),
          ("parts", .array [.float ⟨0x3ff8000000000000⟩, .array [.null, .bool true],
            .json (.object [("$ne", .null)])])]
        ∧ compileInsert q [row] = .ok command
        ∧ command.payload = some (.array [document])
        ∧ document.field? "_id" = some (.int 7)
        ∧ (rowOf document q.primaryKey).entries.Perm row.entries := by
  let row : Row := ⟨[("name", .text "a"), ("id", .int 7),
    ("parts", .array [.float ⟨0x3ff8000000000000⟩, .array [.null, .bool true],
      .json (.object [("$ne", .null)])])], by decide⟩
  have hfinite : (Binary64.mk 0x3ff8000000000000).value?.isSome = true := by decide +kernel
  have hheld : IsHeld "id" row := by
    simp [IsHeld, row, Value.IsNative, Value.AreNative, hfinite, idField]
  obtain ⟨command, documents, hcompiled, hpayload, hback⟩ :=
    inserted_rows_restored { table := "shop.items" } (List.cons_ne_nil row [])
      (List.forall_mem_singleton.2 hheld)
  cases hcompiled
  cases hpayload
  exact ⟨_, row, _, _, rfl, rfl, rfl, rfl, (List.forall₂_cons.1 hback).1⟩

/-! ## Two ways of restoring the key -/

/-- The value of a field of the name of the primary key hides the stored key: it comes behind it and is
    another value. -/
def HidesKey (primaryKey : String) (fields : List (String × Json)) : Prop :=
  ∃ id own, (idField, id) ∈ fields ∧ (primaryKey, own) ∈ fields ∧ idField < primaryKey
    ∧ Value.ofJson own ≠ Value.ofJson id

theorem get?_restoreKey {row : Row} {id : Value} (h : row.get? idField = some id)
    (primaryKey column : String) :
    (restoreKey primaryKey row).get? column
      = if column = primaryKey then some id
        else if column = idField then none else row.get? column := by
  have hrow : restoreKey primaryKey row = (row.erase idField).push primaryKey id := by
    rw [restoreKey, Row.take, h]
  rw [hrow]
  show (Assoc.set _ _ (Assoc.erase _ _)).get? column = _
  rw [Assoc.get?_set, Assoc.get?_erase row.nodup]
  rfl

section Fields

variable {primaryKey : String} {fields : List (String × Json)}

/-- What becomes of a column other than the key does not depend on the name of the key. -/
theorem get?_columnsOf {column : String} (h : column ≠ primaryKey) (fields : List (String × Json)) :
    Assoc.get? column (columnsOf primaryKey fields)
      = if column = idField then none else Assoc.get? column (columnsOf idField fields) := by
  induction fields with
  | nil => simp [columnsOf, Assoc.get?]
  | cons field rest ih =>
      obtain ⟨name, value⟩ := field
      simp only [columnsOf, List.map_cons, Assoc.get?] at ih ⊢
      rw [ih]
      by_cases hname : name = idField
      · subst hname
        rw [columnOf_idField, columnOf_idField, if_neg h.symm]
        by_cases hcolumn : column = idField
        · rw [if_pos hcolumn, if_pos hcolumn]
        · rw [if_neg hcolumn, if_neg hcolumn, if_neg (Ne.symm hcolumn)]
      · rw [columnOf_of_ne hname, columnOf_of_ne hname]
        by_cases hcolumn : column = idField
        · rw [if_pos hcolumn, if_pos hcolumn, if_neg (fun heq => hname (heq.trans hcolumn))]
        · rw [if_neg hcolumn, if_neg hcolumn]

theorem get?_rowOf_of_ne {column : String} (h : column ≠ primaryKey) :
    (rowOf (.object fields) primaryKey).get? column
      = if column = idField then none else (rowOf (.object fields) idField).get? column := by
  have hreverse (key : String) : (columnsOf key fields).reverse = columnsOf key fields.reverse :=
    List.map_reverse.symm
  rw [rowOf_object, rowOf_object, Row.get?_ofList, Row.get?_ofList, hreverse, hreverse,
    get?_columnsOf h]

theorem get?_columnsOf_eq_none {column : String}
    (h : ∀ field ∈ fields, columnOf primaryKey field.1 ≠ column) :
    Assoc.get? column (columnsOf primaryKey fields).reverse = none := by
  refine Assoc.get?_eq_none_of_notMem fun hmem => ?_
  simp only [Assoc.keys, columnsOf, List.map_reverse, List.mem_reverse, List.mem_map] at hmem
  obtain ⟨_, ⟨field, hfield, rfl⟩, heq⟩ := hmem
  exact h field hfield heq

/-- The last field that becomes a column counts. -/
theorem get?_rowOf_of_last {front back : List (String × Json)} {name column : String} {value : Json}
    (hname : columnOf primaryKey name = column)
    (h : ∀ field ∈ back, columnOf primaryKey field.1 ≠ column) :
    (rowOf (.object (front ++ (name, value) :: back)) primaryKey).get? column
      = some (.ofJson value) := by
  rw [rowOf_object, Row.get?_ofList, columnsOf, List.map_append, List.map_cons, List.reverse_append,
    List.reverse_cons, Assoc.get?_append, Assoc.get?_append, ← columnsOf, ← columnsOf,
    get?_columnsOf_eq_none h, Option.none_or, Assoc.get?, if_pos hname]
  rfl

/-- A field is followed by the greater ones. -/
theorem exists_split_of_mem (hordered : (fields.map Prod.fst).Pairwise (· < ·)) {name : String}
    {value : Json} (hmem : (name, value) ∈ fields) :
    ∃ front back, fields = front ++ (name, value) :: back ∧ ∀ field ∈ back, name < field.1 := by
  obtain ⟨front, back, rfl⟩ := List.append_of_mem hmem
  refine ⟨front, back, rfl, fun field hfield => ?_⟩
  rw [List.map_append, List.map_cons, List.pairwise_append] at hordered
  exact (List.pairwise_cons.1 hordered.2.1).1 _ (List.mem_map_of_mem hfield)

/-- A field behind the stored key that becomes the key is the key of the row. -/
theorem get?_rowOf_key_of_own (hordered : (fields.map Prod.fst).Pairwise (· < ·)) {own : Json}
    (hown : (primaryKey, own) ∈ fields) (hbehind : idField < primaryKey) :
    (rowOf (.object fields) primaryKey).get? primaryKey = some (.ofJson own) := by
  obtain ⟨front, back, rfl, hback⟩ := exists_split_of_mem hordered hown
  refine get?_rowOf_of_last (columnOf_of_ne hbehind.ne' _) fun field hfield => ?_
  have hlater := hback field hfield
  rw [columnOf_of_ne (hbehind.trans hlater).ne']
  exact hlater.ne'

/-- The stored key is the key of the row if no field behind it becomes the key. -/
theorem get?_rowOf_key_of_id (hordered : (fields.map Prod.fst).Pairwise (· < ·)) {id : Json}
    (hid : (idField, id) ∈ fields) (h : ∀ own, (primaryKey, own) ∈ fields → ¬idField < primaryKey) :
    (rowOf (.object fields) primaryKey).get? primaryKey = some (.ofJson id) := by
  obtain ⟨front, back, rfl, hback⟩ := exists_split_of_mem hordered hid
  refine get?_rowOf_of_last (columnOf_idField _) fun field hfield => ?_
  have hlater := hback field hfield
  rw [columnOf_of_ne hlater.ne']
  rintro rfl
  exact h field.2 (List.mem_append_right _ (List.mem_cons_of_mem _ hfield)) hlater

/-- The row in which the stored key gets its name back keeps it. -/
theorem get?_restoreKey_rowOf (hordered : (fields.map Prod.fst).Pairwise (· < ·)) {id : Json}
    (hid : (idField, id) ∈ fields) (primaryKey column : String) :
    (restoreKey primaryKey (rowOf (.object fields) idField)).get? column
      = if column = primaryKey then some (.ofJson id)
        else (rowOf (.object fields) primaryKey).get? column := by
  rw [get?_restoreKey (get?_rowOf_key_of_id hordered hid fun _ _ => lt_irrefl idField)]
  by_cases hcolumn : column = primaryKey
  · rw [if_pos hcolumn, if_pos hcolumn]
  · rw [if_neg hcolumn, if_neg hcolumn, get?_rowOf_of_ne hcolumn]

/-- Without a stored key nothing gets another name. -/
theorem restoreKey_rowOf_of_notMem (h : idField ∉ fields.map Prod.fst) :
    restoreKey primaryKey (rowOf (.object fields) idField) = rowOf (.object fields) primaryKey := by
  have hne : ∀ field ∈ fields, field.1 ≠ idField := fun field hfield heq =>
    h (heq ▸ List.mem_map_of_mem hfield)
  have hmissing : (rowOf (.object fields) idField).get? idField = none := by
    rw [rowOf_object, Row.get?_ofList]
    refine get?_columnsOf_eq_none fun field hfield => ?_
    rw [columnOf_of_ne (hne field hfield)]
    exact hne field hfield
  have hcolumns : columnsOf idField fields = columnsOf primaryKey fields :=
    List.map_congr_left fun field hfield => by
      rw [columnOf_of_ne (hne field hfield), columnOf_of_ne (hne field hfield)]
  rw [restoreKey, Row.take, hmissing]
  exact congrArg Row.ofList hcolumns

/-- The key of the row is the stored key, or what comes behind it. -/
theorem get?_rowOf_key (hordered : (fields.map Prod.fst).Pairwise (· < ·)) {id : Json}
    (hid : (idField, id) ∈ fields) (primaryKey : String) :
    (rowOf (.object fields) primaryKey).get? primaryKey = some (.ofJson id)
      ∨ ∃ own, (primaryKey, own) ∈ fields ∧ idField < primaryKey
        ∧ (rowOf (.object fields) primaryKey).get? primaryKey = some (.ofJson own) := by
  by_cases hbehind : ∃ own, (primaryKey, own) ∈ fields ∧ idField < primaryKey
  · obtain ⟨own, hown, hlt⟩ := hbehind
    exact .inr ⟨own, hown, hlt, get?_rowOf_key_of_own hordered hown hlt⟩
  · exact .inl (get?_rowOf_key_of_id hordered hid fun own hown hlt => hbehind ⟨own, hown, hlt⟩)

/-- With a stored key the two rows can only differ in the key, and without one they are the same. -/
theorem restoreKey_rowOf_cases (hordered : (fields.map Prod.fst).Pairwise (· < ·)) (primaryKey : String) :
    (∃ id, (idField, id) ∈ fields
        ∧ ∀ column, (restoreKey primaryKey (rowOf (.object fields) idField)).get? column
          = if column = primaryKey then some (.ofJson id)
            else (rowOf (.object fields) primaryKey).get? column)
      ∨ restoreKey primaryKey (rowOf (.object fields) idField)
        = rowOf (.object fields) primaryKey := by
  by_cases hstored : idField ∈ fields.map Prod.fst
  · obtain ⟨⟨_, id⟩, hid, rfl⟩ := List.mem_map.1 hstored
    exact .inl ⟨id, hid, get?_restoreKey_rowOf hordered hid primaryKey⟩
  · exact .inr (restoreKey_rowOf_of_notMem hstored)

/-- Both ways lead to the same row exactly if no field hides the stored key. -/
theorem perm_rowOf_iff (hordered : (fields.map Prod.fst).Pairwise (· < ·)) :
    (restoreKey primaryKey (rowOf (.object fields) idField)).entries.Perm
        (rowOf (.object fields) primaryKey).entries
      ↔ ¬HidesKey primaryKey fields := by
  rw [Assoc.perm_iff_get? (Row.nodup _) (Row.nodup _)]
  constructor
  · rintro hget ⟨id, own, hid, hown, hbehind, hne⟩
    have hrestored := get?_restoreKey_rowOf hordered hid primaryKey primaryKey
    rw [if_pos rfl] at hrestored
    have hmapped := get?_rowOf_key_of_own hordered hown hbehind
    exact hne (Option.some.inj (hmapped.symm.trans ((hget primaryKey).symm.trans hrestored)))
  · intro hkept column
    rcases restoreKey_rowOf_cases hordered primaryKey with ⟨id, hid, hrestored⟩ | hsame
    · refine (hrestored column).trans ?_
      split
      · next hcolumn =>
        rw [hcolumn]
        rcases get?_rowOf_key hordered hid primaryKey with
          hmapped | ⟨own, hown, hbehind, hmapped⟩
        · exact hmapped.symm
        · have hsame : Value.ofJson own = Value.ofJson id :=
            of_not_not fun hne => hkept ⟨id, own, hid, hown, hbehind, hne⟩
          exact (hmapped.trans (congrArg some hsame)).symm
      · rfl
    · rw [hsame]

/-- Both ways lead to the same columns. -/
theorem mem_columns_rowOf_iff (hordered : (fields.map Prod.fst).Pairwise (· < ·)) (column : String) :
    column ∈ (restoreKey primaryKey (rowOf (.object fields) idField)).columns
      ↔ column ∈ (rowOf (.object fields) primaryKey).columns := by
  rcases restoreKey_rowOf_cases hordered primaryKey with ⟨id, hid, hrestored⟩ | hsame
  · have hkey : ((rowOf (.object fields) primaryKey).get? primaryKey).isSome = true := by
      rcases get?_rowOf_key hordered hid primaryKey with hmapped | ⟨_, -, -, hmapped⟩
      · exact Option.isSome_of_eq_some hmapped
      · exact Option.isSome_of_eq_some hmapped
    rw [Row.mem_columns_iff, Row.mem_columns_iff, hrestored]
    split
    · next hcolumn =>
      rw [hcolumn]
      exact iff_of_true rfl hkey
    · rfl
  · rw [hsame]

/-- Both ways lead to the same values but for the key. -/
theorem get?_restoreKey_rowOf_of_ne (hordered : (fields.map Prod.fst).Pairwise (· < ·)) {column : String}
    (h : column ≠ primaryKey) :
    (restoreKey primaryKey (rowOf (.object fields) idField)).get? column
      = (rowOf (.object fields) primaryKey).get? column := by
  rcases restoreKey_rowOf_cases hordered primaryKey with ⟨id, hid, hrestored⟩ | hsame
  · rw [hrestored, if_neg h]
  · rw [hsame]

end Fields

/-- A read answers the rows of the store with the stored key under its name. -/
theorem runFrom_find {σ : Type} {store : Store σ} {q : Query} {command : Command} {s s' : σ}
    {result : QueryResult} (hcompiled : compileFind q = .ok command)
    (hsent : (store.send command).runFrom s = (.ok result, s')) :
    (find store q).runFrom s = (.ok (result.rows.map (restoreKey q.primaryKey)), s') := by
  rw [find, hcompiled, Action.ofExcept_ok_bind, Action.runFrom_bind, hsent]
  rfl

/-- **The two ways of restoring the key agree but for hidden keys.** Where a store answers documents as
    rows under its own name of the key, a read answers a row for each of them. Its key is the stored key
    if the document has one, and it is the row that the document becomes field by field exactly if no
    field hides the stored key; otherwise the two have the same columns and differ in the key, which is
    the hiding field there. -/
theorem restored_rows_agree_iff {σ : Type} {store : Store σ} {q : Query} {command : Command} {s s' : σ}
    {result : QueryResult} {documents : List (List (String × Json))}
    (hcompiled : compileFind q = .ok command)
    (hsent : (store.send command).runFrom s = (.ok result, s'))
    (hrows : result.rows = documents.map fun fields => rowOf (.object fields) idField)
    (hordered : ∀ fields ∈ documents, (fields.map Prod.fst).Pairwise (· < ·)) :
    ∃ rows, (find store q).runFrom s = (.ok rows, s')
      ∧ List.Forall₂ (fun fields row =>
          (row.entries.Perm (rowOf (.object fields) q.primaryKey).entries
            ↔ ¬HidesKey q.primaryKey fields)
          ∧ (∀ id, (idField, id) ∈ fields → row.get? q.primaryKey = some (.ofJson id))
          ∧ (∀ column, column ∈ row.columns
            ↔ column ∈ (rowOf (.object fields) q.primaryKey).columns)
          ∧ (∀ column, column ≠ q.primaryKey →
            row.get? column = (rowOf (.object fields) q.primaryKey).get? column)
          ∧ (∀ own, (q.primaryKey, own) ∈ fields → idField < q.primaryKey →
            (rowOf (.object fields) q.primaryKey).get? q.primaryKey = some (.ofJson own)))
        documents rows := by
  refine ⟨_, runFrom_find hcompiled hsent, ?_⟩
  rw [hrows, List.map_map, List.forall₂_map_right_iff, List.forall₂_same]
  intro fields hfields
  have hfields := hordered fields hfields
  exact ⟨perm_rowOf_iff hfields, fun id hid => (get?_restoreKey_rowOf hfields hid ..).trans (if_pos rfl),
    mem_columns_rowOf_iff hfields, fun column => get?_restoreKey_rowOf_of_ne hfields,
    fun own => get?_rowOf_key_of_own hfields⟩

/-- Of a document with the stored key 1 and the field `id` of 2, the read has the key 1 and the row made
    field by field the key 2. -/
theorem restored_rows_agree_iff_hidden :
    ∃ (store : Store Unit) (q : Query) (hidden kept : Row),
      q.primaryKey = "id" ∧ (find store q).runFrom () = (.ok [hidden, kept], ())
        ∧ hidden.get? "id" = some (.int 1)
        ∧ (rowOf (.object [("_id", .int 1), ("id", .int 2)]) "id").get? "id" = some (.int 2)
        ∧ ¬hidden.entries.Perm (rowOf (.object [("_id", .int 1), ("id", .int 2)]) "id").entries
        ∧ kept.entries.Perm (rowOf (.object [("_id", .int 1), ("name", .string "a")]) "id").entries := by
  let documents : List (List (String × Json)) :=
    [[("_id", .int 1), ("id", .int 2)], [("_id", .int 1), ("name", .string "a")]]
  let store : Store Unit :=
    ⟨fun _ => pure (QueryResult.ofRows (documents.map fun fields => rowOf (.object fields) idField))⟩
  obtain ⟨rows, hfind, hrows⟩ := @restored_rows_agree_iff Unit store { table := "t" } _ () () _ documents
    rfl rfl rfl (by decide)
  obtain ⟨hidden, rest, ⟨hagree, hkey, -, -, hown⟩, hrest, rfl⟩ := List.forall₂_cons_left_iff.1 hrows
  obtain ⟨kept, others, ⟨hagree', -⟩, hnil, rfl⟩ := List.forall₂_cons_left_iff.1 hrest
  rw [List.forall₂_nil_left_iff] at hnil
  subst hnil
  have hstored : (idField, Json.int 1) ∈ [("_id", Json.int 1), ("id", .int 2)] := List.mem_cons_self ..
  have hfield : ("id", Json.int 2) ∈ [("_id", Json.int 1), ("id", .int 2)] := by simp
  have hone : Value.ofJson (.int 1) = .int 1 := rfl
  have htwo : Value.ofJson (.int 2) = .int 2 := rfl
  refine ⟨store, _, hidden, kept, rfl, hfind, hkey _ hstored, hown _ hfield (by decide),
    fun hperm => hagree.1 hperm ⟨_, _, hstored, hfield, by decide, ?_⟩, hagree'.2 ?_⟩
  · rw [hone, htwo]
    simp
  · rintro ⟨_, own, -, hmem, -⟩
    simp at hmem

end Document

end QueryKit
