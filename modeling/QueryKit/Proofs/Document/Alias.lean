import QueryKit.Proofs.Document.Reads
import QueryKit.Proofs.Document.Rows
import QueryKit.Proofs.Sql.Aliases

set_option autoImplicit false

/-! # Documents under an alias

A query can give its table an alias and qualify its columns by that (`Query.Readdressed`). The columns
become the same fields as before, as a qualifier may be the alias as well as the name of the table
(`Readdressed.fieldOf_eq`), and so does all that is made of them. What is not the same is the collection
that the command is sent to, which is the reference with the alias in it. -/

namespace QueryKit

namespace Document

/-! ## Names and references -/

/-- A name without blanks and points. -/
structure IsSimple (name : String) : Prop where
  solid : Text.Solid name.toList
  no_point : '.' ∉ name.toList

theorem isSimple_iff {name : String} : IsSimple name
    ↔ (!name.toList.isEmpty && name.toList.all fun c => !Text.isBlank c && c != '.') = true := by
  simp only [Bool.and_eq_true, Bool.not_eq_true', List.isEmpty_eq_false_iff, List.all_eq_true,
    bne_iff_ne]
  constructor
  · intro h
    exact ⟨h.solid.ne_nil, fun c hc => ⟨h.solid.no_blank c hc, fun heq => h.no_point (heq ▸ hc)⟩⟩
  · rintro ⟨hne, hall⟩
    exact ⟨⟨hne, fun c hc => (hall c hc).1⟩, fun hpoint => (hall '.' hpoint).2 rfl⟩

instance (name : String) : Decidable (IsSimple name) :=
  decidable_of_iff _ isSimple_iff.symm

theorem splitQualifier?_qualified {name : String} (h : '.' ∉ name.toList) (column : String) :
    splitQualifier? (name ++ "." ++ column) = some (name, column) := by
  have htoList : (name ++ "." ++ column).toList = name.toList ++ '.' :: column.toList := by
    rw [String.toList_append, String.toList_append, List.append_assoc]
    rfl
  have hname : ∀ c ∈ name.toList, (c != '.') = true := by
    intro c hc
    rw [bne_iff_ne]
    rintro rfl
    exact h hc
  have hbehind : ('.' :: column.toList).dropWhile (· != '.') = '.' :: column.toList := rfl
  have hfront : ('.' :: column.toList).takeWhile (· != '.') = [] := rfl
  simp only [splitQualifier?, htoList, List.dropWhile_append_of_pos hname,
    List.takeWhile_append_of_pos hname, hbehind, hfront, List.append_nil, String.ofList_toList]

theorem tableName_of_solid {table : String} (h : Text.Solid table.toList) :
    tableName table = table := by
  rw [tableName, h.words_eq]
  exact String.ofList_toList

theorem tableName_as {table : String} (h : Text.Solid table.toList) (label : String) :
    tableName (table ++ " as " ++ label) = table := by
  have htoList : (table ++ " as " ++ label).toList
      = table.toList ++ ' ' :: ('a' :: 's' :: ' ' :: label.toList) := by
    rw [String.toList_append, String.toList_append, List.append_assoc]
    rfl
  rw [tableName, htoList, h.words_append_cons (by decide)]
  exact String.ofList_toList

/-! ## Columns under an alias -/

/-- The second column is the first one as it can be written when the table has an alias: with the alias
    for its qualifier, or as it stands, unless it is qualified by the name that is the alias now. -/
inductive Readdressed (table label : String) : String → String → Prop
  | bare {column : String} (h : '.' ∉ column.toList) :
      Readdressed table label column (label ++ "." ++ column)
  | own (column : String) :
      Readdressed table label (table ++ "." ++ column) (label ++ "." ++ column)
  | kept {column : String} (h : qualifier? column ≠ some label) :
      Readdressed table label column column

/-- The second query has the table of the first one under an alias, and the same key. -/
structure UnderAlias (table label : String) (q q' : Query) : Prop where
  isSimple_table : IsSimple table
  isSimple_label : IsSimple label
  table_eq : q.table = table
  table_eq' : q'.table = table ++ " as " ++ label
  primaryKey_eq : q'.primaryKey = q.primaryKey

section Fields

variable {table label : String} {q q' : Query}

theorem UnderAlias.ownsQualifier_eq (h : UnderAlias table label q q') (name : String) :
    ownsQualifier q name = (name == table)
      ∧ ownsQualifier q' name = (name == label || name == table) := by
  rw [ownsQualifier, ownsQualifier, h.table_eq, h.table_eq',
    Sql.tableReference_of_solid h.isSimple_table.solid,
    Sql.tableReference_as h.isSimple_table.solid h.isSimple_label.solid,
    tableName_of_solid h.isSimple_table.solid, tableName_as h.isSimple_table.solid, Bool.or_self]
  exact ⟨rfl, rfl⟩

theorem UnderAlias.bareField_eq (h : UnderAlias table label q q') (column : String) :
    bareField q' column = bareField q column := by
  rw [bareField, bareField, h.primaryKey_eq]

theorem UnderAlias.fieldOf_label (h : UnderAlias table label q q') (column : String) :
    fieldOf q' (label ++ "." ++ column) = bareField q column := by
  obtain ⟨-, hown⟩ := h.ownsQualifier_eq label
  simp only [fieldOf, splitQualifier?_qualified h.isSimple_label.no_point, hown, h.bareField_eq,
    beq_self_eq_true, Bool.true_or, if_true]

/-- **A column is the same field under an alias.** -/
theorem Readdressed.fieldOf_eq {column column' : String}
    (hcolumn : Readdressed table label column column') (h : UnderAlias table label q q') :
    fieldOf q' column' = fieldOf q column := by
  cases hcolumn with
  | bare hbare =>
    rw [h.fieldOf_label, fieldOf, splitQualifier?_eq_none hbare]
  | own rest =>
    obtain ⟨hown, -⟩ := h.ownsQualifier_eq table
    rw [h.fieldOf_label]
    simp only [fieldOf, splitQualifier?_qualified h.isSimple_table.no_point, hown, beq_self_eq_true,
      if_true]
  | kept hkept =>
    cases hsplit : splitQualifier? column with
    | none => simp only [fieldOf, hsplit, h.bareField_eq]
    | some parts =>
      obtain ⟨name, rest⟩ := parts
      -- the alias is the one qualifier that is the query's own only now
      have hname : name ≠ label := by
        rintro rfl
        exact hkept (by rw [qualifier?, hsplit]; rfl)
      obtain ⟨hown, hown'⟩ := h.ownsQualifier_eq name
      simp only [fieldOf, hsplit, hown, hown', h.bareField_eq, beq_false_of_ne hname, Bool.false_or]

end Fields

/-! ## Queries under an alias -/

section Relations

variable (R : String → String → Prop)

/-- The conditions are the same but for their columns. Text in SQL can be any. -/
inductive ConditionRel : Condition → Condition → Prop
  | compare {column column' : String} (h : R column column') (op : String) (value : Value) :
      ConditionRel (.compare column op value) (.compare column' op value)
  | oneOf {column column' : String} (h : R column column') (values : List Value) (negated : Bool) :
      ConditionRel (.oneOf column values negated) (.oneOf column' values negated)
  | isNull {column column' : String} (h : R column column') (negated : Bool) :
      ConditionRel (.isNull column negated) (.isNull column' negated)
  | between {column column' : String} (h : R column column') (low high : Value) (negated : Bool) :
      ConditionRel (.between column low high negated) (.between column' low high negated)
  | raw (sql sql' : String) (values : List Value) : ConditionRel (.raw sql values) (.raw sql' values)
  | nested (sql sql' : String) (values : List Value) :
      ConditionRel (.nested sql values) (.nested sql' values)
  | compareColumns {left left' right right' : String} (hleft : R left left') (op : String)
      (hright : R right right') :
      ConditionRel (.compareColumns left op right) (.compareColumns left' op right')

/-- The selected entries are the same but for their columns. The star is none of them: behind a qualifier
    it is the name of a field. -/
inductive EntryRel : SelectColumn → SelectColumn → Prop
  | star : EntryRel .star .star
  | column {name name' : String} (hstar : name ≠ "*") (h : R name name') :
      EntryRel (.column name) (.column name')
  | raw (sql sql' : String) (values : List Value) : EntryRel (.raw sql values) (.raw sql' values)

/-- The order keys are the same but for their columns. -/
inductive OrderRel : Order → Order → Prop
  | column {name name' : String} (h : R name name') (direction : Direction) :
      OrderRel (.column name direction) (.column name' direction)
  | raw (sql sql' : String) (values : List Value) : OrderRel (.raw sql values) (.raw sql' values)

end Relations

/-- The values are the same but for the columns that they are for. -/
abbrev ValuesReaddressed (table label : String) (values values' : List (String × Value)) : Prop :=
  List.Forall₂ (fun v v' => Readdressed table label v.1 v'.1 ∧ v'.2 = v.2) values values'

/-- The second query is the first one with an alias for its table, any of whose columns are written with
    the alias. Neither has joins. Of the group conditions only the number is the same. -/
structure QueryReaddressed (table label : String) (q q' : Query) : Prop
    extends UnderAlias table label q q' where
  columns : List.Forall₂ (EntryRel (Readdressed table label)) q.columns q'.columns
  distinct : q'.distinct = q.distinct
  wheres : List.Forall₂ (fun w w' => w'.connective = w.connective
    ∧ ConditionRel (Readdressed table label) w.condition w'.condition) q.wheres q'.wheres
  joins : q.joins = []
  joins' : q'.joins = []
  groups : List.Forall₂ (Readdressed table label) q.groups q'.groups
  havings : q'.havings.length = q.havings.length
  orders : List.Forall₂ (OrderRel (Readdressed table label)) q.orders q'.orders
  limit : q'.limit = q.limit
  offset : q'.offset = q.offset
  lock : q'.lock = q.lock

/-! ## Commands under an alias -/

section Commands

variable {table label : String} {q q' : Query}

theorem fieldTest_eq (h : UnderAlias table label q q') {c c' : Condition}
    (hc : ConditionRel (Readdressed table label) c c') : fieldTest q' c' = fieldTest q c := by
  cases hc with
  | compare hcolumn | oneOf hcolumn | isNull hcolumn | between hcolumn =>
    rw [fieldTest, fieldTest, hcolumn.fieldOf_eq h]
  | raw | nested | compareColumns => rfl

theorem filterOf_eq (h : QueryReaddressed table label q q') : filterOf q' = filterOf q := by
  have htests : q'.wheres.mapM (fun w => (fieldTest q' w.condition).map fun t => (w.connective, t))
      = q.wheres.mapM fun w => (fieldTest q w.condition).map fun t => (w.connective, t) := by
    refine (mapM_eq_mapM_of_forall₂ (h.wheres.imp ?_)).symm
    rintro w w' ⟨hconnective, hcondition⟩
    rw [hconnective, fieldTest_eq h.toUnderAlias hcondition]
  rw [filterOf, filterOf, htests]

/-- No other column becomes the star. -/
theorem Readdressed.ne_star {name name' : String} (h : Readdressed table label name name')
    (hstar : name ≠ "*") : name' ≠ "*" := by
  cases h with
  | bare | own =>
    intro heq
    have hpoint := congrArg (fun s : String => '.' ∈ s.toList) heq
    simp at hpoint
  | kept => exact hstar

theorem projectionOf_eq (h : UnderAlias table label q q') {columns columns' : List SelectColumn}
    (hcolumns : List.Forall₂ (EntryRel (Readdressed table label)) columns columns') :
    projectionOf q' columns' = projectionOf q columns := by
  induction hcolumns with
  | nil => rfl
  | cons hentry _ ih =>
    cases hentry with
    | star | raw => rfl
    | @column name name' hstar hname =>
      rw [projectionOf, projectionOf, beq_false_of_ne hstar, beq_false_of_ne (hname.ne_star hstar), ih,
        hname.fieldOf_eq h]

theorem mapM_sortKey_eq (h : QueryReaddressed table label q q') :
    q'.orders.mapM (sortKey q') = q.orders.mapM (sortKey q) := by
  refine (mapM_eq_mapM_of_forall₂ (h.orders.imp ?_)).symm
  rintro _ _ (⟨hname, direction⟩ | _)
  · rw [sortKey, sortKey, hname.fieldOf_eq h.toUnderAlias]
  · rfl

theorem documentOf_eq (h : UnderAlias table label q q') {values values' : List (String × Value)}
    (hvalues : ValuesReaddressed table label values values') :
    documentOf q' values' = documentOf q values := by
  have hfields : values'.map (fun v => (fieldOf q' v.1, v.2.toJson))
      = values.map fun v => (fieldOf q v.1, v.2.toJson) := by
    induction hvalues with
    | nil => rfl
    | cons hv _ ih => rw [List.map_cons, List.map_cons, ih, hv.1.fieldOf_eq h, hv.2]
  exact congrArg Json.ofFields hfields

/-- The command for another collection. -/
def Command.sentTo (collection : String) (c : Command) : Command := { c with collection }

theorem isEmpty_eq_of_length_eq {α β : Type} {xs : List α} {ys : List β}
    (h : xs.length = ys.length) : xs.isEmpty = ys.isEmpty := by
  rw [Bool.eq_iff_iff, List.isEmpty_iff_length_eq_zero, List.isEmpty_iff_length_eq_zero, h]

theorem compileFind_eq (h : QueryReaddressed table label q q') :
    compileFind q' = (compileFind q).map (·.sentTo q'.table) := by
  simp only [compileFind, h.distinct, isEmpty_eq_of_length_eq h.groups.length_eq.symm,
    isEmpty_eq_of_length_eq h.havings, h.lock, projectionOf_eq h.toUnderAlias h.columns,
    mapM_sortKey_eq h, h.joins, h.joins', List.mapM_nil, filterOf_eq h, h.limit, h.offset, map_bind]
  rfl

theorem compileCount_eq (h : QueryReaddressed table label q q') :
    compileCount q' = (compileCount q).map (·.sentTo q'.table) := by
  rw [compileCount, compileCount, compileFind_eq h]
  cases compileFind q <;> rfl

theorem compileUpdate_eq (h : QueryReaddressed table label q q')
    {values values' : List (String × Value)} (hvalues : ValuesReaddressed table label values values') :
    compileUpdate q' values' = (compileUpdate q values).map (·.sentTo q'.table) := by
  simp only [compileUpdate, isEmpty_eq_of_length_eq hvalues.length_eq.symm, h.joins, h.joins',
    filterOf_eq h, documentOf_eq h.toUnderAlias hvalues]
  cases values.isEmpty with
  | true => rfl
  | false => cases filterOf q <;> rfl

theorem compileDelete_eq (h : QueryReaddressed table label q q') :
    compileDelete q' = (compileDelete q).map (·.sentTo q'.table) := by
  simp only [compileDelete, h.joins, h.joins', filterOf_eq h, map_bind]
  rfl

end Commands

/-- What is asked of a document store. -/
inductive Request
  | find
  | count
  | write (m : Mutation)

/-- The command of a request. -/
def Request.toCommand (q : Query) : Request → Except Error Command
  | .find => compileFind q
  | .count => compileCount q
  | .write m => m.toCommand q

/-- The second request is the first one, any of whose columns are written with the alias. -/
inductive RequestReaddressed (table label : String) : Request → Request → Prop
  | find : RequestReaddressed table label .find .find
  | count : RequestReaddressed table label .count .count
  | update {values values' : List (String × Value)}
      (h : ValuesReaddressed table label values values') :
      RequestReaddressed table label (.write (.update values)) (.write (.update values'))
  | delete : RequestReaddressed table label (.write .delete) (.write .delete)

variable {table label : String} {q q' : Query} {r r' : Request}

theorem toCommand_eq (h : QueryReaddressed table label q q')
    (hr : RequestReaddressed table label r r') :
    r'.toCommand q' = (r.toCommand q).map (·.sentTo q'.table) := by
  cases hr with
  | find => exact compileFind_eq h
  | count => exact compileCount_eq h
  | update hvalues => exact compileUpdate_eq h hvalues
  | delete => exact compileDelete_eq h

/-- A command is sent to the reference of the query as it is written. -/
theorem collection_of_toCommand {c : Command} (h : r.toCommand q = .ok c) : c.collection = q.table := by
  cases r with
  | find => exact (collection_and_projection_of_compileFind h).1
  | count =>
    cases hfind : compileFind q with
    | error e =>
      rw [Request.toCommand, compileCount, hfind] at h
      cases h
    | ok found =>
      rw [Request.toCommand, compileCount, hfind] at h
      cases h
      show found.collection = q.table
      exact (collection_and_projection_of_compileFind hfind).1
  | write m =>
    obtain ⟨-, -, f, -, rfl⟩ := Mutation.toCommand_eq_ok_iff.1 h
    cases m <;> rfl

theorem as_ne_table (table label : String) : table ++ " as " ++ label ≠ table := by
  intro heq
  have hlength := congrArg String.length heq
  rw [String.length_append, String.length_append] at hlength
  have has : " as ".length = 4 := rfl
  omega

/-- **An alias changes the collection of a command, and nothing else.** If the table of a query without
    joins gets an alias, and any of its columns, as those that an update sets, are written with the
    alias, then the command is the same but for its collection, and what is refused is refused for the
    same reason. The collection is the reference with the alias in it, so no command is the same. -/
theorem alias_changes_collection_only (h : QueryReaddressed table label q q')
    (hr : RequestReaddressed table label r r') :
    r'.toCommand q' = (r.toCommand q).map (·.sentTo (table ++ " as " ++ label))
      ∧ ∀ c, r.toCommand q = .ok c → c.collection = table ∧ r'.toCommand q' ≠ .ok c := by
  have hcommand := toCommand_eq h hr
  rw [h.table_eq'] at hcommand
  refine ⟨hcommand, fun c hc => ?_⟩
  have hcollection : c.collection = table := (collection_of_toCommand hc).trans h.table_eq
  refine ⟨hcollection, fun hsame => ?_⟩
  rw [hcommand, hc] at hsame
  have hsent : table ++ " as " ++ label = c.collection :=
    congrArg Command.collection (Except.ok.inj hsame)
  exact as_ne_table table label (hsent.trans hcollection)

/-- A query whose table gets an alias, by which some of its columns are qualified. -/
theorem alias_changes_collection_only_users :
    ∃ (q q' : Query) (c : Command),
      q =
        { table := "users"
          columns := [.column "id", .column "users.name", .column "meta.lang"]
          wheres := [⟨.and, .compare "users.id" ">" (.int 1)⟩, ⟨.or, .isNull "email" false⟩]
          orders := [.column "name" .descending] }
      ∧ q' =
        { table := "users as u"
          columns := [.column "u.id", .column "u.name", .column "meta.lang"]
          wheres := [⟨.and, .compare "u.id" ">" (.int 1)⟩, ⟨.or, .isNull "email" false⟩]
          orders := [.column "u.name" .descending] }
      ∧ compileFind q = .ok c ∧ c.options.projection = some ["_id", "name", "meta.lang"]
      ∧ c.collection = "users" ∧ compileFind q' = .ok (c.sentTo "users as u")
      ∧ compileFind q' ≠ .ok c := by
  have hid : Readdressed "users" "u" "id" "u.id" := .bare (by decide)
  have hname : Readdressed "users" "u" "name" "u.name" := .bare (by decide)
  have hquery : QueryReaddressed "users" "u"
      { table := "users"
        columns := [.column "id", .column "users.name", .column "meta.lang"]
        wheres := [⟨.and, .compare "users.id" ">" (.int 1)⟩, ⟨.or, .isNull "email" false⟩]
        orders := [.column "name" .descending] }
      { table := "users as u"
        columns := [.column "u.id", .column "u.name", .column "meta.lang"]
        wheres := [⟨.and, .compare "u.id" ">" (.int 1)⟩, ⟨.or, .isNull "email" false⟩]
        orders := [.column "u.name" .descending] } :=
    { isSimple_table := by decide
      isSimple_label := by decide
      table_eq := rfl
      table_eq' := rfl
      primaryKey_eq := rfl
      columns := .cons (.column (by decide) hid) (.cons (.column (by decide) (.own "name"))
        (.cons (.column (by decide) (.kept (by decide))) .nil))
      distinct := rfl
      wheres := .cons ⟨rfl, .compare (.own "id") ">" (.int 1)⟩
        (.cons ⟨rfl, .isNull (.kept (by decide)) false⟩ .nil)
      joins := rfl
      joins' := rfl
      groups := .nil
      havings := rfl
      orders := .cons (.column hname .descending) .nil
      limit := rfl
      offset := rfl
      lock := rfl }
  obtain ⟨hsame, hother⟩ := alias_changes_collection_only hquery .find
  obtain ⟨hcollection, hne⟩ := hother _ rfl
  exact ⟨_, _, _, rfl, rfl, rfl, rfl, hcollection, hsame, hne⟩

end Document

end QueryKit
