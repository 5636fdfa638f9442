import QueryKit.Proofs.Sql.Emission

set_option autoImplicit false

/-! # Layout of statements

A statement is a list of texts with its placeholders between them. The texts do not depend on how
the placeholders are written: numbered for a dialect, from any index on, as markers or as literals. The
placeholder between two texts is that of the binding at its place, whatever clause bound it, although
emissions put their placeholders into the text themselves (`placeholders_match_bindings`). -/

namespace QueryKit.Sql

/-! ## Texts between holes -/

/-- Texts with fillings between them, as far as there are both. -/
def weave : List String → List String → String
  | [], _ => ""
  | piece :: _, [] => piece
  | piece :: pieces, filling :: fillings => piece ++ filling ++ weave pieces fillings

theorem weave_modifyHead (s : String) (pieces fillings : List String) (h : pieces ≠ []) :
    weave (pieces.modifyHead (s ++ ·)) fillings = s ++ weave pieces fillings := by
  cases pieces with
  | nil => exact absurd rfl h
  | cons piece rest =>
      cases fillings with
      | nil => rfl
      | cons filling fillings => simp [weave, String.append_assoc]

/-- The placeholders of a dialect with these many indices, the first of them `start`. -/
def placeholders (d : Dialect) (start count : Nat) : List String :=
  (List.range count).map fun j => d.placeholder (start + j)

namespace Template

/-- The texts around the holes: one more than there are holes. -/
def pieces : Template → List String
  | [] => [""]
  | .text s :: rest => (pieces rest).modifyHead (s ++ ·)
  | .hole _ :: rest => "" :: pieces rest

theorem length_pieces (t : Template) : t.pieces.length = t.values.length + 1 := by
  induction t with
  | nil => rfl
  | cons piece rest ih =>
      cases piece with
      | text s => simpa [pieces] using ih
      | hole v => simpa [pieces] using ih

theorem pieces_ne_nil (t : Template) : t.pieces ≠ [] := by
  intro h
  have hlength := length_pieces t
  rw [h] at hlength
  simp at hlength

theorem write_eq_weave (place : Nat → Value → String) (start : Nat) (t : Template) :
    t.write place start
      = weave t.pieces ((t.values.zipIdx start).map fun p => place p.2 p.1) := by
  induction t generalizing start with
  | nil => rfl
  | cons piece rest ih =>
      cases piece with
      -- text goes in front of the first piece, a hole begins a new one
      | text s => rw [write, ih, pieces, weave_modifyHead s _ _ (pieces_ne_nil rest), values_text_cons]
      | hole v => simp [write, ih, pieces, weave]

/-- The template has these texts around holes for these values: however holes are written, its text
    is the texts with the holes between them, each written for its index and its value. -/
structure LaidOut (t : Template) (pieces : List String) (values : List Value) : Prop where
  length : pieces.length = values.length + 1
  write : ∀ (place : Nat → Value → String) (start : Nat),
    t.write place start = weave pieces ((values.zipIdx start).map fun p => place p.2 p.1)

theorem laidOut (t : Template) : t.LaidOut t.pieces t.values :=
  ⟨length_pieces t, fun place start => write_eq_weave place start t⟩

/-- Numbered from `start` on, the holes are the placeholders from that index on. -/
theorem LaidOut.numbered {t : Template} {pieces : List String} {values : List Value}
    (h : t.LaidOut pieces values) (d : Dialect) (start : Nat) :
    t.numbered d start = weave pieces (placeholders d start values.length) := by
  have hfill : (values.zipIdx start).map (fun p => d.placeholder p.2)
      = placeholders d start values.length := by
    rw [placeholders, ← Function.comp_def d.placeholder (start + ·), ← List.map_map,
      ← List.range'_eq_map_range, ← List.zipIdx_map_snd, List.map_map]
    rfl
  rw [Template.numbered, h.write, hfill]

/-- Written as literals, the holes are the literals for the values. -/
theorem LaidOut.inline {t : Template} {pieces : List String} {values : List Value}
    (h : t.LaidOut pieces values) (d : Dialect) (start : Nat) :
    t.write (fun _ v => d.literal v) start = weave pieces (values.map d.literal) := by
  have hfill : (values.zipIdx start).map (fun p => d.literal p.1) = values.map d.literal := by
    rw [← Function.comp_def d.literal Prod.fst, ← List.map_map, List.zipIdx_map_fst]
  rw [h.write, hfill]

end Template

/-! ## Requests -/

/-- What a query can be compiled to. -/
inductive Request
  | select
  | insert (rows : List Row)
  | insertReturning (row : Row)
  | upsert (rows : List Row) (u : Upsert)
  | update (values : List (String × Value))
  | delete
  | aggregate (function : Aggregate) (column : String)
  | anyRow
  | lateral (foreignKey : String) (ids : List Value)

namespace Request

/-- The statement of a request. -/
def compile (d : Dialect) (q : Query) : Request → Except Error Statement
  | .select => .ok (compileSelect d q)
  | .insert rows => compileInsert d q rows
  | .insertReturning row => compileInsertReturning d q row
  | .upsert rows u => compileUpsert d q rows u
  | .update values => compileUpdate d q values
  | .delete => compileDelete d q
  | .aggregate function column => .ok (compileAggregate d q function column)
  | .anyRow => .ok (compileExists d q)
  | .lateral foreignKey ids => compileLateral d q foreignKey ids

/-- What a request emits. -/
def emission (e : Emitter) (q : Query) : Request → ExceptT Error Emit String
  | .select => e.select q
  | .insert rows => e.insert insertVerb q rows
  | .insertReturning row => e.insertReturning q row
  | .upsert rows u => e.upsert q rows u
  | .update values => e.update q values
  | .delete => e.delete q
  | .aggregate function column => e.aggregate q function column
  | .anyRow => e.anyRow q
  | .lateral foreignKey ids => e.lateral q foreignKey ids

/-- The template of a request. -/
def template (d : Dialect) (q : Query) : Request → Except Error Template
  | .select => .ok (selectTemplate d q)
  | .insert rows => insertTemplate d insertVerb q rows
  | .insertReturning row => insertReturningTemplate d q row
  | .upsert rows u => upsertTemplate d q rows u
  | .update values => updateTemplate d q values
  | .delete => deleteTemplate d q
  | .aggregate function column => .ok (aggregateTemplate d q function column)
  | .anyRow => .ok (existsTemplate d q)
  | .lateral foreignKey ids => lateralTemplate? d q foreignKey ids

theorem emitsOrFails_emission (e : Emitter) (q : Query) (r : Request) :
    e.EmitsOrFails (r.emission e q) (r.template e.dialect q) := by
  cases r with
  | select => exact (Emitter.emits_select q).orFails
  | insert rows => exact Emitter.emitsOrFails_insert insertVerb q rows
  | insertReturning row => exact Emitter.emitsOrFails_insertReturning q row
  | upsert rows u => exact Emitter.emitsOrFails_upsert q rows u
  | update values => exact Emitter.emitsOrFails_update q values
  | delete => exact Emitter.emitsOrFails_delete q
  | aggregate function column => exact (Emitter.emits_aggregate q function column).orFails
  | anyRow => exact (Emitter.emits_anyRow q).orFails
  | lateral foreignKey ids => exact Emitter.emitsOrFails_lateral q foreignKey ids

/-- A statement is that of the template of its request. -/
theorem compile_eq_map (d : Dialect) (q : Query) (r : Request) :
    r.compile d q = (r.template d q).map (·.statement d) := by
  cases r with
  | select => exact congrArg Except.ok (compileSelect_eq d q)
  | insert rows => exact compileInsert_eq d q rows
  | insertReturning row => exact compileInsertReturning_eq d q row
  | upsert rows u => exact compileUpsert_eq d q rows u
  | update values => exact compileUpdate_eq d q values
  | delete => exact compileDelete_eq d q
  | aggregate function column => exact congrArg Except.ok (compileAggregate_eq d q function column)
  | anyRow => exact congrArg Except.ok (compileExists_eq d q)
  | lateral foreignKey ids => exact compileLateral_eq d q foreignKey ids

theorem template_of_compile {d : Dialect} {q : Query} {r : Request} {s : Statement}
    (h : r.compile d q = .ok s) : ∃ t, r.template d q = .ok t ∧ s = t.statement d := by
  rw [compile_eq_map] at h
  cases ht : r.template d q with
  | error e => simp [ht, Except.map] at h
  | ok t =>
      simp only [ht, Except.map, Except.ok.injEq] at h
      exact ⟨t, rfl, h.symm⟩

end Request

/-! ## Statements -/

/-- The statement is these texts with the placeholders of a dialect between them, one for each binding,
    the first of them with index `start`; and the template it is made from has its bindings between
    the same texts. -/
structure Renders (d : Dialect) (start : Nat) (t : Template) (pieces : List String) (s : Statement) :
    Prop where
  sql : s.sql = weave pieces (placeholders d start s.bindings.length)
  laidOut : t.LaidOut pieces s.bindings

theorem renders (d : Dialect) (start : Nat) (t : Template) :
    Renders d start t t.pieces ⟨t.numbered d start, t.values⟩ :=
  ⟨t.laidOut.numbered d start, t.laidOut⟩

/-- However placeholders are written and whatever has been bound before, the emission writes these texts
    with the placeholders of these values between them, and binds these values. -/
def Interleaves (d : Dialect) (emission : Emitter → ExceptT Error Emit String) (pieces : List String)
    (values : List Value) : Prop :=
  ∀ (mode : Mode) (offset : Nat) (bound : List Value),
    (emission { dialect := d, mode, offset }).run.run bound
      = (.ok (weave pieces ((values.zipIdx (offset + bound.length + 1)).map fun (v, index) =>
          Emitter.place { dialect := d, mode, offset } index v)), bound ++ values)

theorem interleaves (d : Dialect) {emission : Emitter → ExceptT Error Emit String} {t : Template}
    (h : ∀ mode offset,
      Emitter.EmitsOrFails { dialect := d, mode, offset } (emission { dialect := d, mode, offset })
        (.ok t)) : Interleaves d emission t.pieces t.values := by
  intro mode offset bound
  rw [h mode offset bound, Template.write_eq_weave]
  rfl

/-- **Placeholders stand for the bindings at their places**, in every statement of a query, in its text
    for reading, and in lists of conditions behind any number of placeholders. What is emitted is the
    template of the request, with what stands for its values between the same texts in every mode, and
    its values are bound in the order of the text. -/
theorem placeholders_match_bindings (d : Dialect) (q : Query) :
    (∀ (r : Request) (s : Statement), r.compile d q = .ok s →
      ∃ (t : Template) (pieces : List String), r.template d q = .ok t ∧ Renders d 1 t pieces s
        ∧ Interleaves d (r.emission · q) pieces s.bindings)
    ∧ (∃ pieces : List String,
        Renders d 1 (selectTemplate d q) pieces (compileSelect d q)
        ∧ inlineSelect d q = weave pieces ((compileSelect d q).bindings.map d.literal))
    ∧ (∀ wheres : List Where, ∃ pieces : List String,
        (∀ offset : Nat,
          Renders d (offset + 1) (wheresTemplate d wheres) pieces (compileWheres d offset wheres))
        ∧ Interleaves d (fun e => e.wheres wheres) pieces (fragment d wheres).bindings)
    ∧ ∀ havings : List Having, ∃ pieces : List String,
        (∀ offset : Nat,
          Renders d (offset + 1) (havingsTemplate d havings) pieces (compileHavings d offset havings))
        ∧ Interleaves d (fun e => e.havings havings) pieces (compileHavings d 0 havings).bindings := by
  refine ⟨?_, ?_, ?_, ?_⟩
  · intro r s h
    obtain ⟨t, ht, rfl⟩ := Request.template_of_compile h
    refine ⟨t, t.pieces, ht, renders d 1 t, interleaves d fun mode offset => ?_⟩
    have hemits := r.emitsOrFails_emission { dialect := d, mode, offset } q
    rwa [ht] at hemits
  · refine ⟨(selectTemplate d q).pieces, ?_, ?_⟩
    · rw [compileSelect_eq]
      exact renders d 1 (selectTemplate d q)
    · rw [inlineSelect_eq, compileSelect_eq]
      exact (selectTemplate d q).laidOut.inline d 1
  · refine fun wheres => ⟨(wheresTemplate d wheres).pieces, fun offset => ?_, ?_⟩
    · rw [compileWheres_eq]
      exact renders d (offset + 1) (wheresTemplate d wheres)
    · rw [fragment_eq]
      exact interleaves d fun _ _ => (Emitter.emits_wheres wheres).orFails
  · refine fun havings => ⟨(havingsTemplate d havings).pieces, fun offset => ?_, ?_⟩
    · rw [compileHavings_eq]
      exact renders d (offset + 1) (havingsTemplate d havings)
    · rw [compileHavings_eq]
      exact interleaves d fun _ _ => (Emitter.emits_havings havings).orFails

/-- An update of two columns under a raw condition with two markers, one of them between quotes. -/
theorem placeholders_match_bindings_update :
    (Request.update [("a", .bool true), ("t.b", .null)]).compile .postgres
        { table := "t", wheres := [⟨.and, .raw "c = ? OR d = '?'" [.bool false]⟩] }
      = .ok
        ⟨"UPDATE \"t\" SET \"a\" = $1, \"b\" = $2 WHERE c = $3 OR d = '?'",
          [.bool true, .null, .bool false]⟩
    ∧ ∃ (t : Template) (pieces : List String),
        (Request.update [("a", .bool true), ("t.b", .null)]).template .postgres
            { table := "t", wheres := [⟨.and, .raw "c = ? OR d = '?'" [.bool false]⟩] } = .ok t
        ∧ Renders .postgres 1 t pieces
          ⟨"UPDATE \"t\" SET \"a\" = $1, \"b\" = $2 WHERE c = $3 OR d = '?'",
            [.bool true, .null, .bool false]⟩
        ∧ Interleaves .postgres
          ((Request.update [("a", .bool true), ("t.b", .null)]).emission ·
            { table := "t", wheres := [⟨.and, .raw "c = ? OR d = '?'" [.bool false]⟩] })
          pieces [.bool true, .null, .bool false] :=
  have hcompile : (Request.update [("a", .bool true), ("t.b", .null)]).compile .postgres
      { table := "t", wheres := [⟨.and, .raw "c = ? OR d = '?'" [.bool false]⟩] }
      = .ok
        ⟨"UPDATE \"t\" SET \"a\" = $1, \"b\" = $2 WHERE c = $3 OR d = '?'",
          [.bool true, .null, .bool false]⟩ := by
    rfl
  ⟨hcompile, (placeholders_match_bindings .postgres _).1 _ _ hcompile⟩

end QueryKit.Sql
