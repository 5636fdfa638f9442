import QueryKit.Builder.Clauses
import QueryKit.Sql.Select
set_option autoImplicit false

/-! # Scopes and snapshots

A scope is registered under a name and applied once, when the query is taken. Where conditions of
scopes meet conditions of the caller and either side uses OR, each side becomes one condition, so that
neither widens the other. Taking the query changes nothing about the builder. -/

namespace QueryKit

namespace Draft

/-- Replaces the conditions by two groups: the first `count` of them and the others. -/
def splitWheres (d : Draft) (count : Nat) : Draft :=
  { d with
    wheres :=
      [⟨.and, Sql.group d.dialect (d.wheres.take count)⟩,
        ⟨.and, Sql.group d.dialect (d.wheres.drop count)⟩] }

/-- Keeps the first `count` conditions and those added after them apart, if OR could mix them. -/
def isolate (d : Draft) (count : Nat) : Draft :=
  if 0 < count && count < d.wheres.length && d.hasOr then d.splitWheres count else d

/-- Makes the change of a scope unless the scope has been removed by then. -/
def applyScope (d : Draft) (scope : String × Scope) : Draft :=
  if d.removedScopes.contains scope.1 then d else scope.2 d

/-- Applies scopes in order, once. -/
def applyScopes (d : Draft) (scopes : List (String × Scope)) : Draft :=
  if d.scopesApplied then d
  else (scopes.foldl applyScope { d with scopesApplied := true }).isolate d.wheres.length

/-- Makes all conditions one condition if any of them is joined by OR, so that conditions added later
    narrow the whole list. -/
def groupWheres (d : Draft) : Draft :=
  if d.hasOr then { d with wheres := [⟨.and, Sql.group d.dialect d.wheres⟩] } else d

/-- The query of a draft. A window of the rows is taken in an order that the primary key decides
    last. -/
def snapshot (d : Draft) : Query :=
  let ordered := if d.isPaginated then d.ensureKeyOrder else d
  { ordered.toQuery with bindings := ordered.buckets.all }

/-- The query of a draft without fault. -/
def query? (d : Draft) : Except Error Query :=
  match d.fault with
  | some f => .error (.validation f)
  | none => .ok d.snapshot

end Draft

/-- The change that calls on a builder make to a draft. While it is made, scopes can be registered
    and removed, but those registered are never applied. -/
def Scope.ofCalls (body : Builder → Builder) : Scope := fun d =>
  let after := body { draft := d, scopes := d.lateScopes.map fun name => (name, id) }
  { after.draft with lateScopes := after.scopes.map Prod.fst }

namespace Builder

/-- Registers a scope, in place of one of the same name. -/
def scope (b : Builder) (name : String) (change : Scope) : Builder :=
  { b with scopes := b.scopes.filter (·.1 != name) ++ [(name, change)] }

/-- Removes the scope of a name, whether it is registered yet or not. -/
def withoutScope (b : Builder) (name : String) : Builder :=
  b.modify fun d => { d with removedScopes := d.removedScopes ++ [name] }

/-- Removes all scopes that are registered. -/
def withoutScopes (b : Builder) : Builder :=
  b.modify fun d => { d with removedScopes := d.removedScopes ++ b.scopes.map Prod.fst }

/-- Makes all conditions one condition if any of them is joined by OR. -/
def groupWheres (b : Builder) : Builder :=
  b.modify Draft.groupWheres

/-- The query that the builder describes, its scopes applied. A fault of a call, or of a call that a
    scope makes, is an error. -/
def toQuery (b : Builder) : Except Error Query :=
  match b.draft.fault with
  | some f => .error (.validation f)
  | none => (b.draft.applyScopes b.scopes).query?

/-- The read that the builder describes. -/
def toSql (b : Builder) : Except Error Statement :=
  b.toQuery.map (Sql.compileSelect b.dialect)

/-- The read with literals for its values. -/
def toInlineSql (b : Builder) : Except Error String :=
  b.toQuery.map (Sql.inlineSelect b.dialect)

end Builder

end QueryKit
