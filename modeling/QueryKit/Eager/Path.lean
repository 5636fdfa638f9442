import QueryKit.Builder.Scope
import QueryKit.Text.Quoted
set_option autoImplicit false

/-! # Relation paths

What is to be loaded is given by dotted paths of relation names. Paths with a common beginning share
it, so the paths form a tree in which siblings have different names. The last name of a path may be
constrained; a later constraint of the same path takes the place of an earlier one. -/

namespace QueryKit

/-- A narrowing of the query of a relation. -/
abbrev Constraint := Builder → Builder

/-- A relation to load, and the relations to load on what it leads to. -/
structure PathNode where
  name : String
  constraint : Option Constraint := none
  children : List PathNode := []

namespace PathNode

/-- Changes the node of a name, which is added at the end if it is not there. -/
def change (name : String) (f : PathNode → PathNode) : List PathNode → List PathNode
  | [] => [f { name }]
  | node :: rest => if node.name = name then f node :: rest else node :: change name f rest

/-- Sets a constraint if one is given. -/
def constrain (constraint : Option Constraint) (node : PathNode) : PathNode :=
  if constraint.isSome then { node with constraint } else node

/-- Adds a path to a tree. -/
def insert (constraint : Option Constraint) : List String → List PathNode → List PathNode
  | [] => id
  | [name] => change name (constrain constraint)
  | name :: rest =>
    change name fun node => { node with children := insert constraint rest node.children }

/-- A name behind the names that lead to it. -/
def joined (start name : String) : String :=
  if start.isEmpty then name else start ++ "." ++ name

mutual

/-- The paths to a node and to all below it. A node comes after those below it. -/
def paths (start : String) : PathNode → List String
  | ⟨name, _, children⟩ => allPaths (joined start name) children ++ [joined start name]

/-- The paths to nodes and to all below them. -/
def allPaths (start : String) : List PathNode → List String
  | [] => []
  | node :: rest => node.paths start ++ allPaths start rest

end

end PathNode

/-- What becomes of a limit on the related rows of each record in a dialect without lateral reads. -/
inductive LateralFallback
  /-- Loading fails. -/
  | error
  /-- The limit counts for all records together. -/
  | unbounded
  /-- One statement is sent for every record. -/
  | perParent
deriving DecidableEq, Repr

/-- The name of a fallback. -/
def LateralFallback.name : LateralFallback → String
  | .error => "Error"
  | .unbounded => "Unbounded"
  | .perParent => "PerParent"

/-- What is to be loaded, and how. -/
structure EagerLoader where
  nodes : List PathNode := []
  fallback : LateralFallback := .error
  /-- The first path that was malformed. -/
  malformed : Option String := none

namespace EagerLoader

/-- The names of a path, with the blanks around them removed. -/
def segments (path : String) : List String :=
  (path.toList.splitOn '.').map fun part => String.ofList (Text.trim part)

/-- Adds a path. A path with a blank name adds nothing and is remembered as malformed. -/
def addPath (loader : EagerLoader) (path : String) (constraint : Option Constraint) : EagerLoader :=
  let names := segments path
  if names.any String.isEmpty then
    { loader with malformed := some (loader.malformed.getD path) }
  else { loader with nodes := PathNode.insert constraint names loader.nodes }

/-- Loads a path. -/
def path (loader : EagerLoader) (path : String) : EagerLoader :=
  loader.addPath path none

/-- Loads a path under a constraint on what its last name leads to. -/
def constrainedPath (loader : EagerLoader) (path : String) (constraint : Constraint) :
    EagerLoader :=
  loader.addPath path (some constraint)

/-- A description of the loader. -/
def shown (loader : EagerLoader) : String :=
  let paths := (PathNode.allPaths "" loader.nodes).map Text.quoted
  "EagerLoader \x7b paths: [" ++ String.intercalate ", " paths
    ++ "], config: EagerConfig \x7b lateral_fallback: " ++ loader.fallback.name ++ " \x7d \x7d"

end EagerLoader

end QueryKit
