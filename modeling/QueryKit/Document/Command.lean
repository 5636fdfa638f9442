import QueryKit.Json.Basic
import QueryKit.Query.Clause
set_option autoImplicit false

/-! # Document commands

What is sent to a document store: a collection, an operation, a filter, options and a payload. A
filter is a list of alternatives, each of which is a list of tests of single fields. -/

namespace QueryKit.Document

/-- The operations of document stores. -/
inductive Operation
  | find
  | count
  | insertMany
  | updateMany
  | deleteMany
deriving DecidableEq, Repr

/-- The name of an operation. -/
def Operation.name : Operation → String
  | .find => "find"
  | .count => "count"
  | .insertMany => "insertMany"
  | .updateMany => "updateMany"
  | .deleteMany => "deleteMany"

/-! ## Filters -/

/-- The comparisons that are not tests for equality. -/
inductive Comparison
  | notEqual
  | greater
  | greaterOrEqual
  | less
  | lessOrEqual
deriving DecidableEq, Repr

/-- The operator for a comparison. -/
def Comparison.operator : Comparison → String
  | .notEqual => "$ne"
  | .greater => "$gt"
  | .greaterOrEqual => "$gte"
  | .less => "$lt"
  | .lessOrEqual => "$lte"

/-- A test of a field. -/
inductive Predicate
  | equals (value : Json)
  | compares (comparison : Comparison) (value : Json)
  | oneOf (values : List Json) (negated : Bool)
  | present (expected : Bool)
  | between (low high : Json) (negated : Bool)
  | matchesRegex (regex : String) (ignoreCase negated : Bool)

/-- An object with one field. -/
def single (name : String) (value : Json) : Json :=
  .object [(name, value)]

/-- The negation of a test that is written as an object. -/
def negatedIf (negated : Bool) (test : Json) : Json :=
  if negated then single "$not" test else test

/-- The written form of a test. A test for equality is written as the value alone. -/
def Predicate.toJson : Predicate → Json
  | .equals value => value
  | .compares comparison value => single comparison.operator value
  | .oneOf values negated => single (if negated then "$nin" else "$in") (.array values)
  | .present expected => single "$exists" (.bool expected)
  | .between low high negated => negatedIf negated (.ofFields [("$gte", low), ("$lte", high)])
  | .matchesRegex regex ignoreCase negated =>
    negatedIf negated
      (.ofFields [("$regex", .string regex), ("$options", .string (if ignoreCase then "i" else ""))])

/-- A test of a named field. -/
structure FieldTest where
  field : String
  predicate : Predicate

/-- The written form of a test of a named field. -/
def FieldTest.toJson (t : FieldTest) : Json :=
  single t.field t.predicate.toJson

/-- The names that occur in a list are pairwise different. -/
def allDistinct : List String → Bool
  | [] => true
  | name :: rest => !rest.contains name && allDistinct rest

/-- The written form of tests that must all hold: one object if every field is tested once. -/
def conjunctionJson (tests : List FieldTest) : Json :=
  if allDistinct (tests.map (·.field)) then
    .ofFields (tests.map fun t => (t.field, t.predicate.toJson))
  else single "$and" (.array (tests.map FieldTest.toJson))

/-- Alternatives, one of which must hold; a filter without alternatives holds always. -/
abbrev Filter := List (List FieldTest)

/-- The written form of a filter. -/
def Filter.toJson : Filter → Json
  | [] => .object []
  | [tests] => conjunctionJson tests
  | branches => single "$or" (.array (branches.map conjunctionJson))

/-! ## Commands -/

/-- A join with another collection, whose documents are put into a field. -/
structure Lookup where
  source : String
  localField : String
  foreignField : String
  target : String
  /-- Keeps documents without a match. -/
  preserveUnmatched : Bool
deriving DecidableEq, Repr

/-- What a read keeps of its documents. -/
structure Options where
  /-- The fields to keep; all of them if absent. -/
  projection : Option (List String) := none
  sort : List (String × Direction) := []
  limit : Option UInt64 := none
  skip : Option UInt64 := none
  lookups : List Lookup := []

/-- A command for a document store. -/
structure Command where
  collection : String
  operation : Operation
  filter : Filter := []
  options : Options := {}
  payload : Option Json := none

/-- The written form of a lookup. -/
def Lookup.toJson (l : Lookup) : Json :=
  .ofFields
    [("from", .string l.source), ("localField", .string l.localField),
      ("foreignField", .string l.foreignField), ("as", .string l.target),
      ("preserveUnmatched", .bool l.preserveUnmatched)]

/-- The written form of a sort key. -/
def sortJson (key : String × Direction) : Json :=
  .array
    [.string key.1,
      .int (match key.2 with
        | .ascending => 1
        | .descending => -1)]

/-- A field that is left out if its value is absent. -/
def optionalField (name : String) (value : Option Json) : List (String × Json) :=
  match value with
  | some v => [(name, v)]
  | none => []

/-- A list that is absent if it is empty. -/
def nonEmpty (items : List Json) : Option Json :=
  if items.isEmpty then none else some (.array items)

/-- The written form of options, without those that are not used. -/
def Options.toJson (o : Options) : Json :=
  let number (n : UInt64) : Json := .int n.toNat
  .ofFields
    (optionalField "projection" (o.projection.map fun fields =>
        .ofFields (fields.map fun f => (f, .int 1)))
      ++ optionalField "sort" (nonEmpty (o.sort.map sortJson))
      ++ optionalField "limit" (o.limit.map number)
      ++ optionalField "skip" (o.skip.map number)
      ++ optionalField "lookups" (nonEmpty (o.lookups.map Lookup.toJson)))

/-- The written form of a command. -/
def Command.toJson (c : Command) : Json :=
  .ofFields
    ([("collection", .string c.collection), ("operation", .string c.operation.name),
        ("filter", c.filter.toJson), ("options", c.options.toJson)]
      ++ optionalField "payload" c.payload)

end QueryKit.Document
