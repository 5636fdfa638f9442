import QueryKit.Sql.Spelling
import QueryKit.Text.Blank
set_option autoImplicit false

/-! # Identifiers

References to columns and tables as callers write them: dotted parts, an alias behind `as` or behind
a blank, a star, or an expression, which is recognised by its parenthesis and left as it is. -/

namespace QueryKit

namespace Sql

/-! ## Parts of references -/

/-- Splits at the first `as` between blanks, in any case of its letters. -/
def splitAs? : List Char → Option (List Char × List Char)
  | [] => none
  | c :: cs =>
    if ((c :: cs).take 4).map Char.toLower = [' ', 'a', 's', ' '] then some ([], cs.drop 3)
    else (splitAs? cs).map fun (before, after) => (c :: before, after)

/-- The expression and the alias of a reference: what stands before and after `as`, or the first and
    the second of exactly two words. -/
def splitAlias? (reference : List Char) : Option (List Char × List Char) :=
  match splitAs? reference with
  | some (before, after) => some (Text.trim before, Text.trim after)
  | none =>
    match Text.words reference with
    | [name, label] => some (name, label)
    | _ => none

/-- The last dotted part of a reference. -/
def unqualified (reference : String) : String :=
  Order.lastPart reference

/-- The name by which columns refer to a table: its alias, or else the reference itself. -/
def tableReference (table : String) : String :=
  let trimmed := Text.trim table.toList
  match splitAlias? trimmed with
  | some (_, label) => String.ofList label
  | none => String.ofList trimmed

/-! ## Quoting -/

/-- Doubles every quote. -/
def doubled (q : Char) (cs : List Char) : List Char :=
  cs.flatMap fun c => if c == q then [c, c] else [c]

/-- One part between quotes; the star stands for itself. -/
def quotePart (q : Char) (part : List Char) : List Char :=
  if part = ['*'] then part else q :: doubled q part ++ [q]

/-- Dotted parts, each between quotes. -/
def quoteDotted (q : Char) (reference : List Char) : List Char :=
  List.intercalate ['.'] ((reference.splitOn '.').map (quotePart q))

/-- An alias with the word in front of it. -/
def aliasSuffix (q : Char) (label : List Char) : List Char :=
  [' ', 'A', 'S', ' '] ++ quotePart q label

/-- A reference without parenthesis that may have one alias. -/
def quoteAliased (q : Char) (reference : List Char) : List Char :=
  match splitAlias? reference with
  | some (name, label) => quoteDotted q name ++ aliasSuffix q label
  | none => quoteDotted q reference

/-- A reference to a column. An alias may itself stand behind two words, the second of which is then
    an alias too. -/
def quoteColumn (q : Char) (reference : List Char) : List Char :=
  let trimmed := Text.trim reference
  if trimmed.contains '(' then trimmed
  else
    match splitAlias? trimmed with
    | some (expression, label) => quoteAliased q expression ++ aliasSuffix q label
    | none => quoteDotted q trimmed

/-- A reference to a table. -/
def quoteTable (q : Char) (reference : List Char) : List Char :=
  let trimmed := Text.trim reference
  match splitAlias? trimmed with
  | some (name, label) => quoteColumn q name ++ aliasSuffix q label
  | none => quoteColumn q trimmed

end Sql

namespace Dialect

/-- An identifier of one part. -/
def identifier (d : Dialect) (name : String) : String :=
  String.ofList (Sql.quotePart d.identifierQuote name.toList)

/-- A reference to a column. -/
def column (d : Dialect) (reference : String) : String :=
  String.ofList (Sql.quoteColumn d.identifierQuote reference.toList)

/-- A reference to a table. -/
def table (d : Dialect) (reference : String) : String :=
  String.ofList (Sql.quoteTable d.identifierQuote reference.toList)

end Dialect

end QueryKit
