set_option autoImplicit false

/-! # Patterns

A pattern of SQL matches a whole text: a percent sign stands for any run of characters, an underscore
for one character, and every other character for itself. Document stores take regular expressions
instead. -/

namespace QueryKit.Document

/-- A part of a pattern. -/
inductive PatternPart
  | anyRun
  | anyOne
  | exactly (c : Char)
deriving DecidableEq, Repr

/-- What a character of a pattern stands for. -/
def PatternPart.ofChar (c : Char) : PatternPart :=
  if c == '%' then .anyRun else if c == '_' then .anyOne else .exactly c

/-- The parts of a pattern. -/
def patternParts (pattern : List Char) : List PatternPart :=
  pattern.map PatternPart.ofChar

/-- The characters that have a meaning of their own in a regular expression. -/
def regexSpecials : List Char :=
  ['.', '*', '+', '?', '(', ')', '[', ']', '\x7b', '\x7d', '|', '^', '$', '\\']

/-- The regular expression for one part. -/
def PatternPart.regex : PatternPart → List Char
  | .anyRun => ['.', '*']
  | .anyOne => ['.']
  | .exactly c => if regexSpecials.contains c then ['\\', c] else [c]

/-- The regular expression for a pattern, which is anchored at both ends. -/
def patternRegex (pattern : String) : String :=
  String.ofList ('^' :: (patternParts pattern.toList).flatMap PatternPart.regex ++ ['$'])

end QueryKit.Document
