import QueryKit.Text.Blank
import QueryKit.Timestamp.Text
set_option autoImplicit false

/-! # Instants read leniently

Files that others may have written are read with more patience: blanks may stand around the parts of
date and time, numbers may have fewer digits, the year may have a sign, and the zone may be written
as `UTC` or without its colon. -/

namespace QueryKit.Timestamp

/-- A number of at most `most` digits, behind blanks. -/
def lenientNumber? (most : Nat) (cs : List Char) : Option (Nat × List Char) :=
  let cs := cs.dropWhile Text.isBlank
  let ds := (cs.take most).takeWhile Char.isDigit
  (Text.natural? ds).map fun n => (n, cs.drop ds.length)

/-- A year: up to four digits, or any number of them behind a sign. -/
def lenientYear? (cs : List Char) : Option (Int × List Char) :=
  match cs.dropWhile Text.isBlank with
  | '-' :: rest => (signed rest).map fun (n, rest) => (-(n : Int), rest)
  | '+' :: rest => (signed rest).map fun (n, rest) => ((n : Int), rest)
  | rest => (lenientNumber? 4 rest).map fun (n, rest) => ((n : Int), rest)
where
  /-- The digits behind a sign. -/
  signed (cs : List Char) : Option (Nat × List Char) :=
    (Text.natural? (cs.takeWhile Char.isDigit)).map fun n => (n, cs.dropWhile Char.isDigit)

/-- A given character, behind blanks. -/
def lenientMark? (c : Char) (cs : List Char) : Option (List Char) :=
  expect? c (cs.dropWhile Text.isBlank)

/-- The distance of a zone with a sign, hours and minutes. -/
def lenientOffset? (cs : List Char) : Option (Int × List Char) := do
  let (sign, cs) ← match cs with
    | c :: rest => if c = '+' || c = '-' || c = '−' then some (c, rest) else none
    | [] => none
  let (hours, cs) ← number? 2 cs
  let (minutes, cs) ← number? 2 (cs.dropWhile fun c => c == ':' || Text.isBlank c)
  if hours ≤ 23 && minutes ≤ 59 then
    let distance : Int := (hours * 60 + minutes : Nat) * 60
    some (if sign = '+' then distance else -distance, cs)
  else none

/-- The distance of a zone from UTC in seconds. -/
def lenientZone? (cs : List Char) : Option (Int × List Char) :=
  if (cs.take 3).map Char.toUpper == ['U', 'T', 'C'] then some (0, cs.drop 3)
  else
    match cs with
    | 'Z' :: rest => some (0, rest)
    | 'z' :: rest => some (0, rest)
    | cs => lenientOffset? cs

/-- The years that instants can have. -/
def isKnownYear (year : Int) : Bool :=
  -262143 ≤ year && year ≤ 262142

/-- The year in UTC. -/
def year (t : Timestamp) : Int :=
  (CalendarDay.ofDays (t.seconds / 86400)).year

/-- Reads an instant leniently. Its year is a known one both where it was written and in UTC. -/
def ofLenientText? (cs : List Char) : Option Timestamp := do
  let (year, cs) ← lenientYear? cs
  let cs ← lenientMark? '-' cs
  let (month, cs) ← lenientNumber? 2 cs
  let cs ← lenientMark? '-' cs
  let (day, cs) ← lenientNumber? 2 cs
  let cs ← (expect? 'T' cs).orElse fun _ => (expect? 't' cs).orElse fun _ => expect? ' ' cs
  let (hour, cs) ← lenientNumber? 2 cs
  let cs ← lenientMark? ':' cs
  let (minute, cs) ← lenientNumber? 2 cs
  let cs ← lenientMark? ':' cs
  let (second, cs) ← lenientNumber? 2 cs
  let (nanos, cs) ← fraction? cs
  let (distance, cs) ← lenientZone? (cs.dropWhile Text.isBlank)
  if (cs.dropWhile Text.isBlank).isEmpty && isKnownYear year then
    (ofCivil? ⟨year, month, day⟩ hour minute second nanos distance).filter fun t => isKnownYear t.year
  else none

end QueryKit.Timestamp
