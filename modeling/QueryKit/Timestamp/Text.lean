import QueryKit.Timestamp.Basic
import QueryKit.Text.Numeral
set_option autoImplicit false

/-! # Instants as text

Date and time joined by `T`, a fraction of three, six or nine digits where one is needed, and the
zone. Reading accepts any zone with hours and minutes, a blank or a small letter in place of `T`, any
number of fraction digits of which nine count, and the sixtieth second. -/

namespace QueryKit.Timestamp

/-! ## Writing -/

/-- A year of four digits; one outside that range has a sign. -/
def yearText (year : Int) : List Char :=
  if 0 ≤ year && year ≤ 9999 then Text.padded 4 year.toNat
  else (if year < 0 then '-' else '+') :: Text.padded 4 year.natAbs

/-- The fraction of a second with as few groups of three digits as it needs. -/
def fractionText (nanos : Nat) : List Char :=
  if nanos = 0 then []
  else if nanos % 1000000 = 0 then '.' :: Text.padded 3 (nanos / 1000000)
  else if nanos % 1000 = 0 then '.' :: Text.padded 6 (nanos / 1000)
  else '.' :: Text.padded 9 nanos

/-- Date and time without the zone. A leap second is the sixtieth of its minute. -/
def civilText (t : Timestamp) : List Char :=
  let date := CalendarDay.ofDays (t.seconds / 86400)
  let second := (t.seconds % 86400).toNat
  let shown := second % 60 + (if t.isLeap then 1 else 0)
  yearText date.year ++ '-' :: Text.padded 2 date.month ++ '-' :: Text.padded 2 date.day
    ++ 'T' :: Text.padded 2 (second / 3600) ++ ':' :: Text.padded 2 (second / 60 % 60)
    ++ ':' :: Text.padded 2 shown ++ fractionText (t.nanos % nanosPerSecond)

/-- The text with a numeric zone. -/
def toText (t : Timestamp) : String :=
  String.ofList (t.civilText ++ "+00:00".toList)

/-- The text with the letter for the zone. -/
def toZuluText (t : Timestamp) : String :=
  String.ofList (t.civilText ++ ['Z'])

/-! ## Reading -/

/-- Exactly `count` digits at the front of a text. -/
def number? (count : Nat) (cs : List Char) : Option (Nat × List Char) :=
  if (cs.take count).length = count then
    (Text.natural? (cs.take count)).map fun n => (n, cs.drop count)
  else none

/-- One given character at the front of a text. -/
def expect? (c : Char) : List Char → Option (List Char)
  | d :: rest => if c = d then some rest else none
  | [] => none

/-- An optional fraction of a second, in nanoseconds. -/
def fraction? : List Char → Option (Nat × List Char)
  | '.' :: rest =>
    let ds := rest.takeWhile Char.isDigit
    let kept := ds.take 9
    (Text.natural? kept).map fun n => (n * Nat.pow 10 (9 - kept.length), rest.dropWhile Char.isDigit)
  | rest => some (0, rest)

/-- The distance of a zone from UTC in seconds. -/
def zone? : List Char → Option (Int × List Char)
  | c :: rest =>
    if c = 'Z' || c = 'z' then some (0, rest)
    else if c = '+' || c = '-' || c = '−' then do
      let (hours, rest) ← number? 2 rest
      let rest ← expect? ':' rest
      let (minutes, rest) ← number? 2 rest
      if hours ≤ 23 && minutes ≤ 59 then
        let distance : Int := (hours * 60 + minutes : Nat) * 60
        some (if c = '+' then distance else -distance, rest)
      else none
    else none
  | [] => none

/-- The instant at a time of a day, in a zone at some distance from UTC. -/
def ofCivil? (day : CalendarDay) (hour minute second nanos : Nat) (distance : Int) :
    Option Timestamp :=
  if 1 ≤ day.month && day.month ≤ 12 && 1 ≤ day.day
      && day.day ≤ CalendarDay.daysInMonth day.year day.month
      && hour ≤ 23 && minute ≤ 59 && second ≤ 60 then
    let clock : Nat := hour * 3600 + minute * 60 + min second 59
    some
      { seconds := day.toDays * 86400 + clock - distance
        nanos := if second = 60 then nanos + nanosPerSecond else nanos }
  else none

/-- Reads an instant. -/
def ofText? (cs : List Char) : Option Timestamp := do
  let (year, cs) ← number? 4 cs
  let cs ← expect? '-' cs
  let (month, cs) ← number? 2 cs
  let cs ← expect? '-' cs
  let (day, cs) ← number? 2 cs
  let cs ← (expect? 'T' cs).orElse fun _ => (expect? 't' cs).orElse fun _ => expect? ' ' cs
  let (hour, cs) ← number? 2 cs
  let cs ← expect? ':' cs
  let (minute, cs) ← number? 2 cs
  let cs ← expect? ':' cs
  let (second, cs) ← number? 2 cs
  let (nanos, cs) ← fraction? cs
  let (distance, cs) ← zone? cs
  if cs.isEmpty then ofCivil? ⟨year, month, day⟩ hour minute second nanos distance else none

end QueryKit.Timestamp
