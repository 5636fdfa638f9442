import QueryKit.Json.Numeral
import QueryKit.Json.Written
import QueryKit.Text.Hex
set_option autoImplicit false

/-! # Reading JSON

Reading goes through the text once. What has been opened and not yet closed stands on a stack of
frames, the innermost first, so that a text may be nested to any depth; `finish?` closes the frames
one after the other. `written?` says how a text is written, and `parse?` what its value is. -/

namespace QueryKit.Json

/-- Skips the four blanks that JSON allows. -/
def skipBlanks (cs : List Char) : List Char :=
  cs.dropWhile fun c => c == ' ' || c == '\n' || c == '\t' || c == '\r'

/-! ## Strings -/

/-- A piece of a string: a character, or the number that the four digits of a `\u` escape give. -/
inductive Piece
  | char (c : Char)
  | unit (n : Nat)

/-- The character that a letter behind a backslash stands for. -/
def escaped? : Char → Option Char
  | '"' => some '"'
  | '\\' => some '\\'
  | '/' => some '/'
  | 'b' => some '\x08'
  | 'f' => some '\x0c'
  | 'n' => some '\n'
  | 'r' => some '\r'
  | 't' => some '\t'
  | _ => none

/-- The pieces of a string up to its closing quote, after the opening one. -/
def pieces? (acc : List Piece) : List Char → Option (List Piece × List Char)
  | [] => none
  | '"' :: rest => some (acc.reverse, rest)
  | '\\' :: 'u' :: a :: b :: c :: d :: rest =>
    match Text.hexNumber? [a, b, c, d] with
    | some n => pieces? (.unit n :: acc) rest
    | none => none
  | '\\' :: e :: rest =>
    match escaped? e with
    | some c => pieces? (.char c :: acc) rest
    | none => none
  | c :: rest => if c.toNat < 0x20 then none else pieces? (.char c :: acc) rest

/-- The text that the pieces of a string make. A character beyond the first 65536 is written as two
    escapes, the first in the range of high halves and the second in that of low halves; neither
    half stands alone. -/
def text? (acc : List Char) : List Piece → Option String
  | [] => some (String.ofList acc.reverse)
  | .char c :: rest => text? (c :: acc) rest
  | .unit n :: rest =>
    if n < 0xd800 || 0xdfff < n then text? (Char.ofNat n :: acc) rest
    else if 0xdbff < n then none
    else
      match rest with
      | .unit m :: rest =>
        if 0xdc00 ≤ m && m ≤ 0xdfff then
          text? (Char.ofNat (0x10000 + (n - 0xd800) * 0x400 + (m - 0xdc00)) :: acc) rest
        else none
      | _ => none

/-- A string, after its opening quote, with its text if it has one. -/
def string? (cs : List Char) : Option (Option String × List Char) :=
  (pieces? [] cs).map fun (pieces, rest) => (text? [] pieces, rest)

/-! ## Values -/

/-- A list or an object that has been opened: what stands in it so far, the last first, and for an
    object the name of the field whose value comes next. -/
inductive Frame
  | array (items : List Written)
  | object (fields : List (Option String × Written)) (name : Option String)

/-- What a part of a text amounts to: a whole value, or a frame that waits for its next value. -/
inductive Part
  | whole (v : Written)
  | waiting (frame : Frame)

/-- The name of a field and the colon behind it. -/
def fieldName? (fields : List (Option String × Written)) (cs : List Char) :
    Option (Part × List Char) :=
  match skipBlanks cs with
  | '"' :: rest =>
    (string? rest).bind fun (name, rest) =>
      match skipBlanks rest with
      | ':' :: rest => some (.waiting (.object fields name), rest)
      | _ => none
  | _ => none

/-- The start of a value: all of it, if it is no list or object with something in it. -/
def start? (cs : List Char) : Option (Part × List Char) :=
  match skipBlanks cs with
  | 'n' :: 'u' :: 'l' :: 'l' :: rest => some (.whole .null, rest)
  | 't' :: 'r' :: 'u' :: 'e' :: rest => some (.whole (.bool true), rest)
  | 'f' :: 'a' :: 'l' :: 's' :: 'e' :: rest => some (.whole (.bool false), rest)
  | '"' :: rest => (string? rest).map fun (s, rest) => (.whole (.string s), rest)
  | '[' :: rest =>
    match skipBlanks rest with
    | ']' :: rest => some (.whole (.array []), rest)
    | rest => some (.waiting (.array []), rest)
  | '\x7b' :: rest =>
    match skipBlanks rest with
    | '\x7d' :: rest => some (.whole (.object []), rest)
    | rest => fieldName? [] rest
  | rest =>
    (JsonNumber.split? rest).map fun (parts, rest) => (.whole (.number parts.toNumber?), rest)

/-- Puts a value into a frame: behind it the frame is closed, or a comma says that it goes on. -/
def Frame.put? (frame : Frame) (v : Written) (cs : List Char) : Option (Part × List Char) :=
  match frame, skipBlanks cs with
  | .array items, ']' :: rest => some (.whole (.array (v :: items).reverse), rest)
  | .array items, ',' :: rest => some (.waiting (.array (v :: items)), rest)
  | .object fields name, '\x7d' :: rest =>
    some (.whole (.object ((name, v) :: fields).reverse), rest)
  | .object fields name, ',' :: rest => fieldName? ((name, v) :: fields) rest
  | _, _ => none

/-- Reads on until the frames are closed. -/
def finish? : Nat → List Frame → Part → List Char → Option (Written × List Char)
  | 0, _, _, _ => none
  | _ + 1, [], .whole v, cs => some (v, cs)
  | fuel + 1, frame :: frames, .whole v, cs =>
    match frame.put? v cs with
    | some (part, rest) => finish? fuel frames part rest
    | none => none
  | fuel + 1, frames, .waiting frame, cs =>
    match start? cs with
    | some (part, rest) => finish? fuel (frame :: frames) part rest
    | none => none

/-- The value at the front of a text. Every step takes a character or ends the reading. -/
def value? (cs : List Char) : Option (Written × List Char) :=
  (start? cs).bind fun (part, rest) => finish? (cs.length + 1) [] part rest

/-- How a text that holds one value and nothing else is written. -/
def written? (s : String) : Option Written :=
  (value? s.toList).bind fun (v, rest) => if (skipBlanks rest).isEmpty then some v else none

/-- Reads a text that holds one value and nothing else. -/
def parse? (s : String) : Option Json :=
  ((written? s).bind fun w => w.toJson? Written.depthLimit).map ordered

end QueryKit.Json
