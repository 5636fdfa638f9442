import QueryKit.Proofs.Sql.References

set_option autoImplicit false

/-! # Text literals read back

A text literal is read from its first quote to the quote that closes it. Two quotes inside of it are
one quote of the text; in MySQL a backslash escapes the character behind it, in the other dialects it
is a character like any other. Every character is written so that it is read as itself
(`readBody?_escapeChar`), so the first quote that can close a literal is its last character, and what
is read is the text (`text_literals_read_back`). -/

namespace QueryKit

namespace Sql

/-! ## Reading -/

/-- What a backslash stands for together with the character behind it. In front of the wildcards of
    patterns it stays, in front of characters without a meaning of their own it is left out. -/
def escaped (c : Char) : List Char :=
  match c with
  | '0' => [Char.ofNat 0x00]
  | 'b' => [Char.ofNat 0x08]
  | 't' => ['\t']
  | 'n' => ['\n']
  | 'r' => ['\r']
  | 'Z' => [Char.ofNat 0x1a]
  | '%' => ['\\', '%']
  | '_' => ['\\', '_']
  | c => [c]

/-- Puts characters in front of a text that has been read. -/
def prepend (front : List Char) (read : List Char × List Char) : List Char × List Char :=
  (front ++ read.1, read.2)

end Sql

namespace Dialect

/-- A backslash inside a text literal escapes the character behind it. -/
def backslashEscapes : Dialect → Bool
  | .mysql => true
  | _ => false

/-- Reads the body of a text literal, up to the first quote behind which no further quote stands. Gives
    the text and what stands behind the literal; none if it does not end. -/
def readBody? (d : Dialect) : List Char → Option (List Char × List Char)
  | [] => none
  | [c] => if c = Sql.apostrophe then some ([], []) else none
  | c :: next :: rest =>
    if c = Sql.apostrophe then
      if next = Sql.apostrophe then (d.readBody? rest).map (Sql.prepend [c])
      else some ([], next :: rest)
    else if c = '\\' ∧ d.backslashEscapes then (d.readBody? rest).map (Sql.prepend (Sql.escaped next))
    else (d.readBody? (next :: rest)).map (Sql.prepend [c])

/-- Reads the text literal at the front of a text. Gives what the literal stands for, and what stands
    behind it. -/
def readText? (d : Dialect) : List Char → Option (String × List Char)
  | [] => none
  | c :: cs =>
    if c = Sql.apostrophe then (d.readBody? cs).map fun read => (String.ofList read.1, read.2) else none

variable (d : Dialect)

/-! ## Bodies -/

/-- A quote closes the literal if no further quote stands behind it. -/
theorem readBody?_close {rest : List Char} (hrest : rest.head? ≠ some Sql.apostrophe) :
    d.readBody? (Sql.apostrophe :: rest) = some ([], rest) := by
  rcases rest with _ | ⟨next, behind⟩
  · rw [readBody?, if_pos rfl]
  · have hnext : next ≠ Sql.apostrophe := by simpa using hrest
    rw [readBody?, if_pos rfl, if_neg hnext]

/-- A character that neither closes nor escapes stands for itself. -/
theorem readBody?_other {c : Char} (hquote : c ≠ Sql.apostrophe)
    (hescape : ¬(c = '\\' ∧ d.backslashEscapes)) {cs : List Char} (hne : cs ≠ []) :
    d.readBody? (c :: cs) = (d.readBody? cs).map (Sql.prepend [c]) := by
  obtain ⟨next, rest, rfl⟩ := List.exists_cons_of_ne_nil hne
  rw [readBody?, if_neg hquote, if_neg hescape]

theorem escapeChar_apostrophe : d.escapeChar Sql.apostrophe = [Sql.apostrophe, Sql.apostrophe] := by
  rw [escapeChar, if_pos (beq_self_eq_true _)]

theorem escapeChar_other {c : Char} (hquote : c ≠ Sql.apostrophe) :
    d.escapeChar c = if c = '\\' ∧ d.backslashEscapes then [c, c] else [c] := by
  rw [escapeChar, if_neg (by simpa using hquote)]
  cases d <;> simp [backslashEscapes]

/-- Whatever a character is, it is read as itself from what is written for it. -/
theorem readBody?_escapeChar (c : Char) {cs : List Char} (hne : cs ≠ []) :
    d.readBody? (d.escapeChar c ++ cs) = (d.readBody? cs).map (Sql.prepend [c]) := by
  by_cases hquote : c = Sql.apostrophe
  · rw [hquote, escapeChar_apostrophe, List.cons_append, List.singleton_append, readBody?, if_pos rfl,
      if_pos rfl]
  · rw [escapeChar_other d hquote]
    by_cases hescape : c = '\\' ∧ d.backslashEscapes
    · have hself : Sql.escaped c = [c] := by
        rw [hescape.1]
        rfl
      rw [if_pos hescape, List.cons_append, List.singleton_append, readBody?, if_neg hquote,
        if_pos hescape, hself]
    · rw [if_neg hescape, List.singleton_append, readBody?_other d hquote hescape hne]

/-- The body of a literal is read as the text, up to the quote behind it and no further. -/
theorem readBody?_flatMap_escapeChar (cs : List Char) {rest : List Char}
    (hrest : rest.head? ≠ some Sql.apostrophe) :
    d.readBody? (cs.flatMap d.escapeChar ++ Sql.apostrophe :: rest) = some (cs, rest) := by
  induction cs with
  | nil => exact readBody?_close d hrest
  | cons c cs ih =>
      have hne : cs.flatMap d.escapeChar ++ Sql.apostrophe :: rest ≠ [] :=
        List.append_ne_nil_of_right_ne_nil _ (List.cons_ne_nil _ _)
      rw [List.flatMap_cons, List.append_assoc, readBody?_escapeChar d c hne, ih]
      rfl

/-! ## Literals -/

theorem readText?_textLiteral (s : String) {rest : List Char}
    (hrest : rest.head? ≠ some Sql.apostrophe) :
    d.readText? ((d.textLiteral s).toList ++ rest) = some (s, rest) := by
  have hbody : (d.textLiteral s).toList ++ rest
      = Sql.apostrophe :: (s.toList.flatMap d.escapeChar ++ Sql.apostrophe :: rest) := by
    rw [textLiteral, String.toList_ofList, List.append_assoc, List.cons_append, List.singleton_append]
  rw [hbody, readText?, if_pos rfl, readBody?_flatMap_escapeChar d _ hrest, Option.map_some,
    String.ofList_toList]

/-- Escaping doubles every backslash where it escapes, and behind that every quote. -/
theorem escapeText_eq_doubled (s : String) :
    (d.escapeText s).toList
      = Sql.doubled Sql.apostrophe
          (if d.backslashEscapes then Sql.doubled '\\' s.toList else s.toList) := by
  rw [escapeText, String.toList_ofList]
  induction s.toList with
  | nil => cases d <;> rfl
  | cons c cs ih =>
      rw [List.flatMap_cons, ih]
      by_cases hquote : c = Sql.apostrophe
      · have hslash : Sql.apostrophe ≠ '\\' := by decide
        cases d <;> simp [hquote, escapeChar, backslashEscapes, Sql.doubled, hslash]
      · rw [escapeChar_other d hquote]
        by_cases hslash : c = '\\'
        · subst hslash
          cases d <;> simp [hquote, backslashEscapes, Sql.doubled]
        · cases d <;> simp [hquote, hslash, backslashEscapes, Sql.doubled]

end Dialect

/-- The text that the literal of a value is a text literal for. -/
def Value.literalText? : Value → Option String
  | .text s => some s
  | .json j => some j.compact
  | _ => none

/-- **Text literals read back.** In every dialect the literal of a text or of JSON is a quote, the text
    with its backslashes doubled where they escape and then its quotes doubled, and a quote. Read by
    the rules of the dialect, all of it is a single literal for the text, whatever stands behind it,
    as long as that does not begin with a quote. -/
theorem Dialect.text_literals_read_back (d : Dialect) (v : Value) (s : String)
    (h : v.literalText? = some s) :
    d.readText? (d.literal v).toList = some (s, [])
      ∧ (∀ rest : List Char, rest.head? ≠ some Sql.apostrophe →
          d.readText? ((d.literal v).toList ++ rest) = some (s, rest))
      ∧ (d.literal v).toList
          = Sql.apostrophe :: Sql.doubled Sql.apostrophe
              (if d.backslashEscapes then Sql.doubled '\\' s.toList else s.toList)
            ++ [Sql.apostrophe] := by
  have hliteral : d.literal v = d.textLiteral s := by
    cases v with
    | text t =>
        cases h
        rw [Dialect.literal]
    | json j =>
        cases h
        rw [Dialect.literal]
    | _ => cases h
  have hread : ∀ rest : List Char, rest.head? ≠ some Sql.apostrophe →
      d.readText? ((d.literal v).toList ++ rest) = some (s, rest) := by
    intro rest hrest
    rw [hliteral]
    exact readText?_textLiteral d s hrest
  refine ⟨?_, hread, ?_⟩
  · have hwhole := hread [] (by simp)
    rwa [List.append_nil] at hwhole
  · rw [hliteral, textLiteral, String.toList_ofList, ← escapeText_eq_doubled, escapeText,
      String.toList_ofList]

/-- A text with a backslash in front of its quote, and JSON whose text has backslashes, in front of a
    word. -/
theorem Dialect.text_literals_read_back_mysql :
    (Value.text "it\\'s").literalText? = some "it\\'s"
      ∧ Dialect.mysql.literal (.text "it\\'s") = "'it\\\\''s'"
      ∧ Dialect.mysql.readText? "'it\\\\''s' OR".toList = some ("it\\'s", " OR".toList)
      ∧ Dialect.postgres.literal (.json (.string "a\\'")) = "'\"a\\\\''\"'"
      ∧ Dialect.postgres.readText? "'\"a\\\\''\"'".toList = some ("\"a\\\\'\"", []) := by
  have htext : Dialect.mysql.literal (.text "it\\'s") = "'it\\\\''s'" := by
    decide +kernel
  have hjson : Dialect.postgres.literal (.json (.string "a\\'")) = "'\"a\\\\''\"'" := by
    decide +kernel
  obtain ⟨-, hrest, -⟩ := text_literals_read_back .mysql (.text "it\\'s") "it\\'s" rfl
  obtain ⟨hwhole, -, -⟩ :=
    text_literals_read_back .postgres (.json (.string "a\\'")) "\"a\\\\'\"" (by decide +kernel)
  refine ⟨rfl, htext, ?_, hjson, ?_⟩
  · have hread := hrest " OR".toList (by decide)
    rwa [htext] at hread
  · rwa [hjson] at hwhole

end QueryKit
