import Mathlib
import QueryKit.Document.Pattern

set_option autoImplicit false

/-! # Patterns as regular expressions

A pattern matches a text as a whole (`matchesPattern`). A regular expression is searched for in a text,
and of its language the part is read here in which patterns are written: tests of single characters,
how often they are repeated, and the two ends (`Regex.ofText?`). The signs of groups, classes and counts
are not read at all. So a sign that stands for itself in a pattern, if it were left bare, would not be
read, or would be read as something else.

The regular expression of a pattern is read as one step for each of its characters between the two ends
(`Regex.ofText?_patternRegex`), and these steps take a text as the pattern does. -/

namespace QueryKit.Document

/-- What characters are taken for: which of them end a line, and which count as the same, as the letters
    do that differ in case only. -/
structure CharRules where
  endsLine : Char → Bool
  same : Char → Char → Bool

/-- The text matches the pattern, from its first to its last character. A percent sign stands for any
    run of characters, an underscore for any one, and no sign takes this meaning away. -/
def matchesPattern (rules : CharRules) : List Char → List Char → Bool
  | [], text => text.isEmpty
  | p :: pattern, text =>
    if p = '%' then text.tails.any (matchesPattern rules pattern)
    else
      match text with
      | [] => false
      | c :: rest => (p == '_' || rules.same p c) && matchesPattern rules pattern rest

namespace Regex

/-! ## Reading regular expressions -/

/-- A test of one character. -/
inductive CharTest
  | any
  | literal (c : Char)

/-- How often a test is passed in a row. -/
inductive Repetition
  | once
  | anyTimes
  | atLeastOnce
  | atMostOnce

/-- A sign of a regular expression. -/
inductive Token
  | start
  | stop
  | char (test : CharTest)
  | repeated (r : Repetition)

/-- A step through a text: it asks for one of its ends, or takes characters from it. -/
inductive Step
  | start
  | stop
  | chars (test : CharTest) (r : Repetition)

/-- The sign for a character that has no backslash in front. The signs of escapes, groups, classes,
    counts and alternatives are not read. -/
def token? (c : Char) : Option Token :=
  if c = '^' then some .start
  else if c = '$' then some .stop
  else if c = '.' then some (.char .any)
  else if c = '*' then some (.repeated .anyTimes)
  else if c = '+' then some (.repeated .atLeastOnce)
  else if c = '?' then some (.repeated .atMostOnce)
  else if ['\\', '(', ')', '[', ']', '\x7b', '\x7d', '|'].contains c then none
  else some (.char (.literal c))

/-- The signs of a text. Behind a backslash a character stands for itself, unless it is a letter or a
    digit, which would be a class or a reference. -/
def tokens? : List Char → Option (List Token)
  | [] => some []
  | '\\' :: c :: rest =>
    if c.isAlphanum then none else (tokens? rest).map (.char (.literal c) :: ·)
  | c :: rest => (token? c).bind fun t => (tokens? rest).map (t :: ·)

/-- The steps of signs. A repetition stands behind the test that it repeats. -/
def steps? : List Token → Option (List Step)
  | [] => some []
  | .start :: rest => (steps? rest).map (.start :: ·)
  | .stop :: rest => (steps? rest).map (.stop :: ·)
  | .char t :: .repeated r :: rest => (steps? rest).map (.chars t r :: ·)
  | .char t :: rest => (steps? rest).map (.chars t .once :: ·)
  | .repeated _ :: _ => none

/-- The steps of a regular expression. -/
def ofText? (text : String) : Option (List Step) :=
  (tokens? text.toList).bind steps?

/-! ## Searching for regular expressions -/

section Search

variable (rules : CharRules)

/-- A character passes a test. -/
def CharTest.passes : CharTest → Char → Bool
  | .any, c => !rules.endsLine c
  | .literal l, c => rules.same l c

/-- What is left of a text behind one character that passes. -/
def behindOne (passes : Char → Bool) : List Char → List (List Char)
  | [] => []
  | c :: rest => if passes c then [rest] else []

/-- What can be left of a text behind a run of characters that pass. -/
def behindRun (passes : Char → Bool) : List Char → List (List Char)
  | [] => [[]]
  | c :: rest => (c :: rest) :: if passes c then behindRun passes rest else []

/-- What can be left of a text behind repetitions. -/
def Repetition.behind (passes : Char → Bool) (text : List Char) : Repetition → List (List Char)
  | .once => behindOne passes text
  | .anyTimes => behindRun passes text
  | .atLeastOnce => (behindOne passes text).flatMap (behindRun passes)
  | .atMostOnce => text :: behindOne passes text

/-- Nothing is left, or only the end of the last line. -/
def atStop : List Char → Bool
  | [] => true
  | [c] => rules.endsLine c
  | _ => false

/-- The steps can be taken through what is left of a text. -/
def passesFrom (text : List Char) : List Step → List Char → Bool
  | [], _ => true
  | .start :: steps, rest => rest == text && passesFrom text steps rest
  | .stop :: steps, rest => atStop rules rest && passesFrom text steps rest
  | .chars t r :: steps, rest => (r.behind (t.passes rules) rest).any (passesFrom text steps)

/-- The steps can be taken from some place of a text on. -/
def finds (steps : List Step) (text : List Char) : Bool :=
  text.tails.any (passesFrom rules text steps)

end Search

/-! ## Reading the regular expression of a pattern -/

/-- The signs for a part of a pattern. -/
def tokensOf : PatternPart → List Token
  | .anyRun => [.char .any, .repeated .anyTimes]
  | .anyOne => [.char .any]
  | .exactly c => [.char (.literal c)]

/-- The step for a part of a pattern. -/
def stepOf : PatternPart → Step
  | .anyRun => .chars .any .anyTimes
  | .anyOne => .chars .any .once
  | .exactly c => .chars (.literal c) .once

theorem tokens?_cons {c : Char} (h : c ≠ '\\') (rest : List Char) :
    tokens? (c :: rest) = (token? c).bind fun t => (tokens? rest).map (t :: ·) := by
  rw [tokens?]
  rintro d others rfl
  exact absurd rfl h

/-- A character that is not special is read as itself. -/
theorem token?_of_not_special {c : Char} (h : c ∉ regexSpecials) :
    token? c = some (.char (.literal c)) := by
  simp only [regexSpecials, List.mem_cons, List.not_mem_nil, or_false, not_or] at h
  simp [token?, h]

/-- No special character is a letter or a digit. -/
theorem isAlphanum_of_special {c : Char} (h : c ∈ regexSpecials) : c.isAlphanum = false := by
  have hall : regexSpecials.all (!·.isAlphanum) = true := by decide
  simpa using List.all_eq_true.1 hall c h

theorem tokens?_exactly (c : Char) (rest : List Char) :
    tokens? ((PatternPart.exactly c).regex ++ rest)
      = (tokens? rest).map (.char (.literal c) :: ·) := by
  rw [PatternPart.regex]
  by_cases hspecial : c ∈ regexSpecials
  · rw [if_pos (List.contains_iff_mem.2 hspecial), List.cons_append, List.cons_append, List.nil_append,
      tokens?, isAlphanum_of_special hspecial, if_neg Bool.false_ne_true]
  · have hbackslash : c ≠ '\\' := by
      rintro rfl
      exact hspecial (by decide)
    rw [if_neg (mt List.contains_iff_mem.1 hspecial), List.cons_append, List.nil_append,
      tokens?_cons hbackslash, token?_of_not_special hspecial, Option.bind_some]

theorem tokens?_regex (p : PatternPart) (rest : List Char) :
    tokens? (p.regex ++ rest) = (tokens? rest).map (tokensOf p ++ ·) := by
  cases p with
  | anyRun =>
    show tokens? ('.' :: '*' :: rest) = _
    rw [tokens?_cons (by decide), tokens?_cons (by decide)]
    show ((tokens? rest).map _).map _ = _
    rw [Option.map_map]
    rfl
  | anyOne => exact tokens?_cons (by decide) rest
  | exactly c => exact tokens?_exactly c rest

theorem tokens?_flatMap_regex (parts : List PatternPart) (rest : List Char) :
    tokens? (parts.flatMap PatternPart.regex ++ rest)
      = (tokens? rest).map (parts.flatMap tokensOf ++ ·) := by
  induction parts with
  | nil => exact (Option.map_id' (x := tokens? rest)).symm
  | cons p parts ih =>
    rw [List.flatMap_cons, List.append_assoc, tokens?_regex, ih, Option.map_map, List.flatMap_cons]
    simp only [Function.comp_def, List.append_assoc]

/-- Behind a test that is not repeated, the next step begins. -/
theorem steps?_char (t : CharTest) {rest : List Token}
    (h : ∀ r others, rest ≠ .repeated r :: others) :
    steps? (.char t :: rest) = (steps? rest).map (.chars t .once :: ·) := by
  rw [steps?]
  exact h

theorem steps?_tokensOf (parts : List PatternPart) :
    steps? (parts.flatMap tokensOf ++ [.stop]) = some (parts.map stepOf ++ [.stop]) := by
  induction parts with
  | nil => rfl
  | cons p parts ih =>
    have hnext : ∀ r others, parts.flatMap tokensOf ++ [.stop] ≠ .repeated r :: others := by
      -- what comes next is a test or the end
      rcases parts with _ | ⟨q, _⟩
      · nofun
      · cases q <;> nofun
    rw [List.flatMap_cons, List.append_assoc]
    cases p with
    | anyRun =>
      show (steps? (parts.flatMap tokensOf ++ [.stop])).map _ = _
      rw [ih]
      rfl
    | anyOne | exactly =>
      show steps? (.char _ :: (parts.flatMap tokensOf ++ [.stop])) = _
      rw [steps?_char _ hnext, ih]
      rfl

/-- The regular expression of a pattern is read as a step for each character, between the two ends. -/
theorem ofText?_patternRegex (pattern : String) :
    ofText? (patternRegex pattern)
      = some (.start :: ((patternParts pattern.toList).map stepOf ++ [.stop])) := by
  rw [ofText?, patternRegex, String.toList_ofList, List.cons_append, tokens?_cons (by decide),
    tokens?_flatMap_regex]
  show steps? (.start :: ((patternParts pattern.toList).flatMap tokensOf ++ [.stop])) = _
  rw [steps?, steps?_tokensOf]
  rfl

/-! ## Taking the steps of a pattern -/

variable {rules : CharRules} {text : List Char}

/-- A run of any characters can end everywhere on a line. -/
theorem behindRun_any (h : ∀ c ∈ text, rules.endsLine c = false) :
    behindRun (CharTest.any.passes rules) text = text.tails := by
  induction text with
  | nil => rfl
  | cons c rest ih =>
    have hc : CharTest.any.passes rules c = true := by
      rw [CharTest.passes, h c List.mem_cons_self, Bool.not_false]
    rw [behindRun, if_pos hc, ih fun d hd => h d (List.mem_cons_of_mem c hd), List.tails_cons]

/-- On a line there is nothing left only at the end. -/
theorem atStop_of_line (h : ∀ c ∈ text, rules.endsLine c = false) :
    atStop rules text = text.isEmpty := by
  match text with
  | [] => rfl
  | [c] => exact h c List.mem_cons_self
  | _ :: _ :: _ => rfl

/-- A search for what begins at the start looks at the whole text only. -/
theorem finds_start (steps : List Step) :
    finds rules (.start :: steps) text = passesFrom rules text steps text := by
  rw [Bool.eq_iff_iff, finds, List.any_eq_true]
  constructor
  · rintro ⟨rest, -, hpasses⟩
    rw [passesFrom, Bool.and_eq_true, beq_iff_eq] at hpasses
    obtain ⟨rfl, hrest⟩ := hpasses
    exact hrest
  · intro hpasses
    refine ⟨text, (List.mem_tails _ _).2 (List.suffix_refl text), ?_⟩
    rw [passesFrom, beq_self_eq_true, Bool.true_and, hpasses]

theorem any_congr_of_mem {α : Type} {xs : List α} {f g : α → Bool} (h : ∀ x ∈ xs, f x = g x) :
    xs.any f = xs.any g := by
  have hmap := congrArg (·.any id) (List.map_congr_left h)
  simpa only [List.any_map, Function.id_comp] using hmap

theorem suffix_of_mem_behindOne {passes : Char → Bool} {rest : List Char}
    (h : rest ∈ behindOne passes text) : rest <:+ text := by
  cases text with
  | nil => cases h
  | cons c others =>
    rw [behindOne] at h
    split at h
    · rw [List.mem_singleton.1 h]
      exact List.suffix_cons c others
    · cases h

theorem matchesPattern_run (pattern : List Char) :
    matchesPattern rules ('%' :: pattern) text = text.tails.any (matchesPattern rules pattern) := by
  cases text <;> rw [matchesPattern, if_pos rfl]

theorem matchesPattern_cons {p : Char} (h : p ≠ '%') (pattern : List Char) :
    matchesPattern rules (p :: pattern) text
      = (behindOne (fun c => p == '_' || rules.same p c) text).any (matchesPattern rules pattern) := by
  cases text with
  | nil => rw [matchesPattern, if_neg h, behindOne, List.any_nil]
  | cons c rest =>
    rw [matchesPattern, if_neg h, behindOne]
    cases p == '_' || rules.same p c <;> simp

/-- A test that is not repeated takes a character that the pattern takes. -/
theorem behindOne_stepOf {p : Char} (hline : ∀ c ∈ text, rules.endsLine c = false) :
    behindOne ((if p = '_' then CharTest.any else .literal p).passes rules) text
      = behindOne (fun c => p == '_' || rules.same p c) text := by
  cases text with
  | nil => rfl
  | cons c rest =>
    rw [behindOne, behindOne]
    by_cases hone : p = '_'
    · rw [if_pos hone, CharTest.passes, hline c List.mem_cons_self, hone]
      rfl
    · rw [if_neg hone, CharTest.passes, beq_false_of_ne hone, Bool.false_or]

theorem stepOf_ofChar {p : Char} (h : p ≠ '%') :
    stepOf (.ofChar p) = .chars (if p = '_' then CharTest.any else .literal p) .once := by
  rw [PatternPart.ofChar, beq_false_of_ne h, if_neg Bool.false_ne_true]
  by_cases hone : p = '_'
  · rw [hone]
    rfl
  · rw [if_neg hone, beq_false_of_ne hone, if_neg Bool.false_ne_true, stepOf]

/-- The steps of a pattern can be taken through the lines that the pattern matches. -/
theorem passesFrom_pattern (whole pattern : List Char) (h : ∀ c ∈ text, rules.endsLine c = false) :
    passesFrom rules whole ((patternParts pattern).map stepOf ++ [.stop]) text
      = matchesPattern rules pattern text := by
  induction pattern generalizing text with
  | nil =>
    show (atStop rules text && true) = _
    rw [Bool.and_true, atStop_of_line h, matchesPattern]
  | cons p pattern ih =>
    -- what is left of a line is on the line as well
    have hrest : ∀ rest, rest <:+ text →
        passesFrom rules whole ((patternParts pattern).map stepOf ++ [.stop]) rest
          = matchesPattern rules pattern rest :=
      fun rest hsuffix => ih fun c hc => h c (hsuffix.subset hc)
    rw [patternParts, List.map_cons, ← patternParts, List.map_cons, List.cons_append]
    by_cases hrun : p = '%'
    · subst hrun
      rw [matchesPattern_run]
      show (behindRun (CharTest.any.passes rules) text).any _ = _
      rw [behindRun_any h]
      exact any_congr_of_mem fun rest hmem => hrest rest ((List.mem_tails _ _).1 hmem)
    · rw [matchesPattern_cons hrun, stepOf_ofChar hrun, passesFrom, Repetition.behind,
        behindOne_stepOf h]
      exact any_congr_of_mem fun rest hmem => hrest rest (suffix_of_mem_behindOne hmem)

end Regex

/-- **The regular expression of a pattern matches what the pattern matches.** It can be read, and it is
    found in a text of one line exactly if the pattern matches the text, whatever characters end lines
    and whatever characters count as the same. -/
theorem regex_finds_pattern (rules : CharRules) (pattern text : String)
    (h : ∀ c ∈ text.toList, rules.endsLine c = false) :
    ∃ steps, Regex.ofText? (patternRegex pattern) = some steps
      ∧ Regex.finds rules steps text.toList = matchesPattern rules pattern.toList text.toList := by
  refine ⟨_, Regex.ofText?_patternRegex pattern, ?_⟩
  rw [Regex.finds_start, Regex.passesFrom_pattern _ _ h]

/-- Signs of regular expressions in a pattern stand for themselves, also behind one another. -/
theorem regex_finds_pattern_signs :
    ∃ (rules : CharRules) (steps : List Regex.Step),
      rules = { endsLine := (· == '\n'), same := (· == ·) }
      ∧ Regex.ofText? (patternRegex "1.*_%)") = some steps
      ∧ Regex.finds rules steps "1.*+()".toList = true
      ∧ Regex.finds rules steps "1((()".toList = false := by
  obtain ⟨steps, hread, hfound⟩ := regex_finds_pattern
    { endsLine := (· == '\n'), same := (· == ·) } "1.*_%)" "1.*+()" (by simp)
  obtain ⟨steps', hread', hmissed⟩ := regex_finds_pattern
    { endsLine := (· == '\n'), same := (· == ·) } "1.*_%)" "1((()" (by simp)
  obtain rfl := Option.some.inj (hread.symm.trans hread')
  exact ⟨_, steps, rfl, hread, hfound.trans (by decide), hmissed.trans (by decide)⟩

end QueryKit.Document
