import Mathlib
import QueryKit.Json.Parser
import QueryKit.Json.Printer
import QueryKit.Proofs.Text.Numerals

set_option autoImplicit false

/-! # JSON texts are read back

The text of a value is read as that value, with line breaks (`reads_pretty`) and without
(`reads_compact`), so that no two values have the same text (`compact_inj`). This holds of values
whose numbers are integers of 64 bits (`IsWhole`). It is found from what reading does with a part of
a text, whatever stands behind it (`Reads`): the parts of a list or an object that are read make the
list or the object be read, with any blanks between them. -/

namespace QueryKit.Json

open Text

/-! ## Strings -/

/-- A character is escaped with a letter of its own, or as a control with its number, or stands for
    itself. -/
theorem escapeChar_cases (c : Char) :
    (∃ e, escapeChar c = ['\\', e] ∧ e ≠ 'u' ∧ escaped? e = some c)
      ∨ (c.toNat < 0x20 ∧ escapeChar c = '\\' :: 'u' :: hexFixed 4 c.toNat)
      ∨ (escapeChar c = [c] ∧ c ≠ '"' ∧ c ≠ '\\' ∧ 0x20 ≤ c.toNat) := by
  unfold escapeChar
  split
  case h_8 hquote hslash _ _ _ _ _ =>
    by_cases hcontrol : c.toNat < 0x20
    · rw [if_pos hcontrol]
      exact .inr (.inl ⟨hcontrol, rfl⟩)
    · rw [if_neg hcontrol]
      exact .inr (.inr ⟨rfl, hquote, hslash, by omega⟩)
  all_goals exact .inl ⟨_, rfl, by decide, rfl⟩

theorem hexNumber?_hexFixed_of_control :
    ∀ n < 0x20, ∃ a b c d, hexFixed 4 n = [a, b, c, d] ∧ hexNumber? [a, b, c, d] = some n := by
  intro n hn
  refine ⟨_, _, _, _, rfl, ?_⟩
  revert n
  decide

/-- An escaped character is read as one piece that stands for it. -/
theorem exists_piece (c : Char) :
    ∃ p, (∀ acc rest, pieces? acc (escapeChar c ++ rest) = pieces? (p :: acc) rest)
      ∧ ∀ acc rest, text? acc (p :: rest) = text? (c :: acc) rest := by
  rcases escapeChar_cases c with ⟨e, hc, he, hescaped⟩ | ⟨hcontrol, hc⟩ | ⟨hc, hquote, hslash, hlow⟩
  · refine ⟨.char c, ?_, fun _ _ => rfl⟩
    intro acc rest
    rw [hc]
    show pieces? acc ('\\' :: e :: rest) = _
    rw [pieces?.eq_def]
    simp [he, hescaped]
  · obtain ⟨h₁, h₂, h₃, h₄, hhex, hnumber⟩ := hexNumber?_hexFixed_of_control c.toNat hcontrol
    refine ⟨.unit c.toNat, ?_, ?_⟩
    · intro acc rest
      rw [hc, hhex]
      show pieces? acc ('\\' :: 'u' :: h₁ :: h₂ :: h₃ :: h₄ :: rest) = _
      rw [pieces?, hnumber]
    · intro acc rest
      rw [text?.eq_def]
      dsimp only
      rw [if_pos (by simp; omega), Char.ofNat_toNat]
  · refine ⟨.char c, ?_, fun _ _ => rfl⟩
    intro acc rest
    rw [hc]
    show pieces? acc (c :: rest) = _
    rw [pieces?.eq_def]
    simp [hslash, Nat.not_lt.2 hlow]

/-- A quoted text is read as itself. -/
theorem string?_quoted (cs rest : List Char) :
    string? (cs.flatMap escapeChar ++ '"' :: rest) = some (some (String.ofList cs), rest) := by
  have hread : ∃ ps, (∀ acc, pieces? acc (cs.flatMap escapeChar ++ '"' :: rest)
        = some (acc.reverse ++ ps, rest))
      ∧ ∀ acc, text? acc ps = some (String.ofList (acc.reverse ++ cs)) := by
    induction cs with
    | nil =>
      refine ⟨[], fun acc => ?_, fun acc => ?_⟩
      · simp [pieces?]
      · simp [text?]
    | cons c cs ih =>
      obtain ⟨p, hpiece, htext⟩ := exists_piece c
      obtain ⟨ps, hpieces, htexts⟩ := ih
      refine ⟨p :: ps, fun acc => ?_, fun acc => ?_⟩
      · rw [List.flatMap_cons, List.append_assoc, hpiece, hpieces]
        simp
      · rw [htext, htexts]
        simp
  obtain ⟨ps, hpieces, htext⟩ := hread
  unfold string?
  rw [hpieces]
  show some (text? [] ps, rest) = _
  rw [htext]
  rfl

/-! ## Integers -/

/-- What can stand behind a value: a blank, a comma or a closing bracket, or nothing more. -/
def Follows (cs : List Char) : Prop :=
  ∀ c ∈ cs.head?, c ∈ [' ', '\n', '\t', '\r', ',', ']', '\x7d']

/-- The integers that JSON texts can hold as such: those of 64 bits, signed or unsigned. -/
def IsWide (n : Int) : Prop :=
  Int64.minValue.toInt ≤ n ∧ n < UInt64.size

theorem takeDigits_eq {acc : Nat} {ds : List Char} (h : Nat.ofDigitChars 10 ds acc < UInt64.size) :
    JsonNumber.takeDigits acc ds = (Nat.ofDigitChars 10 ds acc, 0) := by
  induction ds generalizing acc with
  | nil => simp [JsonNumber.takeDigits]
  | cons d ds ih =>
    have hle : ∀ n, n ≤ Nat.ofDigitChars 10 ds n := by
      intro n
      rw [Nat.ofDigitChars_eq_ofDigitChars_zero]
      have : 1 ≤ 10 ^ ds.length := Nat.one_le_pow _ _ (by decide)
      nlinarith
    rw [Nat.ofDigitChars_cons, Nat.mul_comm] at h ⊢
    rw [JsonNumber.takeDigits]
    exact (if_pos (Nat.lt_of_le_of_lt (hle _) h)).trans (ih h)

theorem Follows.cases {c : Char} {cs : List Char} (h : Follows (c :: cs)) :
    c = ' ' ∨ c = '\n' ∨ c = '\t' ∨ c = '\r' ∨ c = ',' ∨ c = ']' ∨ c = '\x7d' := by
  simpa using h c rfl

theorem Follows.stopsDigits {cs : List Char} (h : Follows cs) : StopsDigits cs := by
  intro c hc
  cases cs with
  | nil => cases hc
  | cons d cs =>
    cases hc
    rcases h.cases with rfl | rfl | rfl | rfl | rfl | rfl | rfl <;> rfl

theorem split?_digits {m : Nat} {rest : List Char} (hrest : Follows rest) (sign : Bool) :
    JsonNumber.split? ((if sign then ['-'] else []) ++ (digits m ++ rest))
      = some (⟨sign, digits m, none, none⟩, rest) := by
  have hdigits : ∀ d ∈ digits m, d.isDigit = true := fun _ h => isDigit_of_mem_digits h
  have htake := takeWhile_isDigit_append hdigits hrest.stopsDigits
  have hdrop := dropWhile_isDigit_append hdigits hrest.stopsDigits
  have hshape : ((digits m).isEmpty || ((digits m).head? == some '0' && (digits m).length != 1))
      = false := by
    have hne := digits_ne_nil m
    by_cases hm : m = 0
    · subst hm
      rfl
    · have := mt (head?_digits m).1 hm
      simp [hne, this]
  have hsign : ∀ cs, digits m ++ rest ≠ '-' :: cs := by
    intro cs heq
    obtain ⟨d, ds, hds, hdigit⟩ := exists_digits_eq_cons m
    rw [hds, List.cons_append] at heq
    rw [(List.cons.inj heq).1] at hdigit
    cases hdigit
  unfold JsonNumber.split?
  cases sign
  all_goals
    simp only [Bool.false_eq_true, if_false, if_true, List.nil_append, List.singleton_append, htake,
      hdrop, hshape]
    cases rest with
    | nil => rfl
    | cons c rest =>
      rcases hrest.cases with rfl | rfl | rfl | rfl | rfl | rfl | rfl <;> rfl

theorem toNumber?_digits {sign : Bool} {m : Nat} (hm : m < UInt64.size)
    (hsign : sign = true → 0 < m ∧ m ≤ Int64.minValue.toInt.natAbs) :
    (⟨sign, digits m, none, none⟩ : JsonNumber.Parts).toNumber?
      = some (.integer (if sign then -(m : Int) else m)) := by
  have hvalue : Nat.ofDigitChars 10 (digits m) 0 = m :=
    Nat.ofDigitChars_toDigits (by decide) (by decide)
  unfold JsonNumber.Parts.toNumber?
  dsimp only
  rw [takeDigits_eq (hvalue.symm ▸ hm), hvalue]
  refine if_pos ?_
  generalize Int64.minValue.toInt.natAbs = bound at hsign
  cases sign with
  | false => simp
  | true => simpa using hsign rfl

/-- An integer of 64 bits is split from what follows it, and is the number that was written. -/
theorem split?_integer {n : Int} (hn : IsWide n) {rest : List Char} (hrest : Follows rest) :
    ∃ parts, JsonNumber.split? ((toString n).toList ++ rest) = some (parts, rest)
      ∧ parts.toNumber? = some (.integer n) := by
  obtain ⟨hlow, hhigh⟩ := hn
  have hlimit : Int64.minValue.toInt = -9223372036854775808 := rfl
  have hsize : UInt64.size = 18446744073709551616 := rfl
  refine ⟨⟨decide (n < 0), digits n.natAbs, none, none⟩, ?_, ?_⟩
  · have hsplit := split?_digits hrest (m := n.natAbs) (decide (n < 0))
    rw [toList_toString, List.append_assoc]
    simpa only [decide_eq_true_eq] using hsplit
  · have hmost : decide (n < 0) = true → 0 < n.natAbs ∧ n.natAbs ≤ Int64.minValue.toInt.natAbs := by
      rw [hlimit, decide_eq_true_eq]
      omega
    rw [toNumber?_digits (by omega) hmost]
    by_cases hsign : n < 0
    · rw [if_pos (decide_eq_true hsign), show -(n.natAbs : Int) = n by omega]
    · rw [if_neg (by simpa using hsign), show (n.natAbs : Int) = n by omega]

/-! ## Blanks -/

/-- Nothing but blanks. -/
def IsGap (cs : List Char) : Prop :=
  ∀ c ∈ cs, (c == ' ' || c == '\n' || c == '\t' || c == '\r') = true

theorem skipBlanks_append {gap : List Char} (hgap : IsGap gap) (cs : List Char) :
    skipBlanks (gap ++ cs) = skipBlanks cs :=
  List.dropWhile_append_of_pos hgap

theorem skipBlanks_skipBlanks (cs : List Char) : skipBlanks (skipBlanks cs) = skipBlanks cs := by
  unfold skipBlanks
  rw [List.dropWhile_idempotent]

theorem start?_gap_append {gap : List Char} (hgap : IsGap gap) (cs : List Char) :
    start? (gap ++ cs) = start? cs := by
  unfold start?
  rw [skipBlanks_append hgap]

theorem start?_skipBlanks (cs : List Char) : start? (skipBlanks cs) = start? cs := by
  unfold start?
  rw [skipBlanks_skipBlanks]

theorem Follows.gap_append {gap : List Char} (hgap : IsGap gap) {cs : List Char} (h : Follows cs) :
    Follows (gap ++ cs) := by
  cases gap with
  | nil => exact h
  | cons c gap =>
    intro d hd
    cases hd
    have hblank := hgap c List.mem_cons_self
    simp only [Bool.or_eq_true, beq_iff_eq] at hblank
    rcases hblank with ((rfl | rfl) | rfl) | rfl <;> simp

theorem follows_cons (c : Char) (cs : List Char)
    (hc : c ∈ [' ', '\n', '\t', '\r', ',', ']', '\x7d']) : Follows (c :: cs) := by
  intro d hd
  cases hd
  exact hc

/-! ## Steps of reading -/

/-- Where reading stands: the open frames, what has been read last, and the text ahead. -/
abbrev Stand := List Frame × Part × List Char

/-- So many steps lead from one stand to another. -/
def Leads (n : Nat) (s t : Stand) : Prop :=
  ∀ fuel, finish? (fuel + n) s.1 s.2.1 s.2.2 = finish? fuel t.1 t.2.1 t.2.2

namespace Leads

theorem refl (s : Stand) : Leads 0 s s :=
  fun _ => rfl

theorem trans {n m : Nat} {s t u : Stand} (h : Leads n s t) (h' : Leads m t u) :
    Leads (n + m) s u := by
  intro fuel
  rw [Nat.add_comm n, ← Nat.add_assoc, h, h']

theorem start {frames : List Frame} {frame : Frame} {part : Part} {cs rest : List Char}
    (h : start? cs = some (part, rest)) :
    Leads 1 (frames, .waiting frame, cs) (frame :: frames, part, rest) := by
  intro fuel
  rw [finish?]
  dsimp only
  rw [h]

theorem put {frames : List Frame} {frame : Frame} {v : Written} {part : Part} {cs rest : List Char}
    (h : frame.put? v cs = some (part, rest)) :
    Leads 1 (frame :: frames, .whole v, cs) (frames, part, rest) := by
  intro fuel
  rw [finish?]
  dsimp only
  rw [h]

/-- Only how the next value starts matters to a waiting frame. -/
theorem of_start?_eq {n : Nat} {frames : List Frame} {frame : Frame} {cs cs' : List Char}
    {t : Stand} (h : start? cs = start? cs') (hleads : Leads n (frames, .waiting frame, cs') t) :
    Leads n (frames, .waiting frame, cs) t := by
  intro fuel
  rw [← hleads]
  cases fuel + n with
  | zero => rfl
  | succ fuel =>
    show finish? (fuel + 1) frames (.waiting frame) cs
      = finish? (fuel + 1) frames (.waiting frame) cs'
    rw [finish?, finish?, h]

end Leads

/-- A text is read as what is written there, whatever comes behind it, in fewer steps than it has
    characters. -/
def Reads (w : Written) (cs : List Char) : Prop :=
  ∀ rest, Follows rest → ∃ part left n, start? (cs ++ rest) = some (part, left) ∧ n < cs.length
    ∧ ∀ frames, Leads n (frames, part, left) (frames, .whole w, rest)

namespace Reads

/-- A value that is read in one go. -/
theorem of_start {w : Written} {cs : List Char} (hne : cs ≠ [])
    (h : ∀ rest, Follows rest → start? (cs ++ rest) = some (.whole w, rest)) : Reads w cs :=
  fun rest hrest => ⟨.whole w, rest, 0, h rest hrest, List.length_pos_iff.2 hne,
    fun _ => Leads.refl _⟩

theorem null : Reads .null "null".toList :=
  of_start (by decide) fun _ _ => rfl

theorem bool (b : Bool) : Reads (.bool b) (if b then "true" else "false").toList := by
  cases b with
  | false => exact of_start (by decide) fun _ _ => rfl
  | true => exact of_start (by decide) fun _ _ => rfl

theorem string (s : String) : Reads (.string (some s)) (quote s).toList := by
  unfold quote
  rw [String.toList_ofList]
  refine of_start (by simp) ?_
  intro rest hrest
  show (string? ((s.toList.flatMap escapeChar ++ ['"']) ++ rest)).map _ = _
  rw [List.append_assoc, List.singleton_append, string?_quoted, String.ofList_toList]
  rfl

/-- What begins like a number is read as one. -/
theorem start?_of_number {c : Char} (hc : c = '-' ∨ c.isDigit = true) (cs : List Char) :
    start? (c :: cs) = (JsonNumber.split? (c :: cs)).map fun (parts, rest) =>
      (.whole (.number parts.toNumber?), rest) := by
  have hne : ∀ d, d ≠ '-' → d.isDigit = false → c ≠ d := by
    rintro d hminus hdigit rfl
    rcases hc with hc | hc
    · exact hminus hc
    · rw [hdigit] at hc
      cases hc
  have hskip : skipBlanks (c :: cs) = c :: cs := by
    refine List.dropWhile_cons_of_neg ?_
    simp [hne ' ' (by decide) (by decide), hne '\n' (by decide) (by decide),
      hne '\t' (by decide) (by decide), hne '\r' (by decide) (by decide)]
  unfold start?
  rw [hskip]
  split
  · next heq => exact absurd (List.cons.inj heq).1 (hne 'n' (by decide) (by decide))
  · next heq => exact absurd (List.cons.inj heq).1 (hne 't' (by decide) (by decide))
  · next heq => exact absurd (List.cons.inj heq).1 (hne 'f' (by decide) (by decide))
  · next heq => exact absurd (List.cons.inj heq).1 (hne '"' (by decide) (by decide))
  · next heq => exact absurd (List.cons.inj heq).1 (hne '[' (by decide) (by decide))
  · next heq => exact absurd (List.cons.inj heq).1 (hne '\x7b' (by decide) (by decide))
  · rfl

theorem int {n : Int} (hn : IsWide n) :
    Reads (.number (some (.integer n))) (JsonNumber.integer n).toText.toList := by
  obtain ⟨c, cs, hcs, hc⟩ : ∃ c cs, (toString n).toList = c :: cs
      ∧ (c = '-' ∨ c.isDigit = true) := by
    rw [toList_toString]
    split
    · exact ⟨'-', digits n.natAbs, rfl, .inl rfl⟩
    · obtain ⟨d, ds, hds, hdigit⟩ := exists_digits_eq_cons n.natAbs
      exact ⟨d, ds, hds, .inr hdigit⟩
  show Reads _ (toString n).toList
  refine of_start (by rw [hcs]; exact List.cons_ne_nil _ _) ?_
  intro rest hrest
  obtain ⟨parts, hsplit, hparts⟩ := split?_integer hn hrest
  rw [hcs, List.cons_append] at hsplit ⊢
  rw [start?_of_number hc, hsplit, Option.map_some]
  dsimp only
  rw [hparts]

/-- A waiting frame gets the value. -/
theorem leads {w : Written} {cs rest : List Char} (h : Reads w cs) (hrest : Follows rest) :
    ∃ n ≤ cs.length, ∀ frame frames,
      Leads n (frames, .waiting frame, cs ++ rest) (frame :: frames, .whole w, rest) := by
  obtain ⟨part, left, n, hstart, hn, hleads⟩ := h rest hrest
  exact ⟨1 + n, by omega, fun frame frames => (Leads.start hstart).trans (hleads _)⟩

/-! ### Lists and objects -/

theorem start?_of_empty_list {cs rest : List Char} (h : skipBlanks cs = ']' :: rest) :
    start? ('[' :: cs) = some (.whole (.array []), rest) := by
  unfold start?
  simp only [show skipBlanks ('[' :: cs) = '[' :: cs from rfl, h]

theorem start?_of_list {cs : List Char} (h : ∀ rest, skipBlanks cs ≠ ']' :: rest) :
    start? ('[' :: cs) = some (.waiting (.array []), skipBlanks cs) := by
  unfold start?
  -- That the list is not empty leaves one way to go on.
  simp only [show skipBlanks ('[' :: cs) = '[' :: cs from rfl]

theorem start?_of_empty_object {cs rest : List Char} (h : skipBlanks cs = '\x7d' :: rest) :
    start? ('\x7b' :: cs) = some (.whole (.object []), rest) := by
  unfold start?
  simp only [show skipBlanks ('\x7b' :: cs) = '\x7b' :: cs from rfl, h]

theorem start?_of_object {cs rest : List Char} (h : skipBlanks cs = '"' :: rest) :
    start? ('\x7b' :: cs) = fieldName? [] ('"' :: rest) := by
  unfold start?
  simp only [show skipBlanks ('\x7b' :: cs) = '\x7b' :: cs from rfl, h]
  rfl

/-- What stands behind the first of the entries of a list or an object. -/
def behind (gap : List Char) (texts : List (List Char)) : List Char :=
  texts.flatMap fun text => ',' :: (gap ++ text)

theorem intercalate_eq_behind (gap text : List Char) (texts : List (List Char)) :
    (',' :: gap).intercalate (text :: texts) = text ++ behind gap texts := by
  induction texts generalizing text with
  | nil => simp [behind]
  | cons next texts ih =>
    rw [List.intercalate_cons_cons, ih next]
    simp [behind]

theorem follows_behind {last closing : List Char} (hlast : IsGap last) (hclosing : Follows closing)
    (gap : List Char) (texts : List (List Char)) :
    Follows (behind gap texts ++ (last ++ closing)) := by
  cases texts with
  | nil => exact hclosing.gap_append hlast
  | cons text texts => exact follows_cons ',' _ (by decide)

section

variable {gap last : List Char} (hgap : IsGap gap) (hlast : IsGap last)

include hgap hlast

/-- The items of a list are read one after another until it is closed. -/
theorem leads_items {ws : List Written} {texts : List (List Char)} (h : List.Forall₂ Reads ws texts)
    {w : Written} {text : List Char} (hfirst : Reads w text) (done : List Written)
    (rest : List Char) :
    ∃ n ≤ (text ++ behind gap texts).length + 1, ∀ frames,
      Leads n
        (frames, .waiting (.array done), text ++ (behind gap texts ++ (last ++ ']' :: rest)))
        (frames, .whole (.array (done.reverse ++ w :: ws)), rest) := by
  have hclosing : Follows (']' :: rest) := follows_cons ']' rest (by decide)
  induction h generalizing w text done with
  | nil =>
    obtain ⟨n, hn, hvalue⟩ := hfirst.leads (follows_behind hlast hclosing gap [])
    have hput : (Frame.array done).put? w (last ++ ']' :: rest)
        = some (.whole (.array (w :: done).reverse), rest) := by
      unfold Frame.put?
      rw [skipBlanks_append hlast]
      rfl
    refine ⟨n + 1, by simp [behind]; omega, fun frames => ?_⟩
    have := (hvalue (.array done) frames).trans (Leads.put hput)
    rwa [List.reverse_cons] at this
  | @cons next nextText ws texts hnext hmore ih =>
    obtain ⟨n, hn, hvalue⟩ :=
      hfirst.leads (follows_behind hlast hclosing gap (nextText :: texts))
    obtain ⟨m, hm, hrest⟩ := ih hnext (w :: done)
    have hput : (Frame.array done).put? w
          (behind gap (nextText :: texts) ++ (last ++ ']' :: rest))
        = some (.waiting (.array (w :: done)),
            gap ++ (nextText ++ (behind gap texts ++ (last ++ ']' :: rest)))) := by
      simp [behind, Frame.put?, skipBlanks]
    refine ⟨n + 1 + m, ?_, fun frames => ?_⟩
    · simp only [behind, List.flatMap_cons, List.length_append, List.length_cons] at hm ⊢
      omega
    · have hafter := Leads.of_start?_eq (start?_gap_append hgap _) (hrest frames)
      have := ((hvalue (.array done) frames).trans (Leads.put hput)).trans hafter
      rwa [List.reverse_cons, List.append_assoc] at this

/-- A list of texts that are read is read as the list. -/
theorem array {ws : List Written} {texts : List (List Char)} (h : List.Forall₂ Reads ws texts) :
    Reads (.array ws) ('[' :: (gap ++ ((',' :: gap).intercalate texts ++ (last ++ [']'])))) := by
  intro rest hrest
  cases h with
  | nil =>
    refine ⟨.whole (.array []), rest, 0, ?_, by simp, fun _ => Leads.refl _⟩
    simp only [List.intercalate_nil, List.nil_append, List.cons_append, List.append_assoc]
    refine start?_of_empty_list ?_
    rw [skipBlanks_append hgap, skipBlanks_append hlast]
    rfl
  | @cons w text ws texts hfirst hmore =>
    obtain ⟨n, hn, hleads⟩ := leads_items hgap hlast hmore hfirst [] rest
    obtain ⟨part, left, -, hstart, -, -⟩ :=
      hfirst _ (follows_behind hlast (follows_cons ']' rest (by decide)) gap texts)
    have hcs : '[' :: (gap ++ ((',' :: gap).intercalate (text :: texts) ++ (last ++ [']']))) ++ rest
        = '[' :: (gap ++ (text ++ (behind gap texts ++ (last ++ ']' :: rest)))) := by
      rw [intercalate_eq_behind]
      simp
    rw [hcs]
    generalize text ++ (behind gap texts ++ (last ++ ']' :: rest)) = ahead at hstart hleads
    refine ⟨.waiting (.array []), skipBlanks ahead, n, ?_, ?_, ?_⟩
    · rw [← skipBlanks_append hgap]
      refine start?_of_list ?_
      intro rest heq
      rw [skipBlanks_append hgap] at heq
      rw [← start?_skipBlanks, heq] at hstart
      cases hstart
    · rw [intercalate_eq_behind]
      simp only [List.length_append, List.length_cons] at hn ⊢
      omega
    · exact fun frames => Leads.of_start?_eq (start?_skipBlanks ahead) (hleads frames)

/-! ### Objects -/

omit hgap hlast in
/-- A text that is read as a field: its name in quotes, a colon, and its value behind blanks. -/
def Field (field : Option String × Written) (cs : List Char) : Prop :=
  ∃ name w space text, field = (some name, w) ∧ IsGap space ∧ Reads w text
    ∧ cs = (quote name).toList ++ ':' :: (space ++ text)

omit hlast in
theorem fieldName?_quote (done : List (Option String × Written)) (name : String)
    (rest : List Char) : fieldName? done (gap ++ ((quote name).toList ++ ':' :: rest))
      = some (.waiting (.object done (some name)), rest) := by
  have hquote : (quote name).toList ++ ':' :: rest
      = '"' :: (name.toList.flatMap escapeChar ++ '"' :: ':' :: rest) := by
    unfold quote
    rw [String.toList_ofList]
    simp
  unfold fieldName?
  rw [skipBlanks_append hgap, hquote]
  show (string? (name.toList.flatMap escapeChar ++ '"' :: ':' :: rest)).bind _ = _
  rw [string?_quoted, String.ofList_toList]
  rfl

/-- The fields of an object are read one after another until it is closed. -/
theorem leads_fields {fields : List (Option String × Written)} {texts : List (List Char)}
    (h : List.Forall₂ Field fields texts) {w : Written} {text : List Char} (hfirst : Reads w text)
    (done : List (Option String × Written)) (name : String) (rest : List Char) :
    ∃ n ≤ (text ++ behind gap texts).length + 1, ∀ frames,
      Leads n
        (frames, .waiting (.object done (some name)),
          text ++ (behind gap texts ++ (last ++ '\x7d' :: rest)))
        (frames, .whole (.object (done.reverse ++ (some name, w) :: fields)), rest) := by
  have hclosing : Follows ('\x7d' :: rest) := follows_cons '\x7d' rest (by decide)
  induction h generalizing w text done name with
  | nil =>
    obtain ⟨n, hn, hvalue⟩ := hfirst.leads (follows_behind hlast hclosing gap [])
    have hput : (Frame.object done (some name)).put? w (last ++ '\x7d' :: rest)
        = some (.whole (.object ((some name, w) :: done).reverse), rest) := by
      unfold Frame.put?
      rw [skipBlanks_append hlast]
      rfl
    refine ⟨n + 1, by simp [behind]; omega, fun frames => ?_⟩
    have := (hvalue (.object done (some name)) frames).trans (Leads.put hput)
    rwa [List.reverse_cons] at this
  | @cons field fieldText fields texts hfield hmore ih =>
    obtain ⟨next, nextValue, space, nextText, rfl, hspace, hnext, rfl⟩ := hfield
    obtain ⟨n, hn, hvalue⟩ :=
      hfirst.leads (follows_behind hlast hclosing gap
        (((quote next).toList ++ ':' :: (space ++ nextText)) :: texts))
    obtain ⟨m, hm, hrest⟩ := ih hnext ((some name, w) :: done) next
    have hput : (Frame.object done (some name)).put? w
          (behind gap (((quote next).toList ++ ':' :: (space ++ nextText)) :: texts)
            ++ (last ++ '\x7d' :: rest))
        = some (.waiting (.object ((some name, w) :: done) (some next)),
            space ++ (nextText ++ (behind gap texts ++ (last ++ '\x7d' :: rest)))) := by
      have hbehind : behind gap (((quote next).toList ++ ':' :: (space ++ nextText)) :: texts)
            ++ (last ++ '\x7d' :: rest)
          = ',' :: (gap ++ ((quote next).toList ++ ':' ::
              (space ++ (nextText ++ (behind gap texts ++ (last ++ '\x7d' :: rest)))))) := by
        simp [behind]
      rw [hbehind]
      exact fieldName?_quote hgap _ next _
    refine ⟨n + 1 + m, ?_, fun frames => ?_⟩
    · simp only [behind, List.flatMap_cons, List.length_append, List.length_cons] at hm ⊢
      omega
    · have hafter := Leads.of_start?_eq (start?_gap_append hspace _) (hrest frames)
      have := ((hvalue (.object done (some name)) frames).trans (Leads.put hput)).trans hafter
      rwa [List.reverse_cons, List.append_assoc] at this

/-- A list of texts that are read as fields is read as the object. -/
theorem object {fields : List (Option String × Written)} {texts : List (List Char)}
    (h : List.Forall₂ Field fields texts) :
    Reads (.object fields)
      ('\x7b' :: (gap ++ ((',' :: gap).intercalate texts ++ (last ++ ['\x7d'])))) := by
  intro rest hrest
  cases h with
  | nil =>
    refine ⟨.whole (.object []), rest, 0, ?_, by simp, fun _ => Leads.refl _⟩
    simp only [List.intercalate_nil, List.nil_append, List.cons_append, List.append_assoc]
    refine start?_of_empty_object ?_
    rw [skipBlanks_append hgap, skipBlanks_append hlast]
    rfl
  | @cons field fieldText fields texts hfield hmore =>
    obtain ⟨name, w, space, text, rfl, hspace, hfirst, rfl⟩ := hfield
    obtain ⟨n, hn, hleads⟩ := leads_fields hgap hlast hmore hfirst [] name rest
    have hcs : '\x7b' :: (gap ++ ((',' :: gap).intercalate
          (((quote name).toList ++ ':' :: (space ++ text)) :: texts) ++ (last ++ ['\x7d']))) ++ rest
        = '\x7b' :: (gap ++ ((quote name).toList ++ ':' ::
            (space ++ (text ++ (behind gap texts ++ (last ++ '\x7d' :: rest)))))) := by
      rw [intercalate_eq_behind]
      simp
    rw [hcs]
    generalize text ++ (behind gap texts ++ (last ++ '\x7d' :: rest)) = ahead at hleads
    refine ⟨.waiting (.object [] (some name)), space ++ ahead, n, ?_, ?_, ?_⟩
    · have hquote : ∃ cs, (quote name).toList ++ ':' :: (space ++ ahead) = '"' :: cs :=
        ⟨_, by unfold quote; rw [String.toList_ofList]; rfl⟩
      obtain ⟨cs, hcs⟩ := hquote
      have hskip :
          skipBlanks (gap ++ ((quote name).toList ++ ':' :: (space ++ ahead))) = '"' :: cs := by
        rw [skipBlanks_append hgap, hcs]
        rfl
      rw [start?_of_object hskip, ← hcs]
      exact @fieldName?_quote [] (by simp [IsGap]) [] name _
    · rw [intercalate_eq_behind]
      simp only [List.length_append, List.length_cons] at hn ⊢
      omega
    · exact fun frames => Leads.of_start?_eq (start?_gap_append hspace ahead) (hleads frames)

end

end Reads

/-! ## Texts of values -/

mutual

/-- A value as it is written. -/
def asWritten : Json → Written
  | .null => .null
  | .bool b => .bool b
  | .number n => .number (some n)
  | .string s => .string (some s)
  | .array items => .array (asWrittenItems items)
  | .object fields => .object (asWrittenFields fields)

/-- Items as they are written. -/
def asWrittenItems : List Json → List Written
  | [] => []
  | item :: rest => item.asWritten :: asWrittenItems rest

/-- Fields as they are written. -/
def asWrittenFields : List (String × Json) → List (Option String × Written)
  | [] => []
  | (name, value) :: rest => (some name, value.asWritten) :: asWrittenFields rest

end

mutual

/-- Has no other numbers than integers of 64 bits. -/
def IsWhole : Json → Prop
  | .number (.integer n) => IsWide n
  | .number (.float _) => False
  | .array items => AreWhole items
  | .object fields => HasWhole fields
  | _ => True

/-- Every item has no other numbers. -/
def AreWhole : List Json → Prop
  | [] => True
  | item :: rest => item.IsWhole ∧ AreWhole rest

/-- Every field has no other numbers. -/
def HasWhole : List (String × Json) → Prop
  | [] => True
  | (_, value) :: rest => value.IsWhole ∧ HasWhole rest

end

theorem asWrittenItems_eq_map (items : List Json) :
    asWrittenItems items = items.map asWritten := by
  induction items with
  | nil => rfl
  | cons item rest ih => rw [asWrittenItems, ih, List.map_cons]

theorem areWhole_iff {items : List Json} : AreWhole items ↔ ∀ item ∈ items, item.IsWhole := by
  induction items with
  | nil => simp [AreWhole]
  | cons item rest ih => simp [AreWhole, ih]

theorem block_layout (level : Nat) (opening closing : String) (entries : List String) :
    ∃ gap last, IsGap gap ∧ IsGap last
      ∧ (block level opening closing entries).toList
        = opening.toList ++ (gap ++ ((',' :: gap).intercalate (entries.map String.toList)
          ++ (last ++ closing.toList))) := by
  have hmargin : ∀ n, IsGap ('\n' :: List.replicate n ' ') := by
    intro n c hc
    rcases List.mem_cons.1 hc with rfl | hc
    · rfl
    · rw [List.eq_of_mem_replicate hc]
      rfl
  cases entries with
  | nil =>
    refine ⟨[], [], by simp [IsGap], by simp [IsGap], ?_⟩
    simp [block]
  | cons entry entries =>
    refine ⟨_, _, hmargin (2 * (level + 1)), hmargin (2 * level), ?_⟩
    simp [block, String.toList_intercalate]

mutual

/-- The text with line breaks is read as the value. -/
theorem reads_pretty (level : Nat) : ∀ j : Json, j.IsWhole →
    Reads j.asWritten (j.pretty level).toList
  | .null, _ => Reads.null
  | .bool b, _ => Reads.bool b
  | .number (.integer _), h => Reads.int h
  | .string s, _ => Reads.string s
  | .array items, h => by
    obtain ⟨gap, last, hgap, hlast, htext⟩ :=
      block_layout level "[" "]" (prettyItems (level + 1) items)
    show Reads _ (block level "[" "]" (prettyItems (level + 1) items)).toList
    rw [htext]
    exact Reads.array hgap hlast (reads_prettyItems (level + 1) items h)
  | .object fields, h => by
    obtain ⟨gap, last, hgap, hlast, htext⟩ :=
      block_layout level "\x7b" "\x7d" (prettyFields (level + 1) fields)
    show Reads _ (block level "\x7b" "\x7d" (prettyFields (level + 1) fields)).toList
    rw [htext]
    exact Reads.object hgap hlast (reads_prettyFields (level + 1) fields h)

theorem reads_prettyItems (level : Nat) : ∀ items : List Json, AreWhole items →
    List.Forall₂ Reads (asWrittenItems items) ((prettyItems level items).map String.toList)
  | [], _ => .nil
  | item :: rest, h => .cons (reads_pretty level item h.1) (reads_prettyItems level rest h.2)

theorem reads_prettyFields (level : Nat) : ∀ fields : List (String × Json), HasWhole fields →
    List.Forall₂ Reads.Field (asWrittenFields fields)
      ((prettyFields level fields).map String.toList)
  | [], _ => .nil
  | (name, value) :: rest, h => by
    refine .cons ⟨name, value.asWritten, [' '], _, rfl, by simp [IsGap],
      reads_pretty level value h.1, ?_⟩ (reads_prettyFields level rest h.2)
    simp

end

mutual

/-- The compact text is read as the value. -/
theorem reads_compact : ∀ j : Json, j.IsWhole → Reads j.asWritten j.compact.toList
  | .null, _ => Reads.null
  | .bool b, _ => Reads.bool b
  | .number (.integer _), h => Reads.int h
  | .string s, _ => Reads.string s
  | .array items, h => by
    have hgap : IsGap [] := by simp [IsGap]
    have hitems := Reads.array hgap hgap (reads_compactItems items h)
    show Reads (.array (asWrittenItems items))
      ("[" ++ String.intercalate "," (compactItems items) ++ "]").toList
    simpa [String.toList_append, String.toList_intercalate] using hitems
  | .object fields, h => by
    have hgap : IsGap [] := by simp [IsGap]
    have hfields := Reads.object hgap hgap (reads_compactFields fields h)
    show Reads (.object (asWrittenFields fields))
      ("\x7b" ++ String.intercalate "," (compactFields fields) ++ "\x7d").toList
    simpa [String.toList_append, String.toList_intercalate] using hfields

theorem reads_compactItems : ∀ items : List Json, AreWhole items →
    List.Forall₂ Reads (asWrittenItems items) ((compactItems items).map String.toList)
  | [], _ => .nil
  | item :: rest, h => .cons (reads_compact item h.1) (reads_compactItems rest h.2)

theorem reads_compactFields : ∀ fields : List (String × Json), HasWhole fields →
    List.Forall₂ Reads.Field (asWrittenFields fields) ((compactFields fields).map String.toList)
  | [], _ => .nil
  | (name, value) :: rest, h => by
    refine .cons ⟨name, value.asWritten, [], _, rfl, by simp [IsGap], reads_compact value h.1, ?_⟩
      (reads_compactFields rest h.2)
    simp

end

/-- A text that is read as a value and nothing else is how that value is written. -/
theorem written?_of_reads {w : Written} {s : String} (h : Reads w s.toList) :
    written? s = some w := by
  obtain ⟨part, left, n, hstart, hn, hleads⟩ := h [] (by simp [Follows])
  rw [List.append_nil] at hstart
  have hfinish : finish? (s.toList.length + 1) [] part left = some (w, []) := by
    have := hleads [] (s.toList.length + 1 - n)
    rw [Nat.sub_add_cancel (by omega)] at this
    rw [this]
    obtain ⟨fuel, hfuel⟩ : ∃ fuel, s.toList.length + 1 - n = fuel + 1 :=
      ⟨s.toList.length - n, by omega⟩
    rw [hfuel]
    rfl
  unfold written? value?
  rw [hstart, Option.bind_some]
  dsimp only
  rw [hfinish]
  rfl

mutual

/-- What is written determines the value. -/
theorem asWritten_inj : ∀ i j : Json, i.asWritten = j.asWritten → i = j
  | .null, j, h => by cases j <;> simp [asWritten] at h ⊢
  | .bool a, j, h => by cases j <;> simp [asWritten] at h ⊢; exact h
  | .number m, j, h => by cases j <;> simp [asWritten] at h ⊢; exact h
  | .string s, j, h => by cases j <;> simp [asWritten] at h ⊢; exact h
  | .array xs, j, h => by
    cases j <;> simp [asWritten] at h ⊢
    exact asWrittenItems_inj xs _ h
  | .object xs, j, h => by
    cases j <;> simp [asWritten] at h ⊢
    exact asWrittenFields_inj xs _ h

theorem asWrittenItems_inj : ∀ xs ys : List Json, asWrittenItems xs = asWrittenItems ys → xs = ys
  | [], [], _ => rfl
  | x :: xs, y :: ys, h => by
    rw [asWrittenItems, asWrittenItems, List.cons.injEq] at h
    rw [asWritten_inj x y h.1, asWrittenItems_inj xs ys h.2]

theorem asWrittenFields_inj : ∀ xs ys : List (String × Json),
    asWrittenFields xs = asWrittenFields ys → xs = ys
  | [], [], _ => rfl
  | (m, x) :: xs, (n, y) :: ys, h => by
    rw [asWrittenFields, asWrittenFields, List.cons.injEq, Prod.mk.injEq, Option.some.injEq] at h
    rw [h.1.1, asWritten_inj x y h.1.2, asWrittenFields_inj xs ys h.2]

end

/-- **Values with the same compact text are the same**, if they have no other numbers than integers
    of 64 bits. -/
theorem compact_inj {i j : Json} (hi : i.IsWhole) (hj : j.IsWhole) (h : i.compact = j.compact) :
    i = j := by
  have hread := written?_of_reads (reads_compact i hi)
  rw [h, written?_of_reads (reads_compact j hj), Option.some.injEq] at hread
  exact asWritten_inj i j hread.symm

end QueryKit.Json
