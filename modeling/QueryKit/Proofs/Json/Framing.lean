import Mathlib
import QueryKit.Proofs.Json.Reading

set_option autoImplicit false

/-! # Compact JSON behind a bar

Whatever stands in front of it, a compact JSON text behind a bar can be told apart from what is in
front (`eq_of_append_bar`): a bar that belongs to a JSON text stands within a string, and what comes
behind it is no JSON text of its own. For if it is gone through as one, quotes open where they close
for the whole text; as no text has a backslash outside of its strings, there is none at all behind
the bar, so that this stays so to the end, where both texts have closed all their strings. -/

namespace QueryKit.Json

open Text

/-! ## Quotes -/

/-- Where a text is: outside of strings, inside of one, or there behind a backslash. -/
inductive QuoteState
  | outside
  | inside
  | escaped
deriving DecidableEq

/-- Goes on by a character. There is no backslash and no bar outside of strings, and no bar behind a
    backslash. -/
def QuoteState.next? : QuoteState → Char → Option QuoteState
  | .outside, c =>
    if c = '"' then some .inside else if c = '\\' ∨ c = '|' then none else some .outside
  | .inside, c =>
    if c = '"' then some .outside else if c = '\\' then some .escaped else some .inside
  | .escaped, c => if c = '|' then none else some .inside

/-- Goes on by a text. -/
def QuoteState.after? (q : QuoteState) (cs : List Char) : Option QuoteState :=
  cs.foldlM QuoteState.next? q

namespace QuoteState

theorem after?_cons (q : QuoteState) (c : Char) (cs : List Char) :
    q.after? (c :: cs) = (q.next? c).bind fun q => q.after? cs :=
  List.foldlM_cons

theorem after?_append (q : QuoteState) (cs ds : List Char) :
    q.after? (cs ++ ds) = (q.after? cs).bind fun q => q.after? ds :=
  List.foldlM_append

/-- From outside and from inside, a text does not end in the same state. -/
theorem after?_ne {cs : List Char} {a b : QuoteState} (ha : after? .outside cs = some a)
    (hb : after? .inside cs = some b) : a ≠ b := by
  induction cs generalizing a b with
  | nil =>
    cases ha
    cases hb
    intro h
    cases h
  | cons c cs ih =>
    rw [after?_cons] at ha hb
    by_cases hquote : c = '"'
    · subst hquote
      exact (ih hb ha).symm
    · by_cases hstop : c = '\\' ∨ c = '|'
      · rw [next?, if_neg hquote, if_pos hstop] at ha
        cases ha
      · rw [next?, if_neg hquote, if_neg hstop] at ha
        rw [next?, if_neg hquote, if_neg fun hslash => hstop (.inl hslash)] at hb
        exact ih ha hb

/-- What comes behind a bar comes inside of a string. -/
theorem after?_behind_bar {q : QuoteState} {front cs : List Char} {a : QuoteState}
    (h : q.after? (front ++ '|' :: cs) = some a) : after? .inside cs = some a := by
  rw [after?_append, Option.bind_eq_some_iff] at h
  obtain ⟨before, -, h⟩ := h
  rw [after?_cons] at h
  cases before with
  | outside => cases h
  | inside => exact h
  | escaped => cases h

end QuoteState

/-! ## Compact texts -/

/-- Neither a quote nor a backslash nor a bar. -/
def IsBare (c : Char) : Prop :=
  c ≠ '"' ∧ c ≠ '\\' ∧ c ≠ '|'

instance (c : Char) : Decidable (IsBare c) :=
  inferInstanceAs (Decidable (_ ∧ _ ∧ _))

theorem isBare_of_isDigit {c : Char} (h : c.isDigit = true) : IsBare c := by
  refine ⟨?_, ?_, ?_⟩
  all_goals
    rintro rfl
    cases h

/-- Begins and ends outside of strings. -/
def Framed (cs : List Char) : Prop :=
  QuoteState.after? .outside cs = some .outside

namespace Framed

theorem nil : Framed [] := rfl

theorem append {cs ds : List Char} (h : Framed cs) (h' : Framed ds) : Framed (cs ++ ds) := by
  unfold Framed
  rw [QuoteState.after?_append, h]
  exact h'

theorem cons {c : Char} {cs : List Char} (hc : IsBare c) (h : Framed cs) : Framed (c :: cs) := by
  obtain ⟨hquote, hslash, hbar⟩ := hc
  unfold Framed
  rw [QuoteState.after?_cons, QuoteState.next?, if_neg hquote, if_neg (by simp [hslash, hbar])]
  exact h

theorem of_isBare {cs : List Char} (h : ∀ c ∈ cs, IsBare c) : Framed cs := by
  induction cs with
  | nil => exact nil
  | cons c cs ih =>
    obtain ⟨hfirst, hrest⟩ := List.forall_mem_cons.1 h
    exact cons hfirst (ih hrest)

theorem intercalate {texts : List (List Char)} (h : ∀ text ∈ texts, Framed text) :
    Framed ([','].intercalate texts) := by
  induction texts with
  | nil => exact nil
  | cons text texts ih =>
    obtain ⟨hfirst, hrest⟩ := List.forall_mem_cons.1 h
    cases texts with
    | nil => simpa using hfirst
    | cons next texts =>
      rw [List.intercalate_cons_cons, List.append_assoc]
      exact hfirst.append (cons (by decide) (ih hrest))

theorem inside_escapeChar (c : Char) :
    QuoteState.after? .inside (escapeChar c) = some .inside := by
  rcases escapeChar_cases c with ⟨e, hc, -, hescaped⟩ | ⟨hcontrol, hc⟩ | ⟨hc, hquote, hslash, -⟩
  · have hbar : e ≠ '|' := by
      rintro rfl
      cases hescaped
    rw [hc]
    show (QuoteState.next? .escaped e).bind _ = _
    rw [QuoteState.next?, if_neg hbar]
    rfl
  · have hdigits : ∀ n < 0x20,
        QuoteState.after? .inside ('\\' :: 'u' :: hexFixed 4 n) = some .inside := by decide
    rw [hc]
    exact hdigits c.toNat hcontrol
  · rw [hc, QuoteState.after?_cons, QuoteState.next?, if_neg hquote, if_neg hslash]
    rfl

theorem quote (s : String) : Framed (quote s).toList := by
  have hinside : ∀ cs : List Char,
      QuoteState.after? .inside (cs.flatMap escapeChar) = some .inside := by
    intro cs
    induction cs with
    | nil => rfl
    | cons c cs ih =>
      rw [List.flatMap_cons, QuoteState.after?_append, inside_escapeChar]
      exact ih
  unfold Json.quote Framed
  rw [String.toList_ofList, QuoteState.after?_append, QuoteState.after?_cons]
  show ((QuoteState.after? .inside (s.toList.flatMap escapeChar)).bind _) = _
  rw [hinside]
  rfl

/-! ### Numbers -/

section

variable {ds : List Char} (h : ∀ d ∈ ds, d.isDigit = true)

include h

theorem digits : Framed ds :=
  of_isBare fun c hc => isBare_of_isDigit (h c hc)

theorem writePositional (l : FloatLayout) (e : Int) : Framed (l.writePositional ds e) := by
  have hzeros : ∀ n, Framed (List.replicate n '0') := fun n =>
    digits fun d hd => by rw [List.eq_of_mem_replicate hd]; rfl
  unfold FloatLayout.writePositional
  dsimp only
  split
  · have hpoint : Framed ['0', '.'] := rfl
    exact (hpoint.append (hzeros _)).append (digits h)
  · split
    · refine ((digits h).append (hzeros _)).append ?_
      split
      · exact rfl
      · exact nil
    · exact (digits fun d hd => h d (List.mem_of_mem_take hd)).append
        (cons (by decide) (digits fun d hd => h d (List.mem_of_mem_drop hd)))

theorem writeScientific (l : FloatLayout) (e : Int) : Framed (l.writeScientific ds e) := by
  have hexponent : Framed (Nat.toDigits 10 e.natAbs) :=
    digits fun d hd => isDigit_of_mem_digits hd
  have hdrop : Framed (ds.drop 1) := digits fun d hd => h d (List.mem_of_mem_drop hd)
  unfold FloatLayout.writeScientific
  dsimp only
  refine (((digits fun d hd => h d (List.mem_of_mem_take hd)).append ?_).append
    (cons (by decide) ?_)).append hexponent
  · split
    · exact nil
    · exact cons (by decide) hdrop
  · split
    · exact rfl
    · split
      · exact rfl
      · exact nil

end

theorem write (l : FloatLayout) (x : Binary64) : Framed (l.write x).toList := by
  have hbody : ∀ magnitude : Rat, Framed
      (if magnitude == 0 then l.writePositional ['0'] 0 else l.writeDigits (x.shortest l.tie)) := by
    intro magnitude
    have hdigits : ∀ d ∈ Nat.toDigits 10 (x.shortest l.tie).digits, d.isDigit = true :=
      fun d hd => isDigit_of_mem_digits hd
    split
    · exact writePositional (List.forall_mem_singleton.2 rfl) l 0
    · unfold FloatLayout.writeDigits
      dsimp only
      split
      · exact writePositional hdigits l _
      · exact writeScientific hdigits l _
  unfold FloatLayout.write
  split
  · exact rfl
  · split <;> rfl
  · dsimp only
    rw [String.toList_ofList]
    split
    · exact cons (by decide) (hbody _)
    · exact hbody _

theorem number (n : JsonNumber) : Framed n.toText.toList := by
  cases n with
  | integer n =>
    show Framed (toString n).toList
    rw [toList_toString]
    refine append ?_ (digits fun d hd => isDigit_of_mem_digits hd)
    split <;> rfl
  | float x => exact write .json x

/-! ### Values -/

mutual

/-- The compact text of a value begins and ends outside of strings. -/
theorem compact : ∀ j : Json, Framed j.compact.toList
  | .null => rfl
  | .bool b => by
    show Framed (if b then "true" else "false").toList
    split <;> rfl
  | .number n => number n
  | .string s => quote s
  | .array items => by
    show Framed ("[" ++ String.intercalate "," (compactItems items) ++ "]").toList
    rw [String.toList_append, String.toList_append, String.toList_intercalate]
    have hopening : Framed "[".toList := rfl
    have hclosing : Framed "]".toList := rfl
    exact (hopening.append (intercalate (compactItems_framed items))).append hclosing
  | .object fields => by
    show Framed ("\x7b" ++ String.intercalate "," (compactFields fields) ++ "\x7d").toList
    rw [String.toList_append, String.toList_append, String.toList_intercalate]
    have hopening : Framed "\x7b".toList := rfl
    have hclosing : Framed "\x7d".toList := rfl
    exact (hopening.append (intercalate (compactFields_framed fields))).append hclosing

theorem compactItems_framed : ∀ items : List Json,
    ∀ text ∈ (compactItems items).map String.toList, Framed text
  | [] => fun _ h => absurd h List.not_mem_nil
  | item :: rest => List.forall_mem_cons.2 ⟨compact item, compactItems_framed rest⟩

theorem compactFields_framed : ∀ fields : List (String × Json),
    ∀ text ∈ (compactFields fields).map String.toList, Framed text
  | [] => fun _ h => absurd h List.not_mem_nil
  | (name, value) :: rest => by
    refine List.forall_mem_cons.2 ⟨?_, compactFields_framed rest⟩
    rw [String.toList_append, String.toList_append]
    have hcolon : Framed ":".toList := rfl
    exact ((quote name).append hcolon).append (compact value)

end

end Framed

/-- **A framed text behind a bar can be told apart from what is in front of the bar.** -/
theorem eq_of_append_bar {front front' text text' : List Char} (h : Framed text)
    (h' : Framed text') (heq : front ++ '|' :: text = front' ++ '|' :: text') :
    front = front' ∧ text = text' := by
  have hnested : ∀ {more cs ds : List Char}, Framed cs → Framed ds → cs ≠ more ++ '|' :: ds := by
    rintro more cs ds hcs hds rfl
    exact QuoteState.after?_ne hds (QuoteState.after?_behind_bar hcs) rfl
  rcases List.append_eq_append_iff.1 heq with ⟨more, hfront, hmore⟩ | ⟨more, hfront, hmore⟩
  · cases more with
    | nil => exact ⟨by simpa using hfront.symm, by simpa using hmore⟩
    | cons c more => exact absurd (List.cons.inj hmore).2 (hnested h h')
  · cases more with
    | nil => exact ⟨by simpa using hfront, by simpa using hmore.symm⟩
    | cons c more => exact absurd (List.cons.inj hmore).2 (hnested h' h)

end QueryKit.Json
