import Mathlib
import QueryKit.Sql.Emitter

set_option autoImplicit false

/-! # Statement templates

A template is SQL text with holes, each of which carries its value, so text and values cannot come
apart. One template is written in three ways: with the numbered or anonymous placeholders of a dialect,
with neutral markers, or with the values themselves. The values of a statement are those of the holes
from left to right, whatever way it is written. Filling a text with values keeps the text as it is with
markers, and takes as many values as there are markers. -/

namespace QueryKit.Sql

/-- A piece of text or a hole with its value. -/
inductive Piece
  | text (s : String)
  | hole (v : Value)

/-- SQL text with holes. -/
abbrev Template := List Piece

namespace Template

/-- Text without holes. -/
def text (s : String) : Template := [.text s]

/-- A single hole. -/
def hole (v : Value) : Template := [.hole v]

/-- The values of the holes from left to right. -/
def values (t : Template) : List Value :=
  t.filterMap fun
    | .text _ => none
    | .hole v => some v

/-- Writes nothing, however holes are written. -/
def isBlank (t : Template) : Bool :=
  t.all fun
    | .text s => s.isEmpty
    | .hole _ => false

/-- Templates one after another with a text between them. -/
def join (separator : String) : List Template → Template
  | [] => []
  | [t] => t
  | t :: ts => t ++ .text separator :: join separator ts

/-- Writes the text, and a hole by its index and its value; the first hole has index `start`. -/
def write (place : Nat → Value → String) (start : Nat) : Template → String
  | [] => ""
  | .text s :: rest => s ++ write place start rest
  | .hole v :: rest => place start v ++ write place (start + 1) rest

/-- The text with a neutral marker for every hole. -/
def marked (t : Template) : String :=
  t.write (fun _ _ => "?") 1

/-- The template with the placeholders of a dialect, the first of them having index `start`. -/
def numbered (d : Dialect) (start : Nat) (t : Template) : String :=
  t.write (fun i _ => d.placeholder i) start

/-- The statement of a template, its placeholders counted from one. -/
def statement (d : Dialect) (t : Template) : Statement :=
  ⟨t.numbered d 1, t.values⟩

/-- The template for SQL text that begins inside `span`: its markers become holes for the values, in
    order, as long as there are values. -/
def fillFrom (span : Span) : List Char → List Value → Template
  | [], _ => []
  | c :: cs, values =>
    if span.isMarker c then
      match values with
      | [] => .text (String.singleton c) :: fillFrom (span.next c) cs []
      | v :: rest => .hole v :: fillFrom (span.next c) cs rest
    else .text (String.singleton c) :: fillFrom (span.next c) cs values

/-- The template for SQL text with markers. -/
def fill (sql : String) (values : List Value) : Template :=
  fillFrom none sql.toList values

end Template

/-! ## Scanning for markers -/

theorem Span.after_append (span : Span) (xs ys : List Char) :
    span.after (xs ++ ys) = (span.after xs).after ys :=
  List.foldl_append

theorem Span.after_cons (span : Span) (c : Char) (cs : List Char) :
    span.after (c :: cs) = (span.next c).after cs := rfl

theorem countFrom_append (span : Span) (xs ys : List Char) :
    countFrom span (xs ++ ys) = countFrom span xs + countFrom (span.after xs) ys := by
  induction xs generalizing span with
  | nil => simp [countFrom, Span.after]
  | cons c rest ih =>
      simp only [List.cons_append, countFrom, ih, Span.after_cons]
      omega

/-- A marker stands outside of quotes, and leaves them closed. -/
theorem Span.next_of_isMarker {span : Span} {c : Char} (h : span.isMarker c = true) :
    span = none ∧ c = '?' ∧ span.next c = none := by
  simp only [Span.isMarker, Bool.and_eq_true, Option.isNone_iff_eq_none, beq_iff_eq] at h
  obtain ⟨rfl, rfl⟩ := h
  exact ⟨rfl, rfl, by decide⟩

namespace Template

/-! ## Values -/

@[simp] theorem values_nil : values [] = [] := rfl

@[simp] theorem values_text_cons (s : String) (t : Template) :
    values (.text s :: t) = values t := rfl

@[simp] theorem values_hole_cons (v : Value) (t : Template) :
    values (.hole v :: t) = v :: values t := rfl

@[simp] theorem values_append (t u : Template) : values (t ++ u) = values t ++ values u :=
  List.filterMap_append

@[simp] theorem values_text (s : String) : values (text s) = [] := rfl

@[simp] theorem values_hole (v : Value) : values (hole v) = [v] := rfl

theorem values_flatMap {α : Type} (f : α → Template) (xs : List α) :
    values (xs.flatMap f) = xs.flatMap fun x => (f x).values :=
  List.filterMap_flatMap

theorem values_join (separator : String) (ts : List Template) :
    values (join separator ts) = ts.flatMap values := by
  induction ts with
  | nil => rfl
  | cons t rest ih =>
      cases rest with
      | nil => simp [join]
      | cons u rest =>
          simp only [join, values_append, values_text_cons, ih, List.flatMap_cons]

/-- A template that writes nothing has no values. -/
theorem values_of_isBlank (t : Template) (h : t.isBlank = true) : values t = [] := by
  induction t with
  | nil => rfl
  | cons piece rest ih =>
      rw [isBlank, List.all_cons, Bool.and_eq_true] at h
      cases piece with
      | text s => exact ih h.2
      | hole v => exact absurd h.1 (by simp)

/-! ## Text -/

@[simp] theorem write_nil (place : Nat → Value → String) (start : Nat) :
    write place start [] = "" := rfl

@[simp] theorem write_text_cons (place : Nat → Value → String) (start : Nat) (s : String)
    (t : Template) : write place start (.text s :: t) = s ++ write place start t := rfl

@[simp] theorem write_hole_cons (place : Nat → Value → String) (start : Nat) (v : Value)
    (t : Template) :
    write place start (.hole v :: t) = place start v ++ write place (start + 1) t := rfl

@[simp] theorem write_append (place : Nat → Value → String) (start : Nat) (t u : Template) :
    write place start (t ++ u)
      = write place start t ++ write place (start + t.values.length) u := by
  induction t generalizing start with
  | nil => simp
  | cons piece rest ih =>
      cases piece with
      | text s => simp [ih, String.append_assoc]
      | hole v =>
          have hstart : start + 1 + (values rest).length = start + ((values rest).length + 1) := by
            omega
          simp [ih, String.append_assoc, hstart]

@[simp] theorem write_text (place : Nat → Value → String) (start : Nat) (s : String) :
    write place start (text s) = s := by
  simp [text]

@[simp] theorem write_hole (place : Nat → Value → String) (start : Nat) (v : Value) :
    write place start (hole v) = place start v := by
  simp [hole]

/-- With neutral markers no hole is written for its index. -/
theorem write_marker (start other : Nat) (t : Template) :
    write (fun _ _ => "?") start t = write (fun _ _ => "?") other t := by
  induction t generalizing start other with
  | nil => rfl
  | cons piece rest ih =>
      cases piece with
      | text s => rw [write, write, ih start other]
      | hole v => rw [write, write, ih (start + 1) (other + 1)]

@[simp] theorem marked_nil : marked [] = "" := rfl

@[simp] theorem marked_text_cons (s : String) (t : Template) :
    marked (.text s :: t) = s ++ marked t := rfl

@[simp] theorem marked_hole_cons (v : Value) (t : Template) :
    marked (.hole v :: t) = "?" ++ marked t := by
  rw [marked, write, write_marker (1 + 1) 1]
  rfl

@[simp] theorem marked_append (t u : Template) : marked (t ++ u) = marked t ++ marked u := by
  rw [marked, write_append, write_marker (1 + t.values.length) 1]
  rfl

/-! ## Templates that write nothing -/

@[simp] theorem isBlank_text_cons (s : String) (t : Template) :
    isBlank (.text s :: t) = (s.isEmpty && t.isBlank) := rfl

@[simp] theorem isBlank_hole_cons (v : Value) (t : Template) : isBlank (.hole v :: t) = false := rfl

@[simp] theorem isBlank_append (t u : Template) : isBlank (t ++ u) = (t.isBlank && u.isBlank) :=
  List.all_append

/-- If no hole writes nothing, then only what is blank does. -/
theorem write_eq_empty_iff {place : Nat → Value → String} (hplace : ∀ i v, place i v ≠ "")
    (start : Nat) (t : Template) : t.write place start = "" ↔ t.isBlank = true := by
  induction t generalizing start with
  | nil => simp [isBlank]
  | cons piece rest ih =>
      cases piece with
      | text s =>
        rw [write, String.append_eq_empty_iff, ih]
        simp
      | hole v =>
        rw [write, String.append_eq_empty_iff]
        simp [hplace]

theorem marked_eq_empty_iff (t : Template) : t.marked = "" ↔ t.isBlank = true :=
  write_eq_empty_iff (fun _ _ => by decide) 1 t

theorem numbered_eq_empty_iff (d : Dialect) (start : Nat) (t : Template) :
    t.numbered d start = "" ↔ t.isBlank = true := by
  refine write_eq_empty_iff (fun i _ => ?_) start t
  cases d with
  | postgres => simp [Dialect.placeholder]
  | mysql | sqlite => simp [Dialect.placeholder]

/-! ## Filling -/

theorem values_fillFrom (span : Span) (cs : List Char) (vs : List Value) :
    values (fillFrom span cs vs) = vs.take (countFrom span cs) := by
  induction cs generalizing span vs with
  | nil => simp [fillFrom, countFrom]
  | cons c rest ih =>
      simp only [fillFrom, countFrom]
      split
      · cases vs with
        | nil => simp [ih]
        | cons v vs => simp [ih, Nat.add_comm 1]
      · simp [ih]

/-- Filling takes as many values as the text has markers. -/
theorem values_fill (sql : String) (vs : List Value) :
    values (fill sql vs) = vs.take (countMarkers sql) :=
  values_fillFrom none sql.toList vs

theorem marked_fillFrom (span : Span) (cs : List Char) (vs : List Value) :
    marked (fillFrom span cs vs) = String.ofList cs := by
  induction cs generalizing span vs with
  | nil => rfl
  | cons c rest ih =>
      have hcons : String.ofList (c :: rest) = String.singleton c ++ String.ofList rest := by
        rw [← String.toList_inj]
        simp
      simp only [fillFrom]
      rw [hcons]
      split
      · next hmarker =>
          obtain ⟨-, rfl, -⟩ := Span.next_of_isMarker hmarker
          cases vs with
          | nil => rw [marked_text_cons, ih]
          | cons v vs =>
              rw [marked_hole_cons, ih]
              rfl
      · rw [marked_text_cons, ih]

/-- Written with markers again, a filled text is the text. -/
theorem marked_fill (sql : String) (vs : List Value) : marked (fill sql vs) = sql := by
  rw [fill, marked_fillFrom, String.ofList_toList]

theorem isBlank_fill (sql : String) (vs : List Value) :
    (fill sql vs).isBlank = true ↔ sql = "" := by
  rw [← marked_eq_empty_iff, marked_fill]

end Template

end QueryKit.Sql
