import SqlBuilder.Chars.Blank
import SqlBuilder.Dialect

set_option autoImplicit false

namespace SqlBuilder

/-- A literal text, a placeholder with the value bound to it, a fragment that was handed in whole
with its values, or a date part. -/
inductive Piece
  | literal (s : String)
  | slot (v : Value)
  | fragment (s : String) (values : List Value)
  | extract (kind : DriverKind) (part : DatePart) (column : String)

namespace Piece

def text : Piece → String
  | .literal s => s
  | .slot _ => "?"
  | .fragment s _ => s
  | .extract kind part column => kind.extract part column

def values : Piece → List Value
  | .literal _ => []
  | .slot v => [v]
  | .fragment _ vs => vs
  | .extract .. => []

end Piece

/-- SQL with its bound values: the text and the list of values are two readings of the same pieces,
so a value stands in the list where its placeholder stands in the text. -/
abbrev Sql := List Piece

namespace Sql

def text (sql : Sql) : String := String.join (sql.map Piece.text)

def values (sql : Sql) : List Value := sql.flatMap Piece.values

def ofText (s : String) : Sql := [.literal s]

@[simp] theorem text_nil : text [] = "" := rfl

@[simp] theorem text_cons (p : Piece) (sql : Sql) : text (p :: sql) = p.text ++ text sql := by
  simp [text]

@[simp] theorem text_append (a b : Sql) : text (a ++ b) = text a ++ text b := by
  simp [text]

@[simp] theorem values_nil : values [] = [] := rfl

@[simp] theorem values_cons (p : Piece) (sql : Sql) :
    values (p :: sql) = p.values ++ values sql := rfl

@[simp] theorem values_append (a b : Sql) : values (a ++ b) = values a ++ values b :=
  List.flatMap_append

/-- The parts with a literal between neighbours. -/
def joinWith (separator : String) : List Sql → Sql
  | [] => []
  | [sql] => sql
  | sql :: rest => sql ++ .literal separator :: joinWith separator rest

theorem joinWith_cons_cons (separator : String) (part next : Sql) (rest : List Sql) :
    joinWith separator (part :: next :: rest) =
      part ++ .literal separator :: joinWith separator (next :: rest) := rfl

/-- The piece with another text and the same values. -/
def withText (s : String) (p : Piece) : Piece := if s = p.text then p else .fragment s p.values

/-- Cuts the text of the first pieces, up to the first of which something is left. -/
def trimAlong (cut : String → String) : Sql → Sql
  | [] => []
  | p :: rest =>
    let s := cut p.text
    withText s p :: if s = "" then trimAlong cut rest else rest

/-- Without the white space at both ends of the text; no value is lost. -/
def trim (sql : Sql) : Sql :=
  (trimAlong Chars.trimTextEnd (trimAlong Chars.trimTextStart sql).reverse).reverse

@[simp] theorem text_withText (s : String) (p : Piece) : (withText s p).text = s := by
  unfold withText
  split
  · next same => exact same.symm
  · rfl

@[simp] theorem values_withText (s : String) (p : Piece) : (withText s p).values = p.values := by
  unfold withText
  split <;> rfl

theorem text_trimAlong_start (sql : Sql) :
    text (trimAlong Chars.trimTextStart sql) = Chars.trimTextStart (text sql) := by
  induction sql with
  | nil => rfl
  | cons p rest ih =>
    rw [text_cons, Chars.trimTextStart_append, trimAlong]
    by_cases blank : Chars.trimTextStart p.text = ""
    · simp [blank, ih]
    · simp [blank]

theorem text_trimAlong_end (sql : Sql) :
    text (trimAlong Chars.trimTextEnd sql).reverse = Chars.trimTextEnd (text sql.reverse) := by
  induction sql with
  | nil => rfl
  | cons p rest ih =>
    rw [List.reverse_cons, text_append, text_cons, text_nil, String.append_empty,
      Chars.trimTextEnd_append, trimAlong]
    by_cases blank : Chars.trimTextEnd p.text = ""
    · simp [blank, ih]
    · simp [blank]

/-- The text of trimmed pieces is their trimmed text, wherever the pieces are cut. -/
@[simp] theorem text_trim (sql : Sql) : text (trim sql) = Chars.trimText (text sql) := by
  rw [trim, text_trimAlong_end, List.reverse_reverse, text_trimAlong_start,
    Chars.trimTextEnd_trimTextStart]

/-- Cutting texts leaves each piece its values. -/
theorem map_values_trimAlong (cut : String → String) (sql : Sql) :
    (trimAlong cut sql).map Piece.values = sql.map Piece.values := by
  induction sql with
  | nil => rfl
  | cons p rest ih =>
    rw [trimAlong]
    split <;> simp [ih]

@[simp] theorem values_trim (sql : Sql) : values (trim sql) = values sql := by
  simp only [values, trim, List.flatMap_def, List.map_reverse, map_values_trimAlong,
    List.reverse_reverse]

end Sql

end SqlBuilder
