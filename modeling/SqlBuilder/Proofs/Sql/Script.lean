import Mathlib.Data.List.Induction
import SqlBuilder.Sql

set_option autoImplicit false

namespace SqlBuilder

inductive Sign
  | char (c : Char)
  | value (v : Value)

abbrev Script := List Sign

/-- The mark in a text that a value belongs to. -/
def placeholder : Char := '?'

/-- Writes values for the placeholders of a text, from left to right. -/
def weave : List Char → List Value → Script
  | [], _ => []
  | c :: cs, [] => .char c :: weave cs []
  | c :: cs, v :: vs =>
    if c = placeholder then .value v :: weave cs vs else .char c :: weave cs (v :: vs)

namespace Script

def ofText (s : String) : Script := s.toList.map .char

/-- The scripts with a text between neighbours. -/
def joinWith (separator : String) (scripts : List Script) : Script :=
  (ofText separator).intercalate scripts

end Script

/-- A value is never white space, whatever it holds. -/
def Sign.isBlank : Sign → Bool
  | .char c => Chars.isBlank c
  | .value _ => false

/-- Without the white space at both ends. -/
def Script.trim (x : Script) : Script :=
  ((x.dropWhile Sign.isBlank).reverse.dropWhile Sign.isBlank).reverse

theorem weave_nil (cs : List Char) : weave cs [] = cs.map .char := by
  induction cs with
  | nil => rfl
  | cons c rest ih => rw [weave, ih, List.map_cons]

/-- A character that is no placeholder is written as it is. -/
theorem weave_cons_of_ne {c : Char} (cs : List Char) (values : List Value)
    (plain : c ≠ placeholder) : weave (c :: cs) values = .char c :: weave cs values := by
  cases values with
  | nil => rfl
  | cons v values => simp only [weave, plain, ↓reduceIte]

/-- Weaving in a first part leaves the other values to the second. -/
theorem weave_append (first second : List Char) (values others : List Value)
    (balanced : first.count placeholder = values.length) :
    weave (first ++ second) (values ++ others) = weave first values ++ weave second others := by
  induction first generalizing values with
  | nil =>
    have none : values = [] := List.eq_nil_of_length_eq_zero (by simpa using balanced.symm)
    rw [none]
    rfl
  | cons c rest ih =>
    by_cases mark : c = placeholder
    · cases values with
      | nil => simp [mark] at balanced
      | cons v values =>
        have fewer : rest.count placeholder = values.length := by simpa [mark] using balanced
        simp only [List.cons_append, weave, mark, ↓reduceIte, ih values fewer]
    · have same : rest.count placeholder = values.length := by
        simpa [List.count_cons, mark] using balanced
      rw [List.cons_append, weave_cons_of_ne _ _ mark, weave_cons_of_ne _ _ mark, ih values same,
        List.cons_append]

theorem ne_placeholder_of_isBlank {c : Char} (blank : Chars.isBlank c = true) :
    c ≠ placeholder := by
  rintro rfl
  exact absurd blank (by decide)

/-- The first sign is white space exactly when the first character is. -/
theorem weave_cons (c : Char) (cs : List Char) (values : List Value) :
    ∃ sign others, weave (c :: cs) values = sign :: weave cs others ∧
      sign.isBlank = Chars.isBlank c := by
  by_cases mark : c = placeholder
  · cases values with
    | nil => exact ⟨.char c, [], rfl, rfl⟩
    | cons v values =>
      refine ⟨.value v, values, by simp only [weave, mark, ↓reduceIte], ?_⟩
      rw [mark]
      rfl
  · exact ⟨.char c, values, weave_cons_of_ne cs values mark, rfl⟩

theorem weave_snoc (cs : List Char) (c : Char) (values : List Value) :
    ∃ sign, weave (cs ++ [c]) values = weave cs values ++ [sign] ∧
      sign.isBlank = Chars.isBlank c := by
  induction cs generalizing values with
  | nil =>
    obtain ⟨sign, others, woven, same⟩ := weave_cons c [] values
    exact ⟨sign, woven, same⟩
  | cons first rest ih =>
    by_cases mark : first = placeholder
    · cases values with
      | nil =>
        obtain ⟨sign, woven, same⟩ := ih []
        exact ⟨sign, by simp only [List.cons_append, weave, woven], same⟩
      | cons v values =>
        obtain ⟨sign, woven, same⟩ := ih values
        exact ⟨sign, by simp only [List.cons_append, weave, mark, ↓reduceIte, woven], same⟩
    · obtain ⟨sign, woven, same⟩ := ih values
      refine ⟨sign, ?_, same⟩
      rw [List.cons_append, weave_cons_of_ne _ values mark, woven, weave_cons_of_ne _ values mark,
        List.cons_append]

theorem weave_dropWhile (cs : List Char) (values : List Value) :
    weave (cs.dropWhile Chars.isBlank) values = (weave cs values).dropWhile Sign.isBlank := by
  induction cs with
  | nil => rfl
  | cons c rest ih =>
    by_cases blank : Chars.isBlank c = true
    · rw [List.dropWhile_cons_of_pos blank, ih,
        weave_cons_of_ne rest values (ne_placeholder_of_isBlank blank),
        List.dropWhile_cons_of_pos (by exact blank)]
    · obtain ⟨sign, others, woven, same⟩ := weave_cons c rest values
      rw [List.dropWhile_cons_of_neg blank, woven,
        List.dropWhile_cons_of_neg (by rw [same]; exact blank)]

/-- White space at the end of a text holds no placeholder, so it can be cut from the script. -/
theorem weave_dropWhile_reverse (cs : List Char) (values : List Value) :
    weave (cs.reverse.dropWhile Chars.isBlank).reverse values =
      ((weave cs values).reverse.dropWhile Sign.isBlank).reverse := by
  induction cs using List.reverseRecOn with
  | nil => rfl
  | append_singleton rest c ih =>
    obtain ⟨sign, woven, same⟩ := weave_snoc rest c values
    rw [woven, List.reverse_append, List.reverse_append, List.reverse_singleton,
      List.reverse_singleton, List.singleton_append, List.singleton_append]
    by_cases blank : Chars.isBlank c = true
    · rw [List.dropWhile_cons_of_pos blank, List.dropWhile_cons_of_pos (by rw [same]; exact blank),
        ih]
    · rw [List.dropWhile_cons_of_neg blank,
        List.dropWhile_cons_of_neg (by rw [same]; exact blank), List.reverse_cons,
        List.reverse_cons, List.reverse_reverse, List.reverse_reverse, woven]

/-- As many placeholders as values. -/
def Piece.Balanced (p : Piece) : Prop := p.text.toList.count placeholder = p.values.length

/-- The text of a piece with its values in it. -/
def Piece.script (p : Piece) : Script := weave p.text.toList p.values

namespace Sql

def Balanced (sql : Sql) : Prop := ∀ p ∈ sql, p.Balanced

def script (sql : Sql) : Script := sql.flatMap Piece.script

@[simp] theorem script_nil : script [] = [] := rfl

@[simp] theorem script_cons (p : Piece) (sql : Sql) :
    script (p :: sql) = p.script ++ script sql := rfl

@[simp] theorem script_append (a b : Sql) : script (a ++ b) = script a ++ script b :=
  List.flatMap_append

@[simp] theorem script_literal (s : String) : (Piece.literal s).script = Script.ofText s :=
  weave_nil s.toList

@[simp] theorem script_extract (kind : DriverKind) (part : DatePart) (column : String) :
    (Piece.extract kind part column).script = Script.ofText (kind.extract part column) :=
  weave_nil _

@[simp] theorem script_slot (v : Value) : (Piece.slot v).script = [.value v] := by
  simp [Piece.script, Piece.text, Piece.values, weave, placeholder]

@[simp] theorem script_ofText (s : String) : script (ofText s) = Script.ofText s := by
  simp [ofText]

theorem script_joinWith (separator : String) (parts : List Sql) :
    script (joinWith separator parts) = Script.joinWith separator (parts.map script) := by
  induction parts with
  | nil => rfl
  | cons part rest ih =>
    cases rest with
    | nil => simp [joinWith, Script.joinWith, List.intercalate]
    | cons next rest =>
      rw [joinWith_cons_cons, script_append, script_cons, ih, script_literal]
      simp [Script.joinWith, List.intercalate]

theorem Balanced.append {a b : Sql} (first : Balanced a) (second : Balanced b) :
    Balanced (a ++ b) := by
  intro p member
  rcases List.mem_append.mp member with left | right
  · exact first p left
  · exact second p right

theorem Balanced.cons {p : Piece} {sql : Sql} (first : p.Balanced) (rest : Balanced sql) :
    Balanced (p :: sql) := Balanced.append (a := [p]) (by simpa [Balanced] using first) rest

/-- The placeholders of balanced SQL take all its values, each in its own piece. -/
theorem weave_text {sql : Sql} (balanced : sql.Balanced) :
    sql.text.toList.count placeholder = sql.values.length ∧
      weave sql.text.toList sql.values = sql.script := by
  induction sql with
  | nil => exact ⟨rfl, rfl⟩
  | cons p rest ih =>
    have first : p.Balanced := balanced p List.mem_cons_self
    obtain ⟨count, woven⟩ := ih fun q member => balanced q (List.mem_cons_of_mem p member)
    rw [text_cons, values_cons, String.toList_append, List.count_append, List.length_append,
      weave_append _ _ _ _ first, count, woven, first]
    exact ⟨rfl, rfl⟩

theorem count_dropWhile_isBlank (cs : List Char) :
    (cs.dropWhile Chars.isBlank).count placeholder = cs.count placeholder := by
  induction cs with
  | nil => rfl
  | cons c rest ih =>
    by_cases blank : Chars.isBlank c = true
    · rw [List.dropWhile_cons_of_pos blank, ih,
        List.count_cons_of_ne (ne_placeholder_of_isBlank blank)]
    · rw [List.dropWhile_cons_of_neg blank]

theorem Balanced.trimAlong (cut : String → String) {sql : Sql} (balanced : sql.Balanced)
    (keeps : ∀ s, (cut s).toList.count placeholder = s.toList.count placeholder) :
    (sql.trimAlong cut).Balanced := by
  induction sql with
  | nil => exact balanced
  | cons p rest ih =>
    have first : (withText (cut p.text) p).Balanced := by
      rw [Piece.Balanced, text_withText, values_withText, keeps]
      exact balanced p List.mem_cons_self
    have others : Balanced rest := fun q member => balanced q (List.mem_cons_of_mem p member)
    rw [Sql.trimAlong]
    split
    · exact Balanced.cons first (ih others)
    · exact Balanced.cons first others

theorem Balanced.trim {sql : Sql} (balanced : sql.Balanced) : sql.trim.Balanced := by
  have start : (sql.trimAlong Chars.trimTextStart).Balanced := .trimAlong _ balanced fun s => by
    rw [Chars.trimTextStart, String.toList_ofList, count_dropWhile_isBlank]
  have reversed : Balanced (sql.trimAlong Chars.trimTextStart).reverse :=
    fun p member => start p (List.mem_reverse.mp member)
  have finish := Balanced.trimAlong Chars.trimTextEnd reversed fun s => by
    rw [Chars.trimTextEnd, String.toList_ofList, List.count_reverse, count_dropWhile_isBlank,
      List.count_reverse]
  intro p member
  exact finish p (List.mem_reverse.mp member)

/-- Trimmed SQL has a trimmed script, so that no value is lost and none gets outside. -/
theorem script_trim {sql : Sql} (balanced : sql.Balanced) : script sql.trim = sql.script.trim := by
  have cut := (weave_text balanced.trim).2
  rw [text_trim, values_trim, Chars.trimText, Chars.trim, Chars.trimBy, String.toList_ofList,
    weave_dropWhile_reverse, weave_dropWhile, (weave_text balanced).2] at cut
  exact cut.symm

end Sql

end SqlBuilder
