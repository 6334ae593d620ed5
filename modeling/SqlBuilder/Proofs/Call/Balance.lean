import Mathlib.Data.List.Basic
import SqlBuilder.Proofs.Call.Diction
import SqlBuilder.Proofs.Select.Rendering
import SqlBuilder.Proofs.Sql.Script

set_option autoImplicit false

namespace SqlBuilder

/-- The number of placeholders in a text. -/
def marks (s : String) : Nat := s.toList.count placeholder

@[simp] theorem marks_append (s t : String) : marks (s ++ t) = marks s + marks t := by
  simp [marks]

theorem marks_intercalate {separator : String} {parts : List String}
    (plain : marks separator = 0) (each : ∀ part ∈ parts, marks part = 0) :
    marks (separator.intercalate parts) = 0 := by
  induction parts with
  | nil =>
    rw [String.intercalate_nil]
    rfl
  | cons part rest ih =>
    have first := each part List.mem_cons_self
    have others := ih fun other member => each other (List.mem_cons_of_mem part member)
    cases rest with
    | nil => rwa [String.intercalate_singleton]
    | cons next rest =>
      rw [String.intercalate_cons_cons, marks_append, marks_append, first, plain, others]

/-- A decimal number holds nothing but digits. -/
theorem marks_toString (n : Nat) : marks (toString n) = 0 := by
  rw [marks, List.count_eq_zero]
  intro member
  rw [Nat.toString_eq_ofList_toDigits, String.toList_ofList] at member
  have digit := Nat.isDigit_of_mem_toDigits (by decide) (by decide) member
  exact absurd digit (by decide)

/-- Names without placeholders, and fragments with one for each value. -/
def unmarked : Vocabulary where
  name s := marks s = 0
  fragment text values := marks text = values.length

def balanced : Diction where
  toVocabulary := unmarked
  comparison := Sql.Balanced
  query := Sql.Balanced

theorem Piece.balanced_literal {s : String} : (literal s).Balanced ↔ marks s = 0 := Iff.rfl

theorem Piece.balanced_slot (v : Value) : (slot v).Balanced := by
  simp [Balanced, text, values, placeholder]

theorem DriverKind.marks_extract (k : DriverKind) (part : DatePart) {column : String}
    (named : marks column = 0) : marks (k.extract part column) = 0 := by
  cases k <;> cases part <;>
    simp only [extract, DatePart.keyword, DatePart.directive, marks_append, named] <;> rfl

theorem Condition.balanced_operand {v : Value} (cites : v.Cites unmarked) :
    (operand v).Balanced := by
  unfold operand
  split
  · next column => exact cites column rfl
  · exact Piece.balanced_slot _

namespace Sql

theorem Balanced.nil : Balanced [] := nofun

theorem Balanced.joinWith {separator : String} {parts : List Sql} (plain : marks separator = 0)
    (each : ∀ part ∈ parts, Balanced part) : Balanced (Sql.joinWith separator parts) := by
  induction parts with
  | nil => exact .nil
  | cons part rest ih =>
    have first := each part List.mem_cons_self
    have others := ih fun other member => each other (List.mem_cons_of_mem part member)
    cases rest with
    | nil => exact first
    | cons next rest => exact first.append (.cons plain others)

theorem Balanced.enclosed {opening : String} {sql : Sql} (plain : marks opening = 0)
    (inside : sql.Balanced) : (Sql.enclosed opening sql).Balanced :=
  .cons plain (inside.append (.cons (p := .literal ")") rfl .nil))

end Sql

theorem Token.Spoken.balanced {t : Token} (spoken : t.Spoken balanced) : t.sql.Balanced := by
  cases t with
  | comparison negated sql =>
    cases negated with
    | false => exact spoken
    | true => exact .cons (p := .literal "NOT ") rfl spoken
  | raw text values => exact .cons (p := .fragment text values) spoken .nil
  | connective c => cases c <;> exact .cons (p := .literal _) rfl .nil
  | opening => exact .cons (p := .literal _) rfl .nil
  | closing => exact .cons (p := .literal _) rfl .nil

theorem Condition.Spoken.balanced {c : Condition} (spoken : c.Spoken balanced) :
    c.sql.Balanced := by
  intro p member
  obtain ⟨t, token, inside⟩ := List.mem_flatMap.mp member
  exact (spoken.tokens t token).balanced p inside

namespace Select

theorem balanced_head {s : Select} (spoken : s.Spoken balanced) {table : String}
    (named : s.table = some table) : (s.head table).Balanced := by
  have columns : marks (columnList s.columns) = 0 := by
    unfold columnList
    split
    · rfl
    · exact marks_intercalate rfl spoken.columns
  have source : marks table = 0 := spoken.table table named
  refine .cons (p := .literal _) ?_ .nil
  rw [Piece.balanced_literal]
  simp only [marks_append, columns, source]
  split <;> rfl

theorem balanced_conditionPart {keyword : String} {c : Condition} (plain : marks keyword = 0)
    (spoken : c.Spoken balanced) : (conditionPart keyword c).Balanced := by
  refine .cons ?_ spoken.balanced.trim
  rw [Piece.balanced_literal, marks_append, plain]
  rfl

theorem balanced_countPart {keyword : String} (n : Nat) (plain : marks keyword = 0) :
    (countPart keyword n).Balanced := by
  refine .cons (p := .literal _) ?_ .nil
  rw [Piece.balanced_literal, marks_append, marks_append, plain, marks_toString]
  rfl

theorem balanced_joinPart {j : Join} (named : marks j.table = 0)
    (spoken : j.condition.Spoken balanced) : (joinPart j).Balanced := by
  refine .cons ?_ spoken.balanced.trim
  rw [Piece.balanced_literal]
  simp only [marks_append, named]
  cases j.kind <;> rfl

theorem balanced_groupClause {s : Select} (spoken : s.Spoken balanced) :
    ∀ part ∈ s.groupClause, part.Balanced := by
  unfold groupClause
  split
  · nofun
  · intro part member
    rw [List.mem_singleton.mp member]
    refine .cons (p := .literal _) ?_ .nil
    rw [Piece.balanced_literal, marks_append, marks_intercalate rfl spoken.groups]
    rfl

theorem balanced_orderClause {s : Select} (spoken : s.Spoken balanced) :
    ∀ part ∈ s.orderClause, part.Balanced := by
  unfold orderClause
  split
  · nofun
  · intro part member
    rw [List.mem_singleton.mp member]
    refine .cons (p := .literal _) ?_ .nil
    rw [Piece.balanced_literal, marks_append, marks_intercalate rfl fun term given => ?_]
    · rfl
    · obtain ⟨order, listed, rfl⟩ := List.mem_map.mp given
      have named : marks order.1 = 0 := spoken.orders order listed
      simp only [marks_append, named]
      cases order.2 <;> rfl

theorem balanced_renderUnion {u : Union} (spoken : u.query.Balanced) :
    (renderUnion u).Balanced := by
  refine .cons ?_ spoken
  rw [Piece.balanced_literal]
  split <;> rfl

theorem balanced_parts {s : Select} (spoken : s.Spoken balanced) {table : String}
    (named : s.table = some table) : ∀ part ∈ s.parts table, part.Balanced := by
  rw [parts_eq, List.forall_mem_cons]
  refine ⟨balanced_head spoken named, ?_⟩
  exact forall_parts
    (fun j given => balanced_joinPart (spoken.joins j given).1 (spoken.joins j given).2)
    (fun c given => balanced_conditionPart rfl (spoken.filter c given))
    (balanced_groupClause spoken)
    (fun c given => balanced_conditionPart rfl (spoken.having c given))
    (balanced_orderClause spoken)
    (fun n => balanced_countPart n rfl)
    (fun n => balanced_countPart n rfl)
    (fun u given => balanced_renderUnion (spoken.unions u given))

theorem balanced_of_render {s : Select} {sql : Sql} (spoken : s.Spoken balanced)
    (rendered : s.render = .ok sql) : sql.Balanced := by
  obtain ⟨table, named, _, rfl⟩ := render_of_ok rendered
  exact .joinWith rfl (balanced_parts spoken named)

end Select

theorem balanced_closed : balanced.Closed where
  compare column s v named _ cites := by
    refine .cons ?_ (.cons (Condition.balanced_operand cites) .nil)
    have plain : marks column = 0 := named
    rw [Piece.balanced_literal]
    simp only [marks_append, plain]
    cases s <;> rfl
  like column v named _ cites := by
    refine .cons ?_ (.cons (Condition.balanced_operand cites) .nil)
    have plain : marks column = 0 := named
    rw [Piece.balanced_literal]
    simp only [marks_append, plain]
    rfl
  between column low high named _ _ below above := by
    refine .cons ?_ (.cons (Condition.balanced_operand below)
      (.cons rfl (.cons (Condition.balanced_operand above) .nil)))
    have plain : marks column = 0 := named
    rw [Piece.balanced_literal, marks_append, plain]
    rfl
  oneOf column values named _ _ cites := by
    have plain : marks column = 0 := named
    have listed : (Sql.joinWith ", " (values.map fun v => [Condition.operand v])).Balanced := by
      refine .joinWith rfl fun part member => ?_
      obtain ⟨v, given, rfl⟩ := List.mem_map.mp member
      exact .cons (Condition.balanced_operand (cites v given)) .nil
    refine .cons ?_ (listed.append (.cons rfl .nil))
    rw [Piece.balanced_literal, marks_append, plain]
    rfl
  isNull column named := by
    refine .cons ?_ .nil
    have plain : marks column = 0 := named
    rw [Piece.balanced_literal, marks_append, plain]
    rfl
  part kind part column v named _ cites :=
    .cons (DriverKind.marks_extract kind part named)
      (.cons rfl (.cons (Condition.balanced_operand cites) .nil))
  inQuery column sql named inside := by
    refine .enclosed ?_ inside
    have plain : marks column = 0 := named
    rw [marks_append, plain]
    rfl
  existsIn sql inside := .enclosed rfl inside
  quantified column sign quantifier sql named inside := by
    refine .enclosed ?_ inside
    have plain : marks column = 0 := named
    simp only [marks_append, plain]
    cases sign <;> cases quantifier <;> rfl
  render s sql spoken rendered := Select.balanced_of_render spoken rendered

end SqlBuilder
