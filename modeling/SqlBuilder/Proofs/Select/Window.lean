import Mathlib.Data.Nat.Digits.Defs
import SqlBuilder.Builder
import SqlBuilder.Proofs.Select.Rendering

set_option autoImplicit false

namespace SqlBuilder

namespace Sql

/-- The text of parts is that of the first parts with the others behind, each after a separator. -/
theorem text_joinWith_append {separator : String} {front : List Sql} (nonempty : front ≠ [])
    (back : List Sql) :
    (joinWith separator (front ++ back)).text =
      (joinWith separator front).text ++
        String.join (back.map fun part => separator ++ part.text) := by
  have behind : ∀ (part : Sql) (back : List Sql), (joinWith separator (part :: back)).text =
      part.text ++ String.join (back.map fun part => separator ++ part.text) := by
    intro part back
    induction back generalizing part with
    | nil => simp [joinWith]
    | cons next rest ih =>
      rw [joinWith_cons_cons, text_append, text_cons, ih, List.map_cons, String.join_cons]
      simp only [Piece.text, String.append_assoc]
  cases front with
  | nil => exact absurd rfl nonempty
  | cons part rest =>
    rw [List.cons_append, behind, behind, List.map_append, String.join_append, String.append_assoc]

end Sql

namespace Select

variable {s : Select}

theorem writable_of_le {m : Nat} (small : m ≤ 2 ^ 53) : Writable (some m) := by
  intro n same
  cases same
  have digits : (Nat.toDigits 10 m).length ≤ 16 :=
    Nat.toDigits_length 10 m 16 (by decide) (by omega)
  exact digits.trans (by decide)

/-- A query has a finished text exactly when it renders. -/
theorem renders_iff : (∃ text, s.toSql = .ok text) ↔
    (∃ table, s.table = some table) ∧ s.Faultless ∧ Writable s.limit ∧ Writable s.offset := by
  simp only [toSql, Except.map_eq_ok, render_eq_ok]
  constructor
  · rintro ⟨_, _, ⟨table, named, faultless, limit, offset, _⟩, _⟩
    exact ⟨⟨table, named⟩, faultless, limit, offset⟩
  · rintro ⟨⟨table, named⟩, faultless, limit, offset⟩
    exact ⟨_, _, ⟨table, named, faultless, limit, offset, rfl⟩, rfl⟩

/-- A query renders for the count of its rows exactly when it renders for the rows. -/
theorem renders_counting (label : Text) :
    (∃ text, (s.counting label).toSql = .ok text) ↔ ∃ text, s.toSql = .ok text := by
  rw [renders_iff, renders_iff]
  constructor <;>
  · rintro ⟨named, ⟨joins, filter, having⟩, limit, offset⟩
    exact ⟨named, ⟨joins, filter, having⟩, limit, offset⟩

theorem renders_cleared (renders : ∃ text, s.toSql = .ok text) :
    ∃ text, (Paging.cleared s).toSql = .ok text := by
  rw [renders_iff] at renders ⊢
  obtain ⟨named, ⟨joins, filter, having⟩, _, _⟩ := renders
  exact ⟨named, ⟨joins, filter, having⟩, nofun, nofun⟩

/-- The parts of a query before its window of rows. -/
def partsBefore (s : Select) : List Sql :=
  s.head (s.table.getD "") :: s.joins.map joinPart ++
    s.filter.toList.map (conditionPart "WHERE") ++ s.groupClause ++
    s.having.toList.map (conditionPart "HAVING") ++ s.orderClause

/-- The text of a finished query up to where a window of rows stands. -/
def textBefore (s : Select) : String := (Sql.joinWith " " s.partsBefore).text

/-- The text of a finished query from behind its window of rows. -/
def textBehind (s : Select) : String :=
  String.join (s.unions.map fun u => " " ++ (renderUnion u).text) ++ ";"

/-- The text of a finished query with a window of rows. -/
def windowText (s : Select) (items start : Nat) : String :=
  s.textBefore ++ " LIMIT " ++ toString items ++ " OFFSET " ++ toString start ++ s.textBehind

theorem text_parts {table : String} (named : s.table = some table) (limit offset : Option Nat) :
    (Sql.joinWith " " (parts { s with limit := limit, offset := offset } table)).text ++ ";" =
      s.textBefore ++ String.join ((limit.toList.map (countPart "LIMIT") ++
        offset.toList.map (countPart "OFFSET")).map fun part => " " ++ part.text) ++
        s.textBehind := by
  have parts : parts { s with limit := limit, offset := offset } table = s.partsBefore ++
      (limit.toList.map (countPart "LIMIT") ++ offset.toList.map (countPart "OFFSET") ++
        s.unions.map renderUnion) := by
    simp only [Select.parts, partsBefore, named, Option.getD_some, List.append_assoc]
    rfl
  have nonempty : s.partsBefore ≠ [] := List.cons_ne_nil _ _
  rw [parts, Sql.text_joinWith_append nonempty, List.map_append, String.join_append, textBefore,
    textBehind]
  simp only [List.map_map, String.append_assoc]
  rfl

/-- Without a window the text is what stands around one. -/
theorem toSql_cleared (renders : ∃ text, s.toSql = .ok text) :
    (Paging.cleared s).toSql = .ok (s.textBefore ++ s.textBehind) := by
  obtain ⟨⟨table, named⟩, faults, _, _⟩ := renders_iff.mp renders
  have rendered : (Paging.cleared s).render =
      .ok (Sql.joinWith " " ((Paging.cleared s).parts table)) :=
    render_eq_ok.mpr ⟨table, named, ⟨faults.joins, faults.filter, faults.having⟩, nofun, nofun, rfl⟩
  have text := text_parts named none none
  rw [toSql, rendered, Except.map, Paging.cleared, text]
  simp only [Option.toList_none, List.map_nil, List.append_nil, String.join_nil,
    String.append_empty]

theorem toSql_window (renders : ∃ text, s.toSql = .ok text) {page items : Nat}
    (size : items ≤ 2 ^ 53) (start : (page - 1) * items ≤ 2 ^ 53) :
    (Paging.window page items s).toSql = .ok (s.windowText items ((page - 1) * items)) := by
  obtain ⟨⟨table, named⟩, faults, _, _⟩ := renders_iff.mp renders
  have rendered : (Paging.window page items s).render =
      .ok (Sql.joinWith " " ((Paging.window page items s).parts table)) :=
    render_eq_ok.mpr ⟨table, named, ⟨faults.joins, faults.filter, faults.having⟩,
      writable_of_le size, writable_of_le start, rfl⟩
  have text := text_parts named (some items) (some ((page - 1) * items))
  rw [toSql, rendered, Except.map, Paging.window, text, windowText]
  simp only [Option.toList_some, List.map_cons, List.map_nil, List.cons_append, List.nil_append,
    String.join_cons, String.join_nil, text_countPart, String.append_assoc, String.append_empty]
  rfl

end Select

end SqlBuilder
