import SqlBuilder.Chars.Search
import SqlBuilder.Condition.Basic

set_option autoImplicit false

namespace SqlBuilder.Condition

/-- Some word of a connective fits `found`. -/
def anyConnective (found : List Char → Bool) : Bool := found "AND".toList || found "OR".toList

/-- The first fault of grammar in a joined text whose parentheses have the given final depth. -/
def faultIn (depth : Int) (cs : List Char) : Option GrammarFault :=
  if depth ≠ 0 then some .unmatched
  else if anyConnective fun word => Chars.meets ['('] word cs then some .afterOpening
  else if anyConnective fun word => Chars.meets word [')'] cs then some .beforeClosing
  else if anyConnective fun word => Chars.meets word word cs then some .consecutive
  else if Chars.meets ['('] [')'] cs then some .emptyGroup
  else if anyConnective fun word => word.isSuffixOf cs then some .atEnd
  else if anyConnective fun word => word.isPrefixOf cs then some .atStart
  else if cs.isEmpty then some .empty
  else none

def fault? (c : Condition) : Option GrammarFault := faultIn c.depth c.text.toList

def build (c : Condition) : Except Error Sql :=
  match c.fault? with
  | some fault => .error (.grammar fault)
  | none => .ok c.sql.trim

/-- An accepted condition is its joined text, trimmed, with all its values. -/
theorem text_of_build_ok (c : Condition) (sql : Sql) (accepted : c.build = .ok sql) :
    sql.text = c.text ∧ sql.values = c.values := by
  unfold build at accepted
  split at accepted
  · cases accepted
  · cases accepted
    exact ⟨Sql.text_trim c.sql, Sql.values_trim c.sql⟩

end SqlBuilder.Condition
