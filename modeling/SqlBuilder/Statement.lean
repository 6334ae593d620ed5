import SqlBuilder.Delete
import SqlBuilder.Insert
import SqlBuilder.Update

set_option autoImplicit false

namespace SqlBuilder

inductive Statement
  | select (s : Select)
  | insert (s : Insert)
  | update (s : Update)
  | delete (s : Delete)

namespace Statement

def empty : StatementKind → Statement
  | .select => .select .empty
  | .insert => .insert .empty
  | .update => .update .empty
  | .delete => .delete .empty

def kind : Statement → StatementKind
  | .select _ => .select
  | .insert _ => .insert
  | .update _ => .update
  | .delete _ => .delete

/-- The statement without its terminator. -/
def render : Statement → Except Error Sql
  | .select s => s.render
  | .insert s => s.render
  | .update s => s.render
  | .delete s => s.render

def toSql (s : Statement) : Except Error String := s.render.map fun sql => sql.text ++ ";"

/-- The bound values, in the order of the placeholders. -/
def values : Statement → List Value
  | .select s => s.values
  | .insert s => s.values
  | .update s => s.values
  | .delete s => s.values

end Statement

end SqlBuilder
