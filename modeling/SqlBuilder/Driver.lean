import SqlBuilder.Dialect

set_option autoImplicit false

namespace SqlBuilder

/-- Reads a text in the grammar of a kind of driver: the name at the root of its syntax tree, if the
text can be read. -/
abbrev Parser := DriverKind → String → Option String

/-- A statement without the semicolons at its end. -/
def unended (sql : String) : String :=
  String.ofList (sql.toList.reverse.dropWhile (· == ';')).reverse

/-- The root of a rendered statement as a kind of driver reads it. -/
def Parser.parse (parser : Parser) (kind : DriverKind) (sql : String) : Except Error String :=
  match parser kind (unended sql) with
  | some root => .ok root
  | none => .error (.parsing (unended sql))

/-- Takes every text for a query. -/
def Parser.queries : Parser := fun _ _ => some StatementKind.select.title

/-- What a connection says of its driver, and the parser that its statements are read with. -/
structure Driver where
  descriptor : Value
  parser : Parser

def Driver.kind (d : Driver) : Except Error DriverKind := DriverKind.resolve d.descriptor

end SqlBuilder
