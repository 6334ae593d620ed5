import SqlBuilder.Chars.Quoted
import SqlBuilder.Number.Decimal
import SqlBuilder.Value.Basic

set_option autoImplicit false

namespace SqlBuilder

def memberText {α : Type} [Enumeration α] (m : α) : String :=
  "<" ++ Enumeration.title α ++ "." ++ Enumeration.name m ++ ": " ++
    Chars.quoted (Enumeration.spelling m) ++ ">"

def Text.repr : Text → String
  | .plain s => Chars.quoted s
  | .operator o => memberText o
  | .order o => memberText o
  | .kind k => memberText k

namespace Value

mutual

def repr : Value → String
  | .null => "None"
  | .bool true => "True"
  | .bool false => "False"
  | .int n => toString n
  | .float x => x.display
  | .text t => t.repr
  | .bytes bs => Chars.quotedBytes bs
  | .list items => "[" ++ ", ".intercalate (reprs items) ++ "]"
  | .tuple [item] => "(" ++ repr item ++ ",)"
  | .tuple items => "(" ++ ", ".intercalate (reprs items) ++ ")"
  | .map entries => "\x7b" ++ ", ".intercalate (entryReprs entries) ++ "\x7d"
  | .ref column => "Ref(" ++ column.repr ++ ")"
  | .connection name _ _ => "<conn " ++ name ++ ">"
  | .named _ => "<named>"
  | .object label => "<opaque " ++ label ++ ">"
  | .select => "<select>"
  | .callback => "<callback>"

def reprs : List Value → List String
  | [] => []
  | v :: rest => repr v :: reprs rest

def entryReprs : List (Value × Value) → List String
  | [] => []
  | (key, v) :: rest => (repr key ++ ": " ++ repr v) :: entryReprs rest

end

def display : Value → String
  | .text t => t.chars
  | v => v.repr

end Value

end SqlBuilder
