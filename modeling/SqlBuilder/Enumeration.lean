set_option autoImplicit false

namespace SqlBuilder

inductive Operator
  | equal
  | notEqual
  | less
  | lessOrEqual
  | more
  | moreOrEqual
  deriving DecidableEq

inductive SortOrder
  | asc
  | desc
  deriving DecidableEq

inductive DriverKind
  | mysql
  | postgresql
  | sqlite
  deriving DecidableEq

/-- A finite set of named words. -/
class Enumeration (α : Type) where
  title : String
  members : List α
  name : α → String
  spelling : α → String

instance : Enumeration Operator where
  title := "Operator"
  members := [.equal, .notEqual, .less, .lessOrEqual, .more, .moreOrEqual]
  name
    | .equal => "EQUAL"
    | .notEqual => "NOT_EQUAL"
    | .less => "LESS"
    | .lessOrEqual => "LESS_OR_EQUAL"
    | .more => "MORE"
    | .moreOrEqual => "MORE_OR_EQUAL"
  spelling
    | .equal => "="
    | .notEqual => "!="
    | .less => "<"
    | .lessOrEqual => "<="
    | .more => ">"
    | .moreOrEqual => ">="

instance : Enumeration SortOrder where
  title := "SortOrder"
  members := [.asc, .desc]
  name
    | .asc => "ASC"
    | .desc => "DESC"
  spelling
    | .asc => "ASC"
    | .desc => "DESC"

instance : Enumeration DriverKind where
  title := "DriverKind"
  members := [.mysql, .postgresql, .sqlite]
  name
    | .mysql => "MYSQL"
    | .postgresql => "POSTGRESQL"
    | .sqlite => "SQLITE"
  spelling
    | .mysql => "mysql"
    | .postgresql => "postgresql"
    | .sqlite => "sqlite"

namespace Enumeration

variable {α : Type} [Enumeration α]

def find? (spelled : String) : Option α :=
  (members : List α).find? fun m => spelling m == spelled

def named? (wanted : String) : Option α :=
  (members : List α).find? fun m => name m == wanted

end Enumeration

def Operator.spelling (o : Operator) : String := Enumeration.spelling o

def SortOrder.spelling (o : SortOrder) : String := Enumeration.spelling o

def DriverKind.spelling (k : DriverKind) : String := Enumeration.spelling k

end SqlBuilder
