import SqlBuilder.Chars.UpperCase
import SqlBuilder.Error

set_option autoImplicit false

namespace SqlBuilder

namespace DriverKind

def aliases : List (String × DriverKind) :=
  [("mysql", .mysql), ("mariadb", .mysql), ("postgresql", .postgresql), ("postgres", .postgresql),
    ("pg", .postgresql), ("sqlite", .sqlite), ("sqlite3", .sqlite)]

def ofName? (name : String) : Option DriverKind :=
  aliases.lookup (Chars.lowerAscii (Chars.trimText name))

def ofDriver? : Value → Option DriverKind
  | .text (.kind k) => some k
  | .text t => ofName? t.chars
  | .named (.text t) => ofName? t.chars
  | _ => none

/-- The kind of a connection's driver, refused when none of the known names fits. -/
def resolve (driver : Value) : Except Error DriverKind :=
  match ofDriver? driver with
  | some k => .ok k
  | none => .error (.configuration (.driver driver))

/-- The name of the grammar that reads statements of this kind. -/
def grammarName : DriverKind → String
  | .mysql => "mysql"
  | .postgresql => "postgres"
  | .sqlite => "sqlite"

def grammarTitle : DriverKind → String
  | .mysql => "MySQL"
  | .postgresql => "Postgres"
  | .sqlite => "SQLite"

def dialectName (k : DriverKind) : String := k.grammarTitle ++ "Dialect"

def dialectTitle (k : DriverKind) : String := k.dialectName ++ "()"

end DriverKind

namespace DatePart

def keyword : DatePart → String
  | .date => "DATE"
  | .time => "TIME"
  | .year => "YEAR"
  | .month => "MONTH"
  | .day => "DAY"
  | .hour => "HOUR"
  | .minute => "MINUTE"
  | .second => "SECOND"

/-- The directive that picks the part out of a time stamp. -/
def directive : DatePart → String
  | .date => "%Y-%m-%d"
  | .time => "%H:%M:%S"
  | .year => "%Y"
  | .month => "%m"
  | .day => "%d"
  | .hour => "%H"
  | .minute => "%M"
  | .second => "%S"

/-- The least and the greatest number of a numeric part. -/
def range : DatePart → Int × Option Int
  | .date | .time => (0, none)
  | .year => (1, none)
  | .month => (1, some 12)
  | .day => (1, some 31)
  | .hour => (0, some 23)
  | .minute => (0, some 59)
  | .second => (0, some 59)

def admits (part : DatePart) (n : Int) : Bool :=
  part.range.1 ≤ n && match part.range.2 with
    | some high => n ≤ high
    | none => true

end DatePart

/-- The text that extracts a part of a column. -/
def DriverKind.extract (k : DriverKind) (part : DatePart) (column : String) : String :=
  match k, part with
  | .mysql, part => part.keyword ++ "(" ++ column ++ ")"
  | .postgresql, .date => column ++ "::DATE"
  | .postgresql, .time => "TO_CHAR(" ++ column ++ ", 'HH24:MI:SS')"
  | .postgresql, part => "EXTRACT(" ++ part.keyword ++ " FROM " ++ column ++ ")"
  | .sqlite, .date => "DATE(" ++ column ++ ")"
  | .sqlite, part => "STRFTIME('" ++ part.directive ++ "', " ++ column ++ ")"

end SqlBuilder
