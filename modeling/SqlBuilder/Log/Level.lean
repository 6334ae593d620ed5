import SqlBuilder.Chars.UpperCase
import SqlBuilder.Value.Iteration

set_option autoImplicit false

namespace SqlBuilder

abbrev Level := Int

namespace Level

def debug : Level := 10

def info : Level := 20

def warning : Level := 30

/-- The names under which a threshold can be given; two levels have a second name. -/
def names : List (String × Level) :=
  [("CRITICAL", 50), ("FATAL", 50), ("ERROR", 40), ("WARN", 30), ("WARNING", 30), ("INFO", 20),
    ("DEBUG", 10), ("NOTSET", 0)]

/-- The names that are written for levels. -/
def titles : List (Level × String) :=
  [(50, "CRITICAL"), (40, "ERROR"), (30, "WARNING"), (20, "INFO"), (10, "DEBUG"), (0, "NOTSET")]

/-- The text that stands for a level without a name. -/
def nameless (shown : String) : String := "Level " ++ shown

def title (level : Level) : String := (titles.lookup level).getD (nameless (toString level))

/-- A threshold: a number or a truth value as it is, or one of the names. -/
def ofValue : Value → Except Error Level
  | .int n => .ok n
  | .bool b => .ok (if b then 1 else 0)
  | .text t =>
    match names.lookup t.chars with
    | some level => .ok level
    | none => .error (.unknownLevel (.text t))
  | .select => .error .unrendered
  | v => .error (.levelType v)

/-- The value, a text in upper case. -/
def upperCased : Value → Value
  | .text t => .str (Chars.upperText t.chars)
  | v => v

end Level

/-- The level of a record as it was given, and its title. -/
structure RecordLevel where
  given : Value
  title : Value

namespace RecordLevel

def ofLevel (level : Level) : RecordLevel := ⟨.int level, .str level.title⟩

/-- A number that has a name is titled by it and a name by its number; other values are shown. -/
def titleOf (v : Value) : Except Error Value :=
  match Level.titles.find? fun entry => (Value.int entry.1).same v with
  | some (_, name) => .ok (.str name)
  | none =>
    match v with
    | .text t =>
      match Level.names.lookup t.chars with
      | some level => .ok (.int level)
      | none => .ok (.str (Level.nameless t.chars))
    | v => v.shown.map fun shown => .str (Level.nameless shown)

/-- Only a value that can be a key is looked up among the levels. -/
def ofValue (v : Value) : Except Error RecordLevel := do
  let given ← v.asKey
  return ⟨given, ← titleOf given⟩

end RecordLevel

end SqlBuilder
