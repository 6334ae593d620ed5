import SqlBuilder.Chars.UpperCase
import SqlBuilder.Error
import SqlBuilder.Value.Mapping

set_option autoImplicit false

namespace SqlBuilder

structure ConfigFields where
  pageSize : Value := .int 10
  countAlias : Value := .str "count"
  logStatements : Value := .bool true
  logLevel : Value := .null
  structuredLogs : Value := .bool true

structure Config where
  pageSize : Nat
  pageSize_pos : 0 < pageSize
  countAlias : Text
  logStatements : Value
  logLevel : Option Text
  structuredLogs : Value

namespace Config

def logLevels : List String := ["DEBUG", "INFO", "WARNING", "ERROR", "CRITICAL"]

def isLogLevel (t : Text) : Bool := logLevels.contains (Chars.upperText t.chars)

def standard : Config := ⟨10, by decide, .plain "count", .bool true, none, .bool true⟩

def checkLogLevel : Value → Except Error (Option Text)
  | .null => .ok none
  | .text t =>
    if isLogLevel t then .ok (some t) else .error (.configuration (.logLevel (.text t)))
  | v => .error (.configuration (.logLevel v))

/-- Checks the page size, then the alias, then the log level. -/
def ofFields (f : ConfigFields) : Except Error Config :=
  match f.pageSize with
  | .int n =>
    if h : 0 < n.toNat then
      match f.countAlias.fullText? with
      | none => .error (.configuration (.countAlias f.countAlias))
      | some label =>
        (checkLogLevel f.logLevel).map fun level =>
          ⟨n.toNat, h, label, f.logStatements, level, f.structuredLogs⟩
    else .error (.configuration (.pageSize (.int n)))
  | v => .error (.configuration (.pageSize v))

/-- The settings as a map, in the order of their declaration. -/
def toValue (c : Config) : Value :=
  .map [(.str "default_page_size", .int c.pageSize), (.str "count_alias", .text c.countAlias),
    (.str "log_statements", c.logStatements), (.str "log_level", .ofOption .text c.logLevel),
    (.str "structured_logs", c.structuredLogs)]

end Config

end SqlBuilder
