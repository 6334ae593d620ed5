import SqlBuilder.Log.Line

set_option autoImplicit false

namespace SqlBuilder

/-- The root of all logger names. -/
def rootLogger : String := "querychain"

/-- The full name of a logger: a name outside the root is put below it. -/
def loggerName : Option String → String
  | none => rootLogger
  | some name =>
    if name = rootLogger || (rootLogger ++ ".").isPrefixOf name then name
    else rootLogger ++ "." ++ name

/-- A logger is named by a text, or not at all. -/
def loggerNameOf : Value → Except Error String
  | .null => .ok (loggerName none)
  | .text t => .ok (loggerName (some t.chars))
  | v => .error (.noAttribute v.typeName "startswith")

inductive Target
  | console
  | stream (index : Nat)
  | nowhere
  deriving DecidableEq

inductive RecordFormat
  | structured
  | lines (format : String)

def RecordFormat.isStructured : RecordFormat → Bool
  | .structured => true
  | .lines _ => false

/-- The text of a stamped record. -/
def RecordFormat.write (codec : Json.Codec) (time : String) (r : LogRecord) :
    RecordFormat → Except Error String
  | .structured => r.structured codec time none
  | .lines format => LineFormat.write format time r

/-- A handler as it is handed in: its format may be left open, and it may stamp already. -/
structure HandlerSpec where
  target : Target
  format : Option RecordFormat
  level : Level
  stamps : Bool

namespace HandlerSpec

def console : HandlerSpec := ⟨.console, none, 0, false⟩

/-- Checks the format first, then the level; without a level everything passes. -/
def ofValues (target : Target) (format level : Option Value) (stamps : Bool) :
    Except Error HandlerSpec := do
  let format ← format.mapM LineFormat.ofValue
  let level ← level.mapM Level.ofValue
  return ⟨target, format.map .lines, level.getD 0, stamps⟩

end HandlerSpec

structure Handler where
  target : Target
  format : RecordFormat
  level : Level
  /-- How many of its filters stamp records. -/
  stampers : Nat

structure LogSetup where
  level : Level
  /-- The threshold as it was asked for, a name having become its number. -/
  asked : Value
  propagates : Bool
  handlers : List Handler

namespace LogSetup

/-- The setup before any configuration: everything passes, and nothing shows. -/
def initial : LogSetup :=
  ⟨Level.debug, .int Level.debug, true, [⟨.nowhere, .lines LineFormat.bare, 0, 0⟩]⟩

/-- What steps in when there is no handler. -/
def lastResort : Handler := ⟨.console, .lines LineFormat.bare, Level.warning, 0⟩

def defaultFormat (structured : Bool) : RecordFormat :=
  if structured then .structured else .lines LineFormat.detailed

/-- A handler ready for use; one that does not stamp yet gets a filter that does. -/
def install (structured : Bool) (spec : HandlerSpec) : Handler :=
  ⟨spec.target, spec.format.getD (defaultFormat structured), spec.level, 1⟩

/-- A truth value stays one. -/
def askedAs (given : Value) (level : Level) : Value :=
  match given with
  | .bool b => .bool b
  | _ => .int level

/-- The setup with the given handlers, or with one for the console; a name counts in any case. -/
def configure (given : Value) (structured : Bool) (handlers : Option (List HandlerSpec)) :
    Except Error LogSetup :=
  (Level.ofValue (Level.upperCased given)).map fun level =>
    ⟨level, askedAs given level, false, (handlers.getD [.console]).map (install structured)⟩

/-- The threshold in force: 0 stands for that of the surrounding program, WARNING. -/
def threshold (s : LogSetup) : Level := if s.level = 0 then Level.warning else s.level

def admits (s : LogSetup) (level : Level) : Bool := 0 < level && s.threshold ≤ level

/-- The handlers that records reach. -/
def receivers (s : LogSetup) : List Handler :=
  if s.handlers.isEmpty then [lastResort] else s.handlers

/-- What a handler writes for a stamped record. -/
def written (codec : Json.Codec) (time : String) (r : LogRecord) (h : Handler) :
    Option (Target × String) :=
  match h.format.write codec time r with
  | .ok text => some (h.target, text)
  | .error _ => none

/-- What is written for a stamped record, handler by handler; a level must be a number. -/
def emit (s : LogSetup) (codec : Json.Codec) (time : String) (r : LogRecord) :
    List (Target × String) :=
  match r.level.given.intLike? with
  | none => []
  | some level =>
    if s.admits level then
      (s.receivers.filter fun h => h.level ≤ level).filterMap (written codec time r)
    else []

end LogSetup

/-- The lines that a target received: a line feed ends a line, no other mark does, and none crosses
from one text into the next. -/
def linesOf (target : Target) (written : List (Target × String)) : List String :=
  (written.filter fun entry => entry.1 = target).flatMap fun entry => entry.2.splitOn "\n"

end SqlBuilder
