import SqlBuilder.Json.Codec
import SqlBuilder.Log.Level
import SqlBuilder.Template.Filling

set_option autoImplicit false

namespace SqlBuilder

structure LogRecord where
  logger : String
  level : RecordLevel
  template : Value
  args : List Value
  /-- What the record is stamped with; nothing when it is not stamped. -/
  stamp : Value
  /-- A map, or a value that spells the entries of one. -/
  fields : Option Value
  failure : Option String

namespace LogRecord

/-- A record with a finished message and no stamp. -/
def plain (logger : String) (level : Level) (message : String) (fields : Option Entries) :
    LogRecord :=
  ⟨logger, .ofLevel level, .str message, [], .null, fields.map .map, none⟩

def message (r : LogRecord) : Except Error String :=
  r.template.shown.bind fun text => Template.render text r.args

/-- The stamp of a record outside every scope. -/
def noId : String := "-"

def stampFor (bound : Option Value) : Value :=
  match bound with
  | some id => if id.truthy then id else .str noId
  | none => .str noId

def stamped (bound : Option Value) (r : LogRecord) : LogRecord :=
  { r with stamp := stampFor bound }

/-- The id of a record: its stamp, or the bound id when the stamp counts as false. -/
def id? (bound : Option Value) (r : LogRecord) : Option Value :=
  let id := if r.stamp.truthy then r.stamp else bound.getD .null
  if id.truthy && !id.same (.str noId) then some id else none

/-- The entries of a structured line but for the failure. -/
def knownEntries (time message : String) (bound : Option Value) (r : LogRecord) : Entries :=
  let known : Entries :=
    [(.str "timestamp", .str time), (.str "level", r.level.title),
      (.str "logger", .str r.logger), (.str "message", .str message)]
  match r.id? bound with
  | some id => known ++ [(.str "correlation_id", id)]
  | none => known

def entries (time : String) (bound : Option Value) (r : LogRecord) : Except Error Entries := do
  let message ← r.message
  let merged ← (r.knownEntries time message bound).merge (r.fields.getD (.map []))
  return match r.failure with
    | some failure => merged.put (.str "exception") (.str failure)
    | none => merged

/-- The structured line. -/
def structured (codec : Json.Codec) (time : String) (bound : Option Value) (r : LogRecord) :
    Except Error String :=
  (r.entries time bound).bind fun entries => codec.encode (.map entries)

end LogRecord

/-- How a failure is reported: its title, and its reason when there is one. -/
def failureText (title reason : String) : String :=
  if reason = "" then title else title ++ ": " ++ reason

end SqlBuilder
