import SqlBuilder.Config
import SqlBuilder.Correlation
import SqlBuilder.Log.Setup
import SqlBuilder.Statement
import SqlBuilder.Value.Integer

set_option autoImplicit false

namespace SqlBuilder

inductive Answer
  | returns (v : Value)
  | fails (e : Error)

structure Connection where
  name : String
  driver : Value
  routine : QueryRoutine
  answers : List Answer

namespace Connection

def toValue (c : Connection) : Value := .connection c.name (some c.driver) c.routine

/-- The failure of asking for a query routine that is not there. -/
def noRoutine (c : Connection) : Error := .noAttribute c.toValue.typeName "query"

def check (v : Value) : Except Error Unit :=
  if v.isConnection then .ok () else .error (.query (.unusable .connection v))

/-- The connection that a value stands for, with its answers to come. -/
def ofValue (v : Value) (answers : List Answer) : Except Error Connection :=
  match v with
  | .connection name (some driver) routine => do
    check v
    return ⟨name, driver, routine, answers⟩
  | v => .error (.query (.unusable .connection v))

end Connection

/-- A query as a connection received it. -/
structure Query where
  connection : String
  sql : Value
  values : Value
  id : Option Value

/-- What the builders of one context share: the connection with its answers to come, the settings,
the id in force, and all that has been sent and logged. -/
structure Session where
  connection : Connection
  config : Config
  correlation : Correlation
  /-- Where fresh correlation ids come from. -/
  supply : Nat → String
  /-- What statements are read with. -/
  parser : Parser
  dialects : List DriverKind
  queries : List Query
  records : List LogRecord

abbrev SessionM := EStateM Error Session

namespace Session

def start (connection : Connection) (config : Config) (supply : Nat → String) (parser : Parser) :
    Session :=
  ⟨connection, config, .none, supply, parser, [], [], []⟩

def driver (s : Session) : Driver := ⟨s.connection.driver, s.parser⟩

def log (logger : String) (level : Level) (message : String) (fields : Option Entries)
    (s : Session) : Session :=
  let r := LogRecord.plain (rootLogger ++ "." ++ logger) level message fields
  { s with records := s.records ++ [r.stamped s.correlation.bound] }

/-- Takes notice: the first use of a dialect is logged, and so is what a builder shows. -/
def observe (s : Session) : Notice → Session
  | .dialect kind =>
    if s.dialects.contains kind then s
    else
      { s with dialects := s.dialects ++ [kind] }.log "dialects" Level.debug
        ("Selected " ++ kind.spelling ++ " dialect") none
  | .rendered sql => s.log "builder" Level.info sql none
  | .bound values => s.log "builder" Level.info (Value.list values).repr none

def observeAll (s : Session) (notices : List Notice) : Session := notices.foldl observe s

/-- Opens a scope that has no id of its own. -/
def opening (s : Session) : Opening := s.correlation.enter s.supply none

/-- The session inside such a scope. -/
def entered (s : Session) : Session := { s with correlation := s.opening.inner }

/-- The session after a scope that puts `token` back. -/
def leave (token : Option (Option Value)) (s : Session) : Session :=
  { s with correlation := s.correlation.leave token }

/-- Runs an action inside a scope, which is closed however the action ends. -/
def withinScope {α : Type} (action : SessionM α) : SessionM α := fun s =>
  match action s.entered with
  | .ok a t => .ok a (t.leave s.opening.token)
  | .error e t => .error e (t.leave s.opening.token)

/-- The session after a query went out and took an answer. -/
def sent (sql values : Value) (s : Session) : Session :=
  { s with
    queries := s.queries ++ [⟨s.connection.name, sql, values, s.correlation.bound⟩]
    connection := { s.connection with answers := s.connection.answers.tail } }

/-- Sends a query and takes the connection's next answer. -/
def send (sql values : Value) : SessionM Value := fun s =>
  match s.connection.routine with
  | .callable =>
    match s.connection.answers with
    | [] => .ok (.list []) (s.sent sql values)
    | .returns v :: _ => .ok v (s.sent sql values)
    | .fails e :: _ => .error e (s.sent sql values)
  | .number => .error (.notCallable (Value.int 5).typeName) s
  | .null => .error (.notCallable Value.null.typeName) s
  | .absent => .error s.connection.noRoutine s

/-- Sends a statement inside a scope, and logs it first when the settings say so. -/
def exec (statement : Statement) : SessionM Value := do
  let sql ← MonadExcept.ofExcept statement.toSql
  withinScope do
    let s ← get
    if s.config.logStatements.truthy then
      set (s.log "builder" Level.debug ("Executing " ++ statement.kind.keyword ++ " statement")
        (some [(.str "sql", .str sql), (.str "value_count", .int statement.values.length)]))
    send (.str sql) (.list statement.values)

/-- The number of rows of a query, as the first row of the answer tells it. -/
def count (query : Select) : SessionM Int := do
  let label := (← get).config.countAlias
  let rows ← exec (.select (query.counting label))
  let row ← MonadExcept.ofExcept (rows.item (.int 0))
  let total ← MonadExcept.ofExcept (row.item (.text label))
  MonadExcept.ofExcept total.toInteger

end Session

end SqlBuilder
