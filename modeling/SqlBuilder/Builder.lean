import SqlBuilder.Session

set_option autoImplicit false

namespace SqlBuilder

/-- A call that changes a statement of some kind. -/
inductive Call
  | select (call : SelectCall)
  | insert (call : InsertCall)
  | update (call : UpdateCall)
  | delete (call : DeleteCall)

/-- Applies a call; a statement of another kind refuses it. -/
def Statement.apply (driver : Driver) : Call → Statement → Outcome Statement
  | .select call, .select s => (call.run driver s).map .select
  | .insert call, .insert s => (call.run s).map .insert
  | .update call, .update s => (call.run driver s).map .update
  | .delete call, .delete s => (call.run driver s).map .delete
  | _, s => .fail (.query (.lacking s.kind .operation)) s

/-- A page of a query's rows, and the way to the others. -/
structure Page where
  result : Value
  current : Nat
  items : Nat
  previous : Option Nat
  next : Option Nat
  totalItems : Int
  totalPages : Int

inductive Operation
  | call (c : Call)
  | exec
  | raw (sql values : Value)
  | count
  | paginate (page items : Value)
  | logSql
  | logValues
  | toSql
  /-- The text of a query, without its terminator when the argument is true. -/
  | build (embedded : Value)
  | values
  | dialect
  | parse
  | connection
  | config
  | unknown (name : String)

inductive Reply
  | itself
  | value (v : Value)
  | page (p : Page)
  | dialect (kind : DriverKind)
  | root (title : String)

/-- A statement in the making, in the session in which it was begun. -/
structure Builder where
  statement : Statement
  session : Session

abbrev BuilderM := EStateM Error Builder

namespace Paging

/-- A page number below 1, or of another type, becomes 1. -/
def pageNumber : Value → Nat
  | .int n => if 1 ≤ n then n.toNat else 1
  | _ => 1

/-- A size below 1, or of another type, becomes that of the settings. -/
def pageSize (config : Config) : Value → Nat
  | .int n => if 1 ≤ n then n.toNat else config.pageSize
  | _ => config.pageSize

def cleared (query : Select) : Select := { query with limit := none, offset := none }

def window (page items : Nat) (query : Select) : Select :=
  { query with limit := some items, offset := some ((page - 1) * items) }

def page (result : Value) (current items : Nat) (total pages : Int) : Page where
  result := result
  current := current
  items := items
  previous := if 1 < current then some (current - 1) else none
  next := if (current : Int) < pages then some (current + 1) else none
  totalItems := total
  totalPages := pages

end Paging

namespace Builder

/-- A builder of an empty statement, for a connection that is still usable. -/
def start (kind : StatementKind) (s : Session) : Except Error Builder :=
  (Connection.check s.connection.toValue).map fun _ => ⟨.empty kind, s⟩

/-- An action of the session; the statement stays. -/
def inSession {α : Type} (action : SessionM α) : BuilderM α := fun b =>
  match action b.session with
  | .ok a s => .ok a { b with session := s }
  | .error e s => .error e { b with session := s }

def setStatement (statement : Statement) : BuilderM Unit :=
  modify fun b => { b with statement }

/-- Runs an action inside a scope of the session. -/
def withinScope {α : Type} (action : BuilderM α) : BuilderM α := fun b =>
  let token := b.session.opening.token
  match action { b with session := b.session.entered } with
  | .ok a c => .ok a { c with session := c.session.leave token }
  | .error e c => .error e { c with session := c.session.leave token }

/-- Settles an outcome: its statement and its notices count also when it failed. -/
def settle (o : Outcome Statement) : BuilderM Unit := fun b =>
  let c : Builder := ⟨o.state, b.session.observeAll o.notices⟩
  match o.failure with
  | some e => .error e c
  | none => .ok () c

/-- Gives notice of what `notice` makes of a result, unless there is none. -/
def announce {α : Type} (result : Except Error α) (notice : α → Notice) : BuilderM α := do
  let a ← MonadExcept.ofExcept result
  inSession (modify fun s => s.observe (notice a))
  return a

/-- Counts the rows, then reads one page of them; both queries share a scope. -/
def readPage (query : Select) (page items : Nat) : BuilderM (Int × Value) :=
  withinScope do
    let total ← inSession (Session.count (Paging.cleared query))
    let paged := Paging.window page items query
    setStatement (.select paged)
    let result ← inSession (Session.exec (.select paged))
    return (total, result)

def paginate (query : Select) (page items : Value) : BuilderM Page := do
  let current := Paging.pageNumber page
  let size := Paging.pageSize (← get).session.config items
  setStatement (.select (Paging.cleared query))
  let (total, result) ← readPage query current size
  match Binary64.ceilQuotient total size with
  | none => throw .quotientTooLarge
  | some pages =>
    inSession <| modify fun s => s.log "builder.select" Level.debug
      ("Paginated page " ++ toString current ++ " of " ++ toString pages)
      (some [(.str "total_items", .int total)])
    return Paging.page result current size total pages

/-- The text of a statement, without the terminator if asked by the truth value true itself. -/
def embeddedText (s : Statement) : Value → Except Error String
  | .bool true => s.render.map Sql.text
  | _ => s.toSql

/-- The failure of asking for an operation that a statement does not have. -/
def noOperation (s : Statement) (name : String) : Error := .noAttribute s.kind.title name

/-- An operation that only queries have. -/
def onSelect {α : Type} (name : String) (action : Select → BuilderM α) : BuilderM α := do
  match (← get).statement with
  | .select query => action query
  | s => throw (noOperation s name)

def run (operation : Operation) : BuilderM Reply := do
  let b ← get
  match operation with
  | .call c =>
    settle (b.statement.apply b.session.driver c)
    return .itself
  | .exec => return .value (← inSession (Session.exec b.statement))
  | .raw sql values => return .value (← inSession (Session.send sql values))
  | .count =>
    onSelect "count" fun query => return .value (.int (← inSession (Session.count query)))
  | .paginate page items =>
    onSelect "paginate" fun query => return .page (← paginate query page items)
  | .logSql =>
    let _ ← announce b.statement.toSql .rendered
    return .itself
  | .logValues =>
    let _ ← announce (.ok b.statement.values) .bound
    return .itself
  | .toSql => return .value (.str (← MonadExcept.ofExcept b.statement.toSql))
  | .build embedded =>
    return .value (.str (← MonadExcept.ofExcept (embeddedText b.statement embedded)))
  | .values => return .value (.list b.statement.values)
  | .dialect =>
    return .dialect (← announce b.session.driver.kind .dialect)
  | .parse => do
    let sql ← MonadExcept.ofExcept b.statement.toSql
    let kind ← announce b.session.driver.kind .dialect
    return .root (← MonadExcept.ofExcept (b.session.parser.parse kind sql))
  | .connection => return .value b.session.connection.toValue
  | .config => return .value b.session.config.toValue
  | .unknown name => throw (noOperation b.statement name)

end Builder

namespace Session

/-- The connection, if it is still usable. -/
def getConnection : SessionM Value := do
  let v := (← get).connection.toValue
  MonadExcept.ofExcept (Connection.check v)
  return v

/-- Replaces the connection for the builders to come, also when its driver cannot be shown. -/
def setConnection (v : Value) (answers : List Answer) : SessionM Unit := do
  let c ← MonadExcept.ofExcept (Connection.ofValue v answers)
  modify fun s => { s with connection := c }
  let driver ← MonadExcept.ofExcept c.driver.shown
  modify fun s => s.log "base" Level.debug "Connection replaced"
    (some [(.str "driver", .str driver)])

/-- Takes the query routine off the current connection, which must still have it. -/
def dropRoutine : SessionM Unit := do
  let c := (← get).connection
  if c.routine = .absent then throw c.noRoutine
  modify fun s => { s with connection := { c with routine := .absent } }

/-- The setup that the settings ask for, if they name a level. -/
def logSetup (config : Config) : Except Error (Option LogSetup) :=
  match config.logLevel with
  | none => .ok none
  | some level =>
    (LogSetup.configure (.text level) config.structuredLogs.truthy none).map some

end Session

end SqlBuilder
