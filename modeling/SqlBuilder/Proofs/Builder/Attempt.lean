import SqlBuilder.Proofs.Builder.Sending
import SqlBuilder.Proofs.Call.Attempt

set_option autoImplicit false

namespace SqlBuilder

/-- What an operation attempts; one that is no call attempts nothing. -/
def Operation.attempts (driver : Driver) (s : Statement) : Operation → List Attempt
  | .call c => c.attempts driver s
  | _ => []

/-- The operation asks the connection for something. -/
def Operation.sends : Operation → Bool
  | .exec | .raw .. | .count | .paginate .. => true
  | _ => false

/-- The operation shows what the session has, or how its driver reads the statement. -/
def Operation.showsSession : Operation → Bool
  | .dialect | .parse | .connection | .config => true
  | _ => false

namespace Builder

/-- What the operations attempt, of which any may fail. -/
def attempts : List Operation → Builder → List Attempt
  | [], _ => []
  | operation :: rest, b =>
    operation.attempts b.session.driver b.statement ++ attempts rest (b.next operation)

end Builder

end SqlBuilder
