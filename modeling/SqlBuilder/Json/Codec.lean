import SqlBuilder.Error

set_option autoImplicit false

namespace SqlBuilder.Json

/-- Why a text is not read. -/
inductive ReadFault
  | malformed
  /-- A number is too long or too large. -/
  | outOfRange
  | tooDeep
  deriving DecidableEq

/-- What writes values as texts of JSON, and reads such texts. -/
structure Codec where
  encode : Value → Except Error String
  decode : String → Except ReadFault Value

end SqlBuilder.Json
