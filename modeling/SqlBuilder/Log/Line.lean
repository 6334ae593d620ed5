import SqlBuilder.Chars.Search
import SqlBuilder.Chars.Word
import SqlBuilder.Log.Record

set_option autoImplicit false

namespace SqlBuilder.LineFormat

/-- Nothing but the message. -/
def bare : String := "%(message)s"

/-- Time, level, id in brackets and logger, then the message. -/
def detailed : String :=
  "%(asctime)s %(levelname)s [%(correlation_id)s] %(name)s: %(message)s"

def skipDigits (cs : List Char) : List Char :=
  cs.dropWhile fun c => (Chars.decimalDigit? c).isSome

/-- Passes over a width, if there is one. -/
def skipWidth : List Char → List Char
  | '*' :: rest => rest
  | cs => skipDigits cs

/-- Passes over a precision, which is not empty, if there is one. -/
def skipPrecision : List Char → List Char
  | '.' :: '*' :: rest => rest
  | '.' :: c :: rest => if (Chars.decimalDigit? c).isSome then skipDigits rest else '.' :: c :: rest
  | cs => cs

/-- The letters of conversions, in either case, and the three letters whose case is one of them. -/
def fieldLetters : List Char := "diouxefgcrsaDIOUXEFGCRSA%İıſ".toList

/-- The text opens with a field: a name in parentheses and a conversion. -/
def opensField : List Char → Bool
  | '%' :: '(' :: rest =>
    match rest.takeWhile Chars.isWordChar, rest.dropWhile Chars.isWordChar with
    | _ :: _, ')' :: form =>
      match skipPrecision (skipWidth (form.dropWhile Directive.isFlag)) with
      | letter :: _ => fieldLetters.contains letter
      | [] => false
    | _, _ => false
  | _ => false

def isValid (format : String) : Bool := Chars.someTail opensField format.toList

/-- The format that a value asks for: the bare one when it counts as false. -/
def ofValue (v : Value) : Except Error String :=
  if !v.truthy then .ok bare
  else
    match v with
    | .text t => if isValid t.chars then .ok t.chars else .error (.lineFormat t.chars)
    | v => .error (.formatType v)

/-- The format mentions the time anywhere. -/
def isTimed (format : String) : Bool :=
  Chars.someTail ("%(asctime)".toList.isPrefixOf ·) format.toList

/-- The arguments of a message as one value: the map that names them, or a tuple. -/
def argumentValue : List Value → Value
  | [.map (entry :: rest)] => .map (entry :: rest)
  | args => .tuple args

/-- What the fields of a format can name. -/
def attributes (time : Option String) (message : String) (r : LogRecord) : Entries :=
  [(.str "name", .str r.logger), (.str "msg", r.template), (.str "args", argumentValue r.args),
    (.str "levelname", r.level.title), (.str "levelno", r.level.given),
    (.str "exc_info", .null), (.str "exc_text", .null), (.str "stack_info", .null),
    (.str "threadName", .str "MainThread"), (.str "processName", .str "MainProcess")] ++
  (r.fields.map fun fields => ((.str "extra_fields", fields) : Value × Value)).toList ++
  [(.str "correlation_id", r.stamp), (.str "message", .str message)] ++
  (time.map fun time => ((.str "asctime", .str time) : Value × Value)).toList

/-- The line of a record in a format. -/
def write (format time : String) (r : LogRecord) : Except Error String := do
  let message ← r.message
  let time := if isTimed format then some time else none
  (Template.ofText format).fill (.ofMap (attributes time message r))

end SqlBuilder.LineFormat
