import SqlBuilder.Chars.Integer
import SqlBuilder.Report

set_option autoImplicit false

namespace SqlBuilder

inductive StatementKind
  | select
  | insert
  | update
  | delete
  deriving DecidableEq

def StatementKind.keyword : StatementKind → String
  | .select => "SELECT"
  | .insert => "INSERT"
  | .update => "UPDATE"
  | .delete => "DELETE"

/-- The name of a statement's kind as an object. -/
def StatementKind.title : StatementKind → String
  | .select => "Select"
  | .insert => "Insert"
  | .update => "Update"
  | .delete => "Delete"

/-- The date and time parts that a condition can compare. -/
inductive DatePart
  | date
  | time
  | year
  | month
  | day
  | hour
  | minute
  | second
  deriving DecidableEq

def DatePart.label : DatePart → String
  | .date => "date"
  | .time => "time"
  | .year => "year"
  | .month => "month"
  | .day => "day"
  | .hour => "hour"
  | .minute => "minute"
  | .second => "second"

/-- The clauses that hold a condition. -/
inductive Clause
  | filter (kind : StatementKind)
  | having
  | join
  deriving DecidableEq

def Clause.label : Clause → String
  | .filter kind => kind.keyword
  | .having => "HAVING"
  | .join => "JOIN"

/-- The roles that an argument can have. -/
inductive Part
  | reference
  | fragment
  | fragmentValue
  | columnName
  | column
  | operand
  | lowerBound
  | upperBound
  | datePart (part : DatePart)
  | subquery
  | operator
  | condition (clause : Clause)
  | table (kind : StatementKind)
  | rowValue (kind : StatementKind)
  | selectColumn
  | joinTable
  | groupColumn
  | orderColumn
  | orderDirection
  | limit
  | offset
  | union (all : Bool)
  | insertRow
  | insertRows
  | returning

def Part.label : Part → String
  | .reference => "column reference"
  | .fragment => "condition"
  | .fragmentValue => "condition value"
  | .columnName => "column name"
  | .column => "column"
  | .operand => "value"
  | .lowerBound => "start value"
  | .upperBound => "end value"
  | .datePart part => part.label
  | .subquery => "subquery"
  | .operator => "operator"
  | .condition clause => clause.label ++ " condition"
  | .table kind => kind.keyword ++ " table"
  | .rowValue kind => kind.keyword ++ " value"
  | .selectColumn => "SELECT column"
  | .joinTable => "JOIN table"
  | .groupColumn => "GROUP BY column"
  | .orderColumn => "ORDER BY column"
  | .orderDirection => "ORDER BY type"
  | .limit => "LIMIT value"
  | .offset => "OFFSET value"
  | .union false => "UNION subquery"
  | .union true => "UNION ALL subquery"
  | .insertRow => "INSERT row"
  | .insertRows => "rows"
  | .returning => "RETURNING columns"

/-- The objects that a builder works with. -/
inductive Collaborator
  | owner
  | provider
  | connection

def Collaborator.label : Collaborator → String
  | .owner => "query instance"
  | .provider => "subquery provider"
  | .connection => "connection"

/-- What a statement can lack when it is rendered or extended. -/
inductive Lack
  | table
  | columns
  | values
  | row
  | condition
  | operation

def Lack.label : Lack → String
  | .table => "table"
  | .columns => "columns"
  | .values => "values"
  | .row => "row"
  | .condition => "condition"
  | .operation => "operation"

/-- What is wrong with the text of a condition. -/
inductive GrammarFault
  | unmatched
  | afterOpening
  | beforeClosing
  | consecutive
  | emptyGroup
  | atEnd
  | atStart
  | empty
  deriving DecidableEq

def GrammarFault.message : GrammarFault → String
  | .unmatched => "Syntax error: Unmatched parentheses."
  | .afterOpening => "Invalid syntax: AND/OR cannot directly follow an opening parenthesis."
  | .beforeClosing => "Invalid syntax: AND/OR cannot directly precede a closing parenthesis."
  | .consecutive => "Invalid syntax: Consecutive AND/OR operators found."
  | .emptyGroup => "Invalid syntax: Empty parentheses found."
  | .atEnd => "Invalid syntax: Condition cannot end with an operator."
  | .atStart => "Invalid syntax: Condition cannot start with an operator."
  | .empty => "Invalid syntax: Condition cannot be empty."

/-- What a query error says. -/
inductive QueryFault
  | invalid (part : Part) (given : Value)
  | unusable (what : Collaborator) (given : Value)
  | lacking (kind : StatementKind) (lack : Lack)
  | unconditional (kind : StatementKind)
  | emptyRow (given : Value)
  | tooFewRows
  | noChoices
  | grammar (fault : GrammarFault)

def QueryFault.message : QueryFault → String
  | .invalid part given => "Invalid " ++ part.label ++ ": " ++ given.display
  | .unusable what given => "Invalid " ++ what.label ++ ": " ++ given.repr
  | .lacking kind lack => "Invalid " ++ kind.keyword ++ " " ++ lack.label
  | .unconditional kind => kind.keyword ++ " condition is required"
  | .emptyRow given => "Empty INSERT row: " ++ given.display
  | .tooFewRows => "Bulk insert requires at least 2 rows."
  | .noChoices => "Values array cannot be empty for IN clause"
  | .grammar fault => fault.message

inductive ConfigurationFault
  | driver (given : Value)
  | pageSize (given : Value)
  | countAlias (given : Value)
  | logLevel (given : Value)

def ConfigurationFault.message : ConfigurationFault → String
  | .driver given => "Unsupported driver kind: " ++ given.repr
  | .pageSize given => "Invalid default page size: " ++ given.repr
  | .countAlias given => "Invalid count alias: " ++ given.repr
  | .logLevel given => "Invalid log level: " ++ given.repr

/-- Why a value is not an integer, or an integer has no text. -/
inductive IntegerFault
  | literal (given : Value)
  | tooLong (digits : Nat)
  | unwritable
  | nan
  | infinite
  | type (given : Value)

/-- Why an item cannot be taken out of a value. -/
inductive ItemFault
  | outOfRange (container : Value)
  | noKey (key : Value)
  | keyType (container key : Value)
  | noItems (container : Value)

/-- Why a value gives no entries to a map, or no key for one. -/
inductive EntriesFault
  | notIterable (given : Value)
  | notSequence (index : Nat)
  | notPair (index length : Nat)
  | unhashable (part : Value)

/-- Why a message template and its arguments do not fit together. -/
inductive TemplateFault
  | leftOver
  | exhausted
  | notNumber (directive : Char) (given : Value)
  | notInteger (directive : Char) (given : Value)
  | notReal (given : Value)
  | tooLargeForReal
  | notCharacter
  | characterRange
  | notCount
  | widthTooLarge
  | widthBeyondWord
  | precisionTooLarge
  | precisionBeyondWord
  | needsMap
  | incomplete
  | incompleteKey
  | unknown (directive : Char) (index : Nat)

inductive Error
  | query (fault : QueryFault)
  | configuration (fault : ConfigurationFault)
  | parsing (sql : String)
  | connection (reason : String)
  | notCallable (typeName : String)
  | noCondition
  | columnNotText (index : Nat) (given : Value)
  | item (fault : ItemFault)
  | entries (fault : EntriesFault)
  | integer (fault : IntegerFault)
  | quotientTooLarge
  | unknownLevel (given : Value)
  | levelType (given : Value)
  | lineFormat (format : String)
  | formatType (given : Value)
  | template (fault : TemplateFault)
  | notMember (enumeration : String) (given : Value)
  | noAttribute (owner name : String)

inductive ErrorCategory
  | query
  | configuration
  | parsing
  | connection
  | callback
  | attribute
  | type
  | value
  | index
  | key
  | overflow
  deriving DecidableEq

namespace ItemFault

def category : ItemFault → ErrorCategory
  | .outOfRange _ => .index
  | .noKey _ => .key
  | .keyType .. | .noItems _ => .type

def message : ItemFault → String
  | .outOfRange (.text _) => "string index out of range"
  | .outOfRange (.bytes _) => "index out of range"
  | .outOfRange container => container.typeName ++ " index out of range"
  | .noKey key => key.repr
  | .keyType (.text _) key => "string indices must be integers, not '" ++ key.typeName ++ "'"
  | .keyType (.bytes _) key => "byte indices must be integers or slices, not " ++ key.typeName
  | .keyType container key =>
    container.typeName ++ " indices must be integers or slices, not " ++ key.typeName
  | .noItems container => "'" ++ container.typeName ++ "' object is not subscriptable"

end ItemFault

namespace IntegerFault

def category : IntegerFault → ErrorCategory
  | .literal _ | .tooLong _ | .unwritable | .nan => .value
  | .infinite => .overflow
  | .type _ => .type

def limitText : String :=
  "Exceeds the limit (" ++ toString Chars.digitLimit ++ " digits) for integer string conversion"

def limitAdvice : String := "; use sys.set_int_max_str_digits() to increase the limit"

/-- A value in quotes, cut to 200 characters; of a byte string no more than 200 bytes are read. -/
def quotedLiteral (given : Value) : String :=
  let text := match given with
    | .bytes bs => (Value.bytes (bs.take 200)).repr
    | given => given.repr
  String.ofList (text.toList.take 200)

def message : IntegerFault → String
  | .literal given => "invalid literal for int() with base 10: " ++ quotedLiteral given
  | .tooLong digits => limitText ++ ": value has " ++ toString digits ++ " digits" ++ limitAdvice
  | .unwritable => limitText ++ limitAdvice
  | .nan => "cannot convert float NaN to integer"
  | .infinite => "cannot convert float infinity to integer"
  | .type given =>
    "int() argument must be a string, a bytes-like object or a real number, not '" ++
      given.typeName ++ "'"

end IntegerFault

namespace EntriesFault

def category : EntriesFault → ErrorCategory
  | .notPair .. => .value
  | _ => .type

def message : EntriesFault → String
  | .notIterable given => "'" ++ given.typeName ++ "' object is not iterable"
  | .notSequence index =>
    "cannot convert dictionary update sequence element #" ++ toString index ++ " to a sequence"
  | .notPair index length =>
    "dictionary update sequence element #" ++ toString index ++ " has length " ++
      toString length ++ "; 2 is required"
  | .unhashable part => "unhashable type: '" ++ part.typeName ++ "'"

end EntriesFault

namespace TemplateFault

def category : TemplateFault → ErrorCategory
  | .incomplete | .incompleteKey | .unknown .. | .widthTooLarge | .precisionTooLarge => .value
  | .tooLargeForReal | .characterRange | .widthBeyondWord | .precisionBeyondWord => .overflow
  | _ => .type

/-- A directive that is no printable character of ASCII is shown as a question mark. -/
def shownDirective (c : Char) : Char := if 31 ≤ c.toNat ∧ c.toNat ≤ 126 then c else '?'

def message : TemplateFault → String
  | .leftOver => "not all arguments converted during string formatting"
  | .exhausted => "not enough arguments for format string"
  | .notNumber directive given =>
    "%" ++ directive.toString ++ " format: a real number is required, not " ++ given.typeName
  | .notInteger directive given =>
    "%" ++ directive.toString ++ " format: an integer is required, not " ++ given.typeName
  | .notReal given => "must be real number, not " ++ given.typeName
  | .tooLargeForReal => "int too large to convert to float"
  | .notCharacter => "%c requires int or char"
  | .characterRange => "%c arg not in range(0x110000)"
  | .notCount => "* wants int"
  | .widthTooLarge => "width too big"
  | .widthBeyondWord => "Python int too large to convert to C ssize_t"
  | .precisionTooLarge => "precision too big"
  | .precisionBeyondWord => "Python int too large to convert to C int"
  | .needsMap => "format requires a mapping"
  | .incomplete => "incomplete format"
  | .incompleteKey => "incomplete format key"
  | .unknown directive index =>
    "unsupported format character '" ++ (shownDirective directive).toString ++ "' (0x" ++
      String.ofList (Nat.toDigits 16 directive.toNat) ++ ") at index " ++ toString index

end TemplateFault

namespace Error

def category : Error → ErrorCategory
  | .query _ => .query
  | .configuration _ => .configuration
  | .parsing _ => .parsing
  | .connection _ => .connection
  | .notCallable _ => .type
  | .noCondition => .callback
  | .columnNotText .. => .type
  | .item fault => fault.category
  | .entries fault => fault.category
  | .integer fault => fault.category
  | .quotientTooLarge => .overflow
  | .unknownLevel _ => .value
  | .levelType _ => .type
  | .lineFormat _ => .value
  | .formatType _ => .type
  | .template fault => fault.category
  | .notMember .. => .value
  | .noAttribute .. => .attribute

/-- The wording; a failure of the library itself is worded as the text of a report. -/
def message : Error → String
  | .query fault => (Report.make none [.str fault.message] "").text
  | .configuration fault => (Report.make none [.str fault.message] "").text
  | .parsing sql => (Report.make none [.str ("Failed to parse rendered SQL: " ++ sql)] "").text
  | .connection reason => reason
  | .notCallable typeName => "'" ++ typeName ++ "' object is not callable"
  | .noCondition => "no condition"
  | .columnNotText index given =>
    "sequence item " ++ toString index ++ ": expected str instance, " ++ given.typeName ++ " found"
  | .item fault => fault.message
  | .entries fault => fault.message
  | .integer fault => fault.message
  | .quotientTooLarge => "integer division result too large for a float"
  | .unknownLevel given => "Unknown level: " ++ given.repr
  | .levelType given => "Level not an integer or a valid string: " ++ given.repr
  | .lineFormat format => "Invalid format '" ++ format ++ "' for '%' style"
  | .formatType (.bytes _) => "cannot use a string pattern on a bytes-like object"
  | .formatType given => "expected string or bytes-like object, got '" ++ given.typeName ++ "'"
  | .template fault => fault.message
  | .notMember enumeration given => given.repr ++ " is not a valid " ++ enumeration
  | .noAttribute owner name => "'" ++ owner ++ "' object has no attribute '" ++ name ++ "'"

/-- A query under construction is shown as its SQL, and one without a table has none. -/
def unrendered : Error := .query (.invalid (.table .select) .null)

/-- The refusal of an argument, which shows it, unless it cannot be shown. -/
def invalid (part : Part) (given : Value) : Error :=
  match given with
  | .select => unrendered
  | given => .query (.invalid part given)

def grammar (fault : GrammarFault) : Error := .query (.grammar fault)

end Error

/-- The detail of a report behind `position` further arguments: a text, unless it counts as
false. -/
def Report.detailText (position : Nat) (detail : Value) : Except Error String :=
  match detail with
  | .text t => .ok t.chars
  | detail => if detail.truthy then .error (.columnNotText position detail) else .ok ""

/-- The displayed text of a value that can be shown. -/
def Value.shown : Value → Except Error String
  | .select => .error .unrendered
  | v => .ok v.display

end SqlBuilder
