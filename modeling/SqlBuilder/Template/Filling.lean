import SqlBuilder.Template.Conversion

set_option autoImplicit false

namespace SqlBuilder

/-- What a directive writes, and the arguments that are left. -/
def Directive.fill (d : Directive) (args : Arguments) : Except Error (String × Arguments) := do
  let args ← args.select d.selector
  let ((left, width), args) ← args.takeWidth d.width
  let (precision, args) ← args.takePrecision d.precision
  match d.conversion with
  | none => throw (.template .incomplete)
  | some (letter, index) =>
    let (v, args) ← args.next
    let converted ← d.convert letter index precision v
    return (converted.inField (left || d.isLeft) d.isZeroed width, args)

namespace Template

/-- The filled template; arguments in turn must not be left over. -/
def fill : Template → Arguments → Except Error String
  | [], args => if args.isSpent then .ok "" else .error (.template .leftOver)
  | .literal c :: rest, args => (fill rest args).map (c.toString ++ ·)
  | .directive d :: rest, args => do
    let (shown, args) ← d.fill args
    (fill rest args).map (shown ++ ·)

/-- A text without arguments is not a template, whatever it looks like. -/
def render (text : String) (args : List Value) : Except Error String :=
  if args.isEmpty then .ok text else (ofText text).fill (.ofList args)

end Template

end SqlBuilder
