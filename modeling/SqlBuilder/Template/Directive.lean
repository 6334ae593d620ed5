import SqlBuilder.Number.Numeral

set_option autoImplicit false

namespace SqlBuilder

/-- A number of characters or digits: left open, written down, or told by an argument. -/
inductive Extent
  | unset
  | written (n : Nat)
  | argument

/-- Which argument a directive takes. -/
inductive Selector
  | next
  | named (key : String)
  /-- The parenthesis of the key is not closed. -/
  | unclosed

/-- A directive of a message template. -/
structure Directive where
  selector : Selector
  flags : List Char
  width : Extent
  precision : Extent
  /-- The letter of the conversion and its place in the template, which may end before it. -/
  conversion : Option (Char × Nat)

inductive TemplateItem
  | literal (c : Char)
  | directive (d : Directive)

abbrev Template := List TemplateItem

namespace Directive

/-- The text stands at the left of its width. -/
def isLeft (d : Directive) : Bool := d.flags.contains '-'

/-- A number that is not negative has a plus sign. -/
def isSigned (d : Directive) : Bool := d.flags.contains '+'

/-- A number that is not negative has a space in place of a sign. -/
def isSpaced (d : Directive) : Bool := d.flags.contains ' '

/-- The base of a number is marked, and no digit is dropped. -/
def isFull (d : Directive) : Bool := d.flags.contains '#'

/-- Zeros fill a number up to its width. -/
def isZeroed (d : Directive) : Bool := d.flags.contains '0'

def isFlag (c : Char) : Bool := c = '-' || c = '+' || c = ' ' || c = '#' || c = '0'

/-- The key up to the parenthesis that closes it, and what follows; `depth` more are open. -/
def readKey : Nat → List Char → Option (List Char × List Char)
  | _, [] => none
  | 0, ')' :: rest => some ([], rest)
  | depth + 1, ')' :: rest => (readKey depth rest).map fun (key, rest) => (')' :: key, rest)
  | depth, '(' :: rest => (readKey (depth + 1) rest).map fun (key, rest) => ('(' :: key, rest)
  | depth, c :: rest => (readKey depth rest).map fun (key, rest) => (c :: key, rest)

def readExtent : List Char → Extent × List Char
  | '*' :: rest => (.argument, rest)
  | cs =>
    match cs.takeWhile Numeral.isDigit with
    | [] => (.unset, cs)
    | digits => (.written (Numeral.valueOf digits), cs.dropWhile Numeral.isDigit)

/-- A precision follows a point; after a point alone it is zero. -/
def readPrecision : List Char → Extent × List Char
  | '.' :: rest =>
    match readExtent rest with
    | (.unset, rest) => (.written 0, rest)
    | read => read
  | cs => (.unset, cs)

/-- Passes over one letter for the size of a number, which means nothing. -/
def skipSize : List Char → List Char
  | c :: rest => if c = 'h' || c = 'l' || c = 'L' then rest else c :: rest
  | [] => []

/-- The directive that goes on with `cs`, in a template of `size` characters, and what follows. -/
def readForm (size : Nat) (selector : Selector) (cs : List Char) : Directive × List Char :=
  let flags := cs.takeWhile isFlag
  let (width, cs) := readExtent (cs.dropWhile isFlag)
  let (precision, cs) := readPrecision cs
  match skipSize cs with
  | [] => (⟨selector, flags, width, precision, none⟩, [])
  | c :: rest => (⟨selector, flags, width, precision, some (c, size - (rest.length + 1))⟩, rest)

/-- The directive behind a percent sign, and what follows it. -/
def read (size : Nat) : List Char → Directive × List Char
  | '(' :: rest =>
    match readKey 0 rest with
    | some (key, rest) => readForm size (.named (String.ofList key)) rest
    | none => (⟨.unclosed, [], .unset, .unset, none⟩, [])
  | cs => readForm size .next cs

end Directive

namespace Template

/-- The items of a text that ends a template of `size` characters. -/
def readItems (size : Nat) : Nat → List Char → Template
  | 0, _ => []
  | _ + 1, [] => []
  | more + 1, '%' :: '%' :: rest => .literal '%' :: readItems size more rest
  | more + 1, '%' :: rest =>
    let (d, rest) := Directive.read size rest
    .directive d :: readItems size more rest
  | more + 1, c :: rest => .literal c :: readItems size more rest

/-- Every item takes a character at least, so their number is bounded by that of the characters. -/
def ofText (s : String) : Template := readItems s.length s.length s.toList

end Template

end SqlBuilder
