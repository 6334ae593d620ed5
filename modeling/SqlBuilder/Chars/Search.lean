import SqlBuilder.Chars.Blank

set_option autoImplicit false

namespace SqlBuilder.Chars

/-- Some tail of the text satisfies `found`. -/
def someTail (found : List Char → Bool) : List Char → Bool
  | [] => found []
  | c :: rest => found (c :: rest) || someTail found rest

/-- The text opens with `first`, then any white space, then `second`. -/
def opensWith (first second cs : List Char) : Bool :=
  first.isPrefixOf cs && second.isPrefixOf ((cs.drop first.length).dropWhile isBlank)

/-- Somewhere in the text `first` and `second` stand apart by white space alone. -/
def meets (first second cs : List Char) : Bool :=
  someTail (opensWith first second) cs

end SqlBuilder.Chars
