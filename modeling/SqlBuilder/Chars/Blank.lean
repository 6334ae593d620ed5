set_option autoImplicit false

namespace SqlBuilder.Chars

def isBlank (c : Char) : Bool :=
  let n := c.toNat
  (9 ≤ n && n ≤ 13) || (28 ≤ n && n ≤ 32) || n == 0x85 || n == 0xa0 || n == 0x1680 ||
    (0x2000 ≤ n && n ≤ 0x200a) || n == 0x2028 || n == 0x2029 || n == 0x202f || n == 0x205f ||
    n == 0x3000

/-- The white space of byte strings: space, tab, line feed, vertical tab, form feed and return. -/
def isAsciiBlank (c : Char) : Bool :=
  (9 ≤ c.toNat && c.toNat ≤ 13) || c.toNat == 32

def trimBy (blank : Char → Bool) (cs : List Char) : List Char :=
  ((cs.dropWhile blank).reverse.dropWhile blank).reverse

/-- Both ends lose their white space; what stands between words stays. -/
def trim (cs : List Char) : List Char := trimBy isBlank cs

def trimTextStart (s : String) : String := String.ofList (s.toList.dropWhile isBlank)

def trimTextEnd (s : String) : String :=
  String.ofList (s.toList.reverse.dropWhile isBlank).reverse

def trimText (s : String) : String := String.ofList (trim s.toList)

theorem trimTextStart_append (a b : String) :
    trimTextStart (a ++ b) =
      if trimTextStart a = "" then trimTextStart b else trimTextStart a ++ b := by
  simp only [trimTextStart, String.toList_append, List.dropWhile_append, List.isEmpty_iff]
  by_cases blank : a.toList.dropWhile isBlank = []
  · simp [blank]
  · simp [blank, String.ofList_append]

theorem trimTextEnd_append (a b : String) :
    trimTextEnd (a ++ b) = if trimTextEnd b = "" then trimTextEnd a else a ++ trimTextEnd b := by
  simp only [trimTextEnd, String.toList_append, List.reverse_append, List.dropWhile_append,
    List.isEmpty_iff]
  by_cases blank : b.toList.reverse.dropWhile isBlank = []
  · simp [blank]
  · simp [blank, String.ofList_append]

theorem trimTextEnd_trimTextStart (s : String) : trimTextEnd (trimTextStart s) = trimText s := by
  simp [trimTextEnd, trimTextStart, trimText, trim, trimBy]

end SqlBuilder.Chars
