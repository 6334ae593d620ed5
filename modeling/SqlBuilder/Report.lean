import SqlBuilder.Chars.Blank
import SqlBuilder.Value.Display

set_option autoImplicit false

namespace SqlBuilder

structure Report where
  args : List String
  detail : String
  deriving DecidableEq

namespace Report

def make (standing : Option String) (given : List Value) (detail : String) : Report :=
  let args := (given.filter Value.truthy).map Value.display
  if detail ≠ "" then ⟨args, detail⟩
  else
    match args with
    | first :: rest => ⟨rest, first⟩
    | [] => ⟨[], standing.getD ""⟩

/-- A report with one message, or with the standing message when nothing is given. -/
def ofMessage (standing : String) : Value → Report
  | .null => make none [.str standing] ""
  | v => make none [v] ""

def text (r : Report) : String := Chars.trimText (" ".intercalate (r.args ++ [r.detail]))

/-- The report under the title of its kind. -/
def describe (r : Report) (title : String) : String :=
  if r.detail = "" then title else title ++ " - " ++ r.detail

def standingQuery : String := "Issues building SQL statement."

def standingParsing : String := "Issues parsing SQL statement."

end Report

end SqlBuilder
