/-!
# Log lines

What happens while tables are built and documents are audited is told in log lines. They are
values: an operation that logs has a companion that gives its lines in order.
-/

namespace AccessAudit

/-- How much detail a line gives. -/
inductive LogLevel where
  | debug
  | trace
deriving DecidableEq, Repr

/-- A line of the log. -/
structure LogLine where
  level : LogLevel
  message : String
  /-- Further facts, by name. -/
  fields : List (String × String) := []
deriving DecidableEq, Repr

namespace LogLine

/-- The level as it is shown. -/
def levelText : LogLevel → String
  | .debug => "DEBUG"
  | .trace => "TRACE"

/-- The line as it is shown. -/
def text (line : LogLine) : String :=
  levelText line.level ++ " " ++ line.message ++
    String.join (line.fields.map fun (name, value) => " " ++ name ++ "=" ++ value)

end LogLine
end AccessAudit
