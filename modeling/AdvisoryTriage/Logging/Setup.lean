import AdvisoryTriage.Text.LowerCase

/-!
# How log lines are written

A setup says what is logged and in which format. Formats are named in any letter case, over all of
Unicode, without blanks around the name.
-/

namespace AdvisoryTriage

namespace Logging

/-- The format of log lines. -/
inductive Format where
  /-- Several lines for a reader at a terminal. -/
  | pretty
  /-- One JSON object a line. -/
  | json
  /-- One short line. -/
  | compact
deriving DecidableEq

/-- A name that no format has, in lower case. -/
structure UnknownFormat where
  /-- The name. -/
  name : String
deriving DecidableEq

/-- The wording of the error. -/
def UnknownFormat.message (e : UnknownFormat) : String :=
  "unknown log format: " ++ e.name

/-- The format of a name. -/
def Format.ofName (name : String) : Except UnknownFormat Format :=
  match String.ofList (Text.lowerCase name.toList) with
  | "pretty" => .ok .pretty
  | "json" => .ok .json
  | "compact" => .ok .compact
  | other => .error ⟨other⟩

/-- What is logged, and how. -/
structure Setup where
  /-- The word for the threshold. -/
  level : String := "info"
  /-- The format of the lines. -/
  format : Format := .pretty
  /-- Whether the opening and closing of spans are lines of their own. -/
  withSpans : Bool := false
  /-- Whether a line says where in the program it comes from. -/
  withFile : Bool := false
  /-- Whether a line says which part of the program it comes from. -/
  withTarget : Bool := true
deriving DecidableEq

end Logging

end AdvisoryTriage
