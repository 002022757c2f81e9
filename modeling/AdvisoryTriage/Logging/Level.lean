/-!
# Levels of log messages

A message has one of five levels, and a threshold says down to which level messages are let through.
Thresholds are named by words in any letter case; the word `off` lets nothing through, and no word
at all stands for the highest level.
-/

namespace AdvisoryTriage

namespace Logging

/-- The level of a message, the most urgent first. -/
inductive Level where
  /-- Something failed. -/
  | error
  /-- Something is wrong with the data. -/
  | warn
  /-- Something worth knowing. -/
  | info
  /-- What was done. -/
  | debug
  /-- How it was done. -/
  | trace
deriving DecidableEq

/-- The place of a level in the order of urgency. -/
def Level.rank : Level → Nat
  | .error => 1
  | .warn => 2
  | .info => 3
  | .debug => 4
  | .trace => 5

/-- The name of a level in log lines. -/
def Level.label : Level → String
  | .error => "ERROR"
  | .warn => "WARN"
  | .info => "INFO"
  | .debug => "DEBUG"
  | .trace => "TRACE"

/-- The least urgent level that is let through, or none. -/
abbrev Threshold := Option Level

/-- Whether messages of a level are let through. -/
def Threshold.admits (threshold : Threshold) (level : Level) : Bool :=
  threshold.any (level.rank ≤ ·.rank)

/-- The threshold of a word. A word that names none lets nothing through. -/
def Threshold.ofWord (word : String) : Threshold :=
  match String.ofList (word.toList.map Char.toLower) with
  | "error" | "" => some .error
  | "warn" => some .warn
  | "info" => some .info
  | "debug" => some .debug
  | "trace" => some .trace
  | _ => none

end Logging

end AdvisoryTriage
