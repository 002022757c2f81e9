import AdvisoryTriage.Logging.Setup
import AdvisoryTriage.Logging.Trace

/-!
# From traces to log lines

A subscriber turns the trace of a query into lines. Its threshold is a word that the surroundings
give or, where they give none, the word of its setup. An event below the threshold leaves no line; a
span below it is not mentioned by the lines of its events, and neither its opening nor its closing
is a line.

One subscriber serves a whole process: once one is installed there is no installing another.

* `Subscriber.lines` – the lines of a trace.
* `Subscriber.install` – the first subscriber stays.
-/

namespace AdvisoryTriage

namespace Logging

/-- What writes log lines. -/
structure Subscriber where
  /-- How lines are written. -/
  setup : Setup
  /-- Which messages are let through. -/
  threshold : Threshold
deriving DecidableEq

/-- A log line. -/
structure Line where
  /-- How urgent it is. -/
  level : Level
  /-- Who reports it. -/
  source : Source
  /-- The message. -/
  message : String
  /-- Named values beside the message. -/
  fields : List (String × String)
  /-- The span it belongs to, if that is let through. -/
  span : Option String
  /-- Whether it says where in the program it comes from. -/
  hasPlace : Bool
deriving DecidableEq

namespace Subscriber

/-- The subscriber of a setup, where a word of the surroundings takes precedence over that of the
setup. -/
def ofSetup (surroundings : Option String) (setup : Setup) : Subscriber :=
  { setup := setup, threshold := Threshold.ofWord (surroundings.getD setup.level) }

/-- Whether a span is let through. -/
def showsSpan (s : Subscriber) (span : Span) : Bool :=
  s.threshold.admits span.level

/-- The line of an event in a span. -/
def eventLine (s : Subscriber) (span : Span) (e : Event) : Line :=
  { level := e.level
    source := e.source
    message := e.message
    fields := e.fields
    span := if s.showsSpan span then some span.name else none
    hasPlace := s.setup.withFile }

/-- The line that says what becomes of a span, if such lines are wanted. -/
def spanLines (s : Subscriber) (span : Span) (message : String) : List Line :=
  if s.setup.withSpans && s.showsSpan span then
    [s.eventLine span { level := span.level, source := span.source, message := message }]
  else []

/-- The lines of a trace. -/
def lines (s : Subscriber) (t : Trace) : List Line :=
  s.spanLines t.span "new" ++
    (t.events.filter (s.threshold.admits ·.level)).map (s.eventLine t.span) ++
    s.spanLines t.span "close"

/-- A subscriber is installed already. -/
inductive InstallError where
  /-- The only cause. -/
  | alreadyInstalled
deriving DecidableEq

/-- The wording of the error. -/
def InstallError.message : InstallError → String
  | .alreadyInstalled => "a global default trace dispatcher has already been set"

/-- Installs a subscriber where none is installed. -/
def install (installed : Option Subscriber) (s : Subscriber) : Except InstallError Subscriber :=
  match installed with
  | none => .ok s
  | some _ => .error .alreadyInstalled

end Subscriber

end Logging

end AdvisoryTriage
