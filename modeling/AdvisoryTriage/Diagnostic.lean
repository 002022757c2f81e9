import AdvisoryTriage.Logging.Trace
import AdvisoryTriage.Package.Specifier
import AdvisoryTriage.Text.Quoted

/-!
# Diagnostics

A fix whose specifier cannot be read is left out of the index, and a diagnostic says so. Diagnostics
go to a sink. `Sink.collect` keeps them for later and `Sink.report` reports them as they come.
-/

namespace AdvisoryTriage

/-- A fix that was left out of an index. -/
structure Diagnostic where
  /-- The advisory that the fix belongs to. -/
  advisory : String
  /-- The specifier, as it stands in the feed. -/
  specifier : String
  /-- What is wrong with it. -/
  error : Package.ParseError
deriving DecidableEq

namespace Diagnostic

/-- The wording of a diagnostic. -/
def message (d : Diagnostic) : String :=
  d.advisory ++ ": failed to parse package " ++ Text.quote d.specifier ++ ": " ++ d.error.message

/-- The event that reports a diagnostic. -/
def event (d : Diagnostic) : Logging.Event :=
  { level := .warn
    source := .index
    message := "feed: failed to parse package: " ++ d.error.message
    fields := [("advisory", d.advisory), ("package", d.specifier)] }

end Diagnostic

/-- Where the diagnostics of a query go. -/
structure Sink where
  /-- What is reported of them. -/
  events : List Diagnostic → List Logging.Event
  /-- What is kept of them. -/
  kept : List Diagnostic → List Diagnostic

namespace Sink

/-- The sink that reports every diagnostic as an event. -/
def report : Sink where
  events ds := ds.map Diagnostic.event
  kept _ := []

/-- The sink that keeps every diagnostic in memory. -/
def collect : Sink where
  events _ := []
  kept ds := ds

end Sink

end AdvisoryTriage
