import AdvisoryTriage.Logging.Level

/-!
# What a query reports while it runs

A query opens a span, reports events inside it and closes it again. Nothing is written here: the
events are values, and whoever runs the query decides what becomes of them.
-/

namespace AdvisoryTriage

namespace Logging

/-- The part of the library that reports. -/
inductive Source where
  /-- The answering of queries. -/
  | resolver
  /-- The index of packages. -/
  | index
  /-- The checker of released fixes. -/
  | checker
deriving DecidableEq

/-- A reported event. -/
structure Event where
  /-- How urgent it is. -/
  level : Level
  /-- Who reports it. -/
  source : Source
  /-- The message. -/
  message : String
  /-- Named values beside the message. -/
  fields : List (String × String) := []
deriving DecidableEq

/-- A stretch of work in which events are reported. -/
structure Span where
  /-- What is done. -/
  name : String
  /-- How urgent it is. -/
  level : Level
  /-- Who does it. -/
  source : Source
  /-- What it is done with. -/
  fields : List (String × String)
deriving DecidableEq

/-- A span with the events reported in it, in order. -/
structure Trace where
  /-- The stretch of work. -/
  span : Span
  /-- The events in it. -/
  events : List Event
deriving DecidableEq

end Logging

end AdvisoryTriage
