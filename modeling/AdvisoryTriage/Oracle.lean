import AdvisoryTriage.Checker
import AdvisoryTriage.Error

/-!
# Oracles

Whether an advisory applies is for an oracle to say. An oracle is built over a feed, which may fail,
and then answers for one build, one platform and one advisory. Which oracle is used is a parameter
of a resolver; `Oracle.Factory.releaseFix` makes the one that goes by released fixes.
-/

namespace AdvisoryTriage

/-- Whether an advisory is known *not* to apply to a build on a platform. -/
abbrev Oracle := Package → Cpe → String → Bool

/-- What makes oracles. -/
structure Oracle.Factory where
  /-- The oracle over a feed. -/
  build : Feed → Except Error Oracle
  /-- What building it reports. -/
  events : Feed → List Logging.Event := fun _ => []

namespace Oracle.Factory

/-- Makes checkers of released fixes. -/
def releaseFix (settings : Settings.Checker) : Factory where
  build feed :=
    match Checker.build settings feed with
    | .ok c => .ok c.check
    | .error stopped => .error (.construction stopped.cause.message)
  events feed := Checker.events (Checker.build settings feed)

end Oracle.Factory

end AdvisoryTriage
