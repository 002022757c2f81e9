import AdvisoryTriage.Package.Basic
import AdvisoryTriage.Version.Order

/-!
# The order of package builds

Two builds are compared by epoch, then by version, then by release. The name and the architecture
play no part, so builds that compare equal need not be the same.
-/

namespace AdvisoryTriage

namespace Package

/-- Compares two builds by epoch, version and release. -/
def compareBuilds (p q : Package) : Ordering :=
  (Ord.compare p.epochOrZero q.epochOrZero).then
    ((Version.compare p.version q.version).then (Version.compare p.release q.release))

end Package

end AdvisoryTriage
