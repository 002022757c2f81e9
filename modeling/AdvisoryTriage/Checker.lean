import AdvisoryTriage.Cpe.Binding
import AdvisoryTriage.Cpe.Matching
import AdvisoryTriage.Feed.Basic
import AdvisoryTriage.Keyed
import AdvisoryTriage.Logging.Trace
import AdvisoryTriage.Package.Order
import AdvisoryTriage.Package.Specifier
import AdvisoryTriage.Settings.Basic

/-!
# The checker of released fixes

An advisory does not apply to an installed build if the vendor states so for its package on its
platform, or if a fix was released for that platform at or below the installed build. The checker
reads a feed once, keeps these statements and fixes under the names of their advisories, and then
answers for one build, one platform and one advisory at a time. Advisories of one name are taken
together.

A platform that cannot be read is an error, whatever the entry says besides: an entry with an
unknown platform could otherwise come to apply everywhere. A specifier that cannot be read is passed
over, since the index reports it.

* `Checker.build` – the checker of a feed, or the first platform that cannot be read.
* `Checker.check` – whether an advisory is known not to apply.
* `Checker.events` – what building a checker reports.
-/

namespace AdvisoryTriage

/-! ### What is kept -/

/-- A fixed build, and the platform it was released for if it was not released for all. -/
structure Checker.FixRule where
  /-- The fixed build. -/
  package : Package
  /-- The platform. -/
  platform : Option Cpe
deriving DecidableEq

/-- A package that the vendor states not to be affected, and the platform if it is not all of them.
-/
structure Checker.StateRule where
  /-- The base name of the package. -/
  package : String
  /-- The platform. -/
  platform : Option Cpe
deriving DecidableEq

/-- What is kept of the advisories of one name. -/
structure Checker.Rules where
  /-- The fixed builds. -/
  fixes : List Checker.FixRule := []
  /-- The packages stated not to be affected. -/
  states : List Checker.StateRule := []
deriving DecidableEq

/-- A specifier that was passed over. -/
structure Checker.Ignored where
  /-- The advisory it belongs to. -/
  advisory : String
  /-- The specifier. -/
  specifier : String
deriving DecidableEq

/-- The checker of a feed. -/
structure Checker where
  /-- What is kept, by name of advisory. -/
  rules : Keyed Checker.Rules := []
  /-- The specifiers that were passed over, in order. -/
  ignored : List Checker.Ignored := []
deriving DecidableEq

namespace Checker

/-! ### Reading a feed -/

/-- A platform that cannot be read. -/
structure BadPlatform where
  /-- The advisory of the entry. -/
  advisory : String
  /-- The platform as it stands in the feed. -/
  cpe : String
  /-- What is wrong with it. -/
  error : Cpe.ParseError
deriving DecidableEq

/-- The wording of the error. -/
def BadPlatform.message (e : BadPlatform) : String :=
  e.advisory ++ ": invalid platform cpe " ++ Text.quote e.cpe ++ ": " ++ e.error.message

/-- Building stopped at a platform that cannot be read. -/
structure Stopped where
  /-- The checker as far as it got. -/
  soFar : Checker
  /-- Why it got no further. -/
  cause : BadPlatform
deriving DecidableEq

/-- The platform of an entry; none if it is absent or empty. -/
def platform? (advisory : String) (cpe : Option String) : Except BadPlatform (Option Cpe) :=
  match nonempty? cpe with
  | none => .ok none
  | some text =>
    match Cpe.parse text with
    | .ok platform => .ok (some platform)
    | .error error => .error ⟨advisory, text, error⟩

/-- Changes what is kept under a name. -/
def updateRules (c : Checker) (advisory : String) (f : Rules → Rules) : Checker :=
  { c with rules := c.rules.update advisory { } f }

/-- Takes in a fix. -/
def addFix (advisory : String) (c : Checker) (fix : Fix) : Except Stopped Checker :=
  -- the platform comes first: a bad one counts even where the rest of the entry says nothing
  match platform? advisory fix.cpe with
  | .error cause => .error ⟨c, cause⟩
  | .ok platform =>
    match fix.package? with
    | none => .ok c
    | some specifier =>
      match Package.parse specifier with
      | .ok package =>
        .ok (c.updateRules advisory fun r => { r with fixes := r.fixes ++ [⟨package, platform⟩] })
      | .error _ => .ok { c with ignored := c.ignored ++ [⟨advisory, specifier⟩] }

/-- Takes in a statement. -/
def addState (settings : Settings.Checker) (advisory : String) (c : Checker)
    (state : PackageState) : Except Stopped Checker :=
  match platform? advisory state.cpe with
  | .error cause => .error ⟨c, cause⟩
  | .ok platform =>
    match state.package?, state.fixState.any settings.isInapplicable with
    | some package, true =>
      .ok (c.updateRules advisory fun r => { r with states := r.states ++ [⟨package, platform⟩] })
    | _, _ => .ok c

/-- Takes in an advisory: its fixes, then its statements. Even without either, its name is known
from then on. -/
def addAdvisory (settings : Settings.Checker) (c : Checker) (a : Advisory) :
    Except Stopped Checker := do
  let c ← a.fixes.foldlM (addFix a.name) (c.updateRules a.name id)
  a.states.foldlM (addState settings a.name) c

/-- The checker of a feed. -/
def build (settings : Settings.Checker) (feed : Feed) : Except Stopped Checker :=
  feed.advisories.foldlM (addAdvisory settings) { }

/-! ### Answering -/

/-- Whether an entry holds on a platform: an entry without a platform holds everywhere. -/
def holdsOn (entry : Option Cpe) (platform : Cpe) : Bool :=
  entry.all (·.covers platform)

/-- Whether a fixed build speaks for an installed one as far as the architecture goes. Source
packages and packages for every architecture speak for all. -/
def archCompatible (fixed installed : Package) : Bool :=
  match fixed.arch, installed.arch with
  | some f, some i => f == i || f == "noarch" || f == "src" || f == "nosrc" || i == "noarch"
  | _, _ => true

/-- Whether a fixed build shows that an installed one is not affected. -/
def FixRule.settles (fix : FixRule) (package : Package) (platform : Cpe) : Bool :=
  fix.package.name == package.name && archCompatible fix.package package &&
    holdsOn fix.platform platform && package.compareBuilds fix.package != .lt

/-- Whether a statement shows that an installed build is not affected. -/
def StateRule.settles (state : StateRule) (package : Package) (platform : Cpe) : Bool :=
  state.package == package.name && holdsOn state.platform platform

/-- Whether an advisory is known not to apply to a build on a platform. -/
def check (c : Checker) (package : Package) (platform : Cpe) (advisory : String) : Bool :=
  match c.rules.get? advisory with
  | none => false
  | some rules =>
    rules.states.any (·.settles package platform) || rules.fixes.any (·.settles package platform)

/-! ### Reporting -/

/-- The event that reports a specifier passed over. -/
def Ignored.event (i : Ignored) : Logging.Event :=
  { level := .trace
    source := .checker
    message := i.advisory ++ ": ignoring unparsable fix " ++ Text.quote i.specifier }

/-- The event that reports a checker. -/
def builtEvent (c : Checker) : Logging.Event :=
  { level := .debug
    source := .checker
    message := "Built release-fix checker over " ++ c.rules.length.repr ++ " advisories" }

/-- What building a checker reports: every specifier passed over and, if it gets that far, the
checker. -/
def events : Except Stopped Checker → List Logging.Event
  | .ok c => c.ignored.map Ignored.event ++ [c.builtEvent]
  | .error stopped => stopped.soFar.ignored.map Ignored.event

end Checker

end AdvisoryTriage
