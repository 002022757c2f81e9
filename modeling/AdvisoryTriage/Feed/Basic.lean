/-!
# Advisory feeds

A feed lists security advisories. Each advisory records the fixes that were released for it, by full
package specifier, and what the vendor states about packages, by base name. Any entry may be limited
to a platform. The order of the feed is kept throughout, and nothing keeps two advisories from
having one name.

* `Fix`, `PackageState`, `Advisory`, `Feed` – the data.
* `Fix.package?` and `PackageState.package?` – what an entry says about packages, where an empty
  text says nothing.
-/

namespace AdvisoryTriage

/-- A fix released for a package build. -/
structure Fix where
  /-- The specifier of the fixed build. -/
  specifier : Option String := none
  /-- The product the fix was released for. -/
  product : Option String := none
  /-- The erratum that shipped the fix. -/
  erratum : Option String := none
  /-- The platform the fix was released for, written out. -/
  cpe : Option String := none
deriving DecidableEq

/-- What the vendor states about a package. -/
structure PackageState where
  /-- The base name of the package. -/
  package : Option String := none
  /-- The product the statement is about. -/
  product : Option String := none
  /-- The statement, such as "Not affected" or "Will not fix". -/
  fixState : Option String := none
  /-- The platform the statement is about, written out. -/
  cpe : Option String := none
deriving DecidableEq

/-- A security advisory. -/
structure Advisory where
  /-- The name of the advisory. -/
  name : String
  /-- The fixes released for it. -/
  fixes : List Fix := []
  /-- The statements about packages. -/
  states : List PackageState := []
deriving DecidableEq

/-- A list of advisories. -/
structure Feed where
  /-- The advisories, in order. -/
  advisories : List Advisory
deriving DecidableEq

/-- A text that is present and not empty. -/
def nonempty? (text : Option String) : Option String :=
  text.filter (· ≠ "")

/-- The specifier of a fix, if it is present and not empty. -/
def Fix.package? (fix : Fix) : Option String :=
  nonempty? fix.specifier

/-- The base name that a statement is about, if it is present and not empty. -/
def PackageState.package? (state : PackageState) : Option String :=
  nonempty? state.package

/-- The first advisory of a name. -/
def Feed.find? (feed : Feed) (name : String) : Option Advisory :=
  feed.advisories.find? (·.name == name)

theorem nonempty?_eq_some_iff {text : Option String} {s : String} :
    nonempty? text = some s ↔ text = some s ∧ s ≠ "" := by
  simp [nonempty?, Option.filter_eq_some_iff]

end AdvisoryTriage
