import AdvisoryTriage.Feed.Basic

/-!
# Building a feed step by step

A feed can be put together advisory by advisory and entry by entry: an edit either appends an
advisory or adds an entry to the last one. An entry that comes before any advisory has no place and
changes nothing.
-/

namespace AdvisoryTriage

namespace Advisory

/-- Adds a fix at the end. -/
def withFix (a : Advisory) (fix : Fix) : Advisory :=
  { a with fixes := a.fixes ++ [fix] }

/-- Adds a statement at the end. -/
def withState (a : Advisory) (state : PackageState) : Advisory :=
  { a with states := a.states ++ [state] }

end Advisory

namespace Feed

/-- One step in building a feed. -/
inductive Edit where
  /-- Appends an advisory without entries. -/
  | advisory (name : String)
  /-- Adds a fix to the last advisory. -/
  | fix (fix : Fix)
  /-- Adds a statement to the last advisory. -/
  | state (state : PackageState)

/-- The edit that adds a fix of which only the specifier is known. -/
def Edit.releaseFix (specifier : String) : Edit :=
  .fix { specifier := some specifier }

/-- The edit that adds a statement of which only the package is known. -/
def Edit.packageState (package : String) : Edit :=
  .state { package := some package }

/-- Changes the last advisory. -/
def changeLast (feed : Feed) (f : Advisory → Advisory) : Feed :=
  ⟨feed.advisories.modify (feed.advisories.length - 1) f⟩

/-- Applies an edit. -/
def apply (feed : Feed) : Edit → Feed
  | .advisory name => ⟨feed.advisories ++ [{ name := name }]⟩
  | .fix fix => feed.changeLast (·.withFix fix)
  | .state state => feed.changeLast (·.withState state)

/-- The feed that a list of edits builds. -/
def ofEdits (edits : List Edit) : Feed :=
  edits.foldl apply ⟨[]⟩

end Feed

end AdvisoryTriage
