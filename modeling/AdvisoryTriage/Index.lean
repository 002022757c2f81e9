import AdvisoryTriage.Diagnostic
import AdvisoryTriage.Feed.Basic
import AdvisoryTriage.Keyed

/-!
# Advisories by package

A query asks about one package, and most advisories have nothing to say about it. The index files
every advisory under the base names it mentions: the names of the builds that its fixes were
released as, and the names that the vendor makes statements about. Buckets keep the order of the
feed, and an advisory that mentions a name several times is filed there once.

The reader of specifiers is a parameter. Specifiers it refuses are not filed, but recorded as
diagnostics; building an index never fails.

* `Index.build` – an index and the diagnostics of building it.
* `Index.get?`, `Index.contains`, `Index.packages`, `Index.entries`, `Index.size`, `Index.isEmpty` –
  looking into it.
-/

namespace AdvisoryTriage

/-- Advisories by base name of package. -/
structure Index where
  /-- The buckets. -/
  buckets : Keyed (List Advisory)

namespace Index

/-- An index without buckets. -/
def empty : Index := ⟨[]⟩

/-- The advisories filed under a name. -/
def get? (index : Index) (name : String) : Option (List Advisory) :=
  index.buckets.get? name

/-- Whether something is filed under a name. -/
def contains (index : Index) (name : String) : Bool :=
  (index.get? name).isSome

/-- The names that something is filed under. -/
def packages (index : Index) : List String :=
  index.buckets.names

/-- The names that something is filed under, each with what is filed there. -/
def entries (index : Index) : List (String × List Advisory) :=
  index.buckets

/-- How many names something is filed under. -/
def size (index : Index) : Nat :=
  index.buckets.length

/-- Whether nothing is filed. -/
def isEmpty (index : Index) : Bool :=
  index.buckets.isEmpty

/-- Files an advisory under a name, behind what is there. -/
def file (advisory : Advisory) (index : Index) (name : String) : Index :=
  ⟨index.buckets.update name [] (· ++ [advisory])⟩

end Index

/-! ### What an advisory mentions -/

/-- The base names that an advisory mentions, each once, and the diagnostics met on the way. -/
structure Mentions where
  /-- The names, in order of first mention. -/
  names : List String
  /-- The diagnostics, in order. -/
  diagnostics : List Diagnostic

namespace Mentions

/-- Adds a name that is not there yet. -/
def addName (m : Mentions) (name : String) : Mentions :=
  if name ∈ m.names then m else { m with names := m.names ++ [name] }

/-- Adds what the specifier of a fix mentions. -/
def addSpecifier (parse : String → Except Package.ParseError Package) (advisory : String)
    (m : Mentions) (specifier : String) : Mentions :=
  match parse specifier with
  | .ok package => m.addName package.name
  | .error error => { m with diagnostics := m.diagnostics ++ [⟨advisory, specifier, error⟩] }

/-- What an advisory mentions: first its fixes, then its statements. -/
def ofAdvisory (parse : String → Except Package.ParseError Package) (a : Advisory) : Mentions :=
  (a.states.filterMap PackageState.package?).foldl addName
    ((a.fixes.filterMap Fix.package?).foldl (addSpecifier parse a.name) ⟨[], []⟩)

end Mentions

/-! ### Building an index -/

/-- An index under construction, with the diagnostics met so far. -/
structure Indexing where
  /-- The index. -/
  index : Index
  /-- The diagnostics, in order. -/
  diagnostics : List Diagnostic

/-- Files one advisory. -/
def Indexing.add (parse : String → Except Package.ParseError Package) (i : Indexing)
    (a : Advisory) : Indexing :=
  let m := Mentions.ofAdvisory parse a
  ⟨m.names.foldl (Index.file a) i.index, i.diagnostics ++ m.diagnostics⟩

/-- Files all advisories of a feed. -/
def Index.build (parse : String → Except Package.ParseError Package) (feed : Feed) : Indexing :=
  feed.advisories.foldl (Indexing.add parse) ⟨Index.empty, []⟩

/-- The event that reports an index. -/
def Index.builtEvent (feed : Feed) (index : Index) : Logging.Event :=
  { level := .debug
    source := .index
    message := "Indexed " ++ feed.advisories.length.repr ++ " advisories under " ++
      index.size.repr ++ " packages" }

end AdvisoryTriage
