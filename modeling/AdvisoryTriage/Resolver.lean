import AdvisoryTriage.Index
import AdvisoryTriage.Oracle

/-!
# Which advisories do not apply

A query names a platform and an installed build. The answer lists the advisories recorded for the
package that are known not to apply to it, in the order of the feed. A package that no advisory
mentions has an empty answer, which is not an error.

A resolver holds a feed and the parts that do the work: the readers of platforms and packages, the
factory of oracles, and the sink of diagnostics. Any of them can be replaced. Answering is a
function: what a query does besides answering – the diagnostics it hands to the sink, the oracle it
builds, what it asks the oracle, what it reports – is part of its result.

* `Resolver.resolve` – one query.
* `Session.ask` and `Session.askAll` – queries one after the other, and what has piled up so far.
-/

namespace AdvisoryTriage

/-- What a caller asks, in the caller's words. -/
structure Query where
  /-- The platform. -/
  distro : String
  /-- The installed build. -/
  package : String
deriving DecidableEq

/-- What an oracle is asked. -/
structure Question where
  /-- The installed build. -/
  package : Package
  /-- The platform. -/
  platform : Cpe
  /-- The name of the advisory. -/
  advisory : String
deriving DecidableEq

/-- All that comes of a query. -/
structure Resolution where
  /-- The names of the advisories that do not apply, or why there is no answer. -/
  answer : Except Error (List String)
  /-- The diagnostics handed to the sink. -/
  diagnostics : List Diagnostic := []
  /-- How many oracles were built, or failed to be built. -/
  builds : Nat := 0
  /-- What the oracle was asked, in order. -/
  questions : List Question := []
  /-- What was reported, in order. -/
  events : List Logging.Event := []

/-- A feed and the parts that answer queries about it. -/
structure Resolver where
  /-- The feed. -/
  feed : Feed
  /-- Reads platforms. -/
  parsePlatform : String → Except Cpe.ParseError Cpe := Cpe.parse
  /-- Reads specifiers, of queries and of fixes. -/
  parsePackage : String → Except Package.ParseError Package := Package.parse
  /-- Makes oracles. -/
  factory : Oracle.Factory := .releaseFix { }
  /-- Takes the diagnostics of building the index. -/
  sink : Sink := .report

namespace Resolver

/-- The resolver whose checker goes by given settings. -/
def ofSettings (feed : Feed) (settings : Settings) : Resolver :=
  { feed := feed, factory := .releaseFix settings.checker }

/-- The index of the feed, and the diagnostics of building it. -/
def indexing (r : Resolver) : Indexing :=
  Index.build r.parsePackage r.feed

/-- The event that reports that nothing is recorded for a package. -/
def nothingRecordedEvent (package : Package) : Logging.Event :=
  { level := .debug
    source := .resolver
    message := "No advisories recorded for package " ++ package.name }

/-- The event that reports an answer. -/
def answeredEvent (found among : Nat) (package : Package) (distro : String) : Logging.Event :=
  { level := .debug
    source := .resolver
    message := found.repr ++ " of " ++ among.repr ++ " advisories don't apply to " ++
      package.print ++ " on " ++ distro }

/-- Answers a query whose platform and package are known. -/
def resolveParsed (r : Resolver) (distro : String) (platform : Cpe) (package : Package) :
    Resolution :=
  -- the index is built before the oracle, so its diagnostics are out even if there is no oracle
  let built := r.indexing
  let events := r.sink.events built.diagnostics ++ Index.builtEvent r.feed built.index ::
    r.factory.events r.feed
  match r.factory.build r.feed with
  | .error e =>
    { answer := .error e.asConstruction
      diagnostics := built.diagnostics
      builds := 1
      events := events }
  | .ok oracle =>
    match built.index.get? package.name with
    | none =>
      { answer := .ok []
        diagnostics := built.diagnostics
        builds := 1
        events := events ++ [nothingRecordedEvent package] }
    | some bucket =>
      let questions := bucket.map fun a => ⟨package, platform, a.name⟩
      let found := questions.filter fun q => oracle q.package q.platform q.advisory
      { answer := .ok (found.map Question.advisory)
        diagnostics := built.diagnostics
        builds := 1
        questions := questions
        events := events ++ [answeredEvent found.length bucket.length package distro] }

/-- Answers a query. The platform is read first, then the package; a text that cannot be read ends
the matter before anything else is done. -/
def resolve (r : Resolver) (q : Query) : Resolution :=
  match r.parsePlatform q.distro with
  | .error e => { answer := .error (.platform q.distro e) }
  | .ok platform =>
    match r.parsePackage q.package with
    | .error e => { answer := .error (.package q.package e) }
    | .ok package => r.resolveParsed q.distro platform package

/-- The trace of a query. -/
def trace (r : Resolver) (q : Query) : Logging.Trace where
  span :=
    { name := "list_inapplicable"
      level := .debug
      source := .resolver
      fields := [("distro", q.distro), ("pkg", q.package)] }
  events := (r.resolve q).events

end Resolver

/-! ### Many queries -/

/-- What has piled up over the queries asked so far. -/
structure Session where
  /-- The answers, in order. -/
  answers : List (Except Error (List String)) := []
  /-- The diagnostics that the sink has kept. -/
  diagnostics : List Diagnostic := []
  /-- How many oracles were built. -/
  builds : Nat := 0
  /-- What oracles were asked, in order. -/
  questions : List Question := []

namespace Session

/-- The session after one more query. -/
def ask (r : Resolver) (s : Session) (q : Query) : Session :=
  let result := r.resolve q
  { answers := s.answers ++ [result.answer]
    diagnostics := s.diagnostics ++ r.sink.kept result.diagnostics
    builds := s.builds + result.builds
    questions := s.questions ++ result.questions }

/-- The session after some queries, asked in order. -/
def askAll (r : Resolver) (queries : List Query) : Session :=
  queries.foldl (ask r) { }

end Session

end AdvisoryTriage
