import AdvisoryTriage.Proofs.Resolver.FullScan
import Mathlib.Data.List.Induction

/-!
# What piles up over many queries

A resolver may be asked any number of queries, and what it does besides answering piles up: the
diagnostics that its sink keeps, the oracles that are built, the questions they are asked. This file
accounts for all of it after any sequence of queries (`Session.Accounts`,
`Session.accounts_askAll`), for whatever readers and factory the resolver is put together from.

A query that cannot be read leaves nothing behind but its answer. One that can be read builds the
index first and the oracle second, so it leaves a copy of the diagnostics of the feed and counts as
one construction even where the construction fails; only the questions depend on that. What counts
is therefore how many queries could be read (`Resolver.readable`), not how many were answered.

The account is kept query by query: `Session.Accounts.ask` says that one more query keeps it, and
the induction over the queries does the rest.
-/

namespace AdvisoryTriage

namespace Resolver

variable {r : Resolver} {q : Query}

/-! ### One query -/

/-- The platform and the package of a query, if both can be read. -/
def read? (r : Resolver) (q : Query) : Option (Cpe × Package) :=
  match r.parsePlatform q.distro, r.parsePackage q.package with
  | .ok platform, .ok package => some (platform, package)
  | _, _ => none

/-- How many queries can be read. -/
def readable (r : Resolver) (queries : List Query) : Nat :=
  queries.countP fun q => (r.read? q).isSome

/-- The advisories that the index files under a name. -/
def bucket (r : Resolver) (name : String) : List Advisory :=
  (r.indexing.index.get? name).getD []

/-- **What the oracle is asked** because of a query: one question for each advisory in the bucket of
the package, in the order of the bucket, if there is an oracle to ask. -/
def questionsOf (r : Resolver) (q : Query) : List Question :=
  match r.read? q, r.factory.build r.feed with
  | some (platform, package), .ok _ =>
    (r.bucket package.name).map fun a => ⟨package, platform, a.name⟩
  | _, _ => []

theorem read?_eq_some_iff {platform : Cpe} {package : Package} :
    r.read? q = some (platform, package) ↔
      r.parsePlatform q.distro = .ok platform ∧ r.parsePackage q.package = .ok package := by
  rw [read?]
  cases r.parsePlatform q.distro <;> cases r.parsePackage q.package <;> simp

/-- A query that can be read is answered from what was read. -/
theorem resolve_of_read? {platform : Cpe} {package : Package}
    (h : r.read? q = some (platform, package)) :
    r.resolve q = r.resolveParsed q.distro platform package := by
  obtain ⟨hd, hp⟩ := read?_eq_some_iff.mp h
  simp only [resolve, hd, hp]

/-- A query that cannot be read does nothing but fail. -/
theorem resolve_of_unread (h : r.read? q = none) :
    ∃ e, r.resolve q = { answer := .error e } := by
  rw [resolve]
  cases hd : r.parsePlatform q.distro with
  | error e => exact ⟨_, rfl⟩
  | ok platform =>
    cases hp : r.parsePackage q.package with
    | error e => exact ⟨_, rfl⟩
    | ok package => simp [read?_eq_some_iff.mpr ⟨hd, hp⟩] at h

/-- A query that can be read reports what of the feed cannot be read, builds one oracle or fails to,
and asks it about the bucket. -/
theorem effects_of_read? {platform : Cpe} {package : Package}
    (h : r.read? q = some (platform, package)) :
    (r.resolve q).diagnostics = r.feed.unreadable r.parsePackage ∧ (r.resolve q).builds = 1 ∧
      (r.resolve q).questions = r.questionsOf q := by
  rw [resolve_of_read? h, resolveParsed, ← Index.diagnostics_build, questionsOf, h]
  cases r.factory.build r.feed with
  | error e => exact ⟨rfl, rfl, rfl⟩
  | ok oracle =>
    simp only [bucket]
    cases r.indexing.index.get? package.name <;> exact ⟨rfl, rfl, rfl⟩

end Resolver

namespace Session

variable {r : Resolver} {asked : List Query} {s : Session}

/-! ### Many queries -/

/-- **What has piled up** after some queries. -/
structure Accounts (r : Resolver) (asked : List Query) (s : Session) : Prop where
  /-- The sink holds a copy of the diagnostics of the feed for every query that could be read. -/
  diagnostics : s.diagnostics =
    (List.replicate (r.readable asked) (r.feed.unreadable r.parsePackage)).flatten
  /-- An oracle was built, or failed to be built, for every query that could be read. -/
  builds : s.builds = r.readable asked
  /-- The oracles were asked what each of the queries has to be asked, in their order. -/
  questions : s.questions = asked.flatMap r.questionsOf
  /-- Each answer is the one that its query has on its own. -/
  answers : s.answers = asked.map fun q => (r.resolve q).answer

/-- A query that cannot be read adds its answer and nothing else. -/
theorem ask_of_unread (hr : r.sink = .collect) {q : Query} (hq : r.read? q = none) (s : Session) :
    s.ask r q = { s with answers := s.answers ++ [(r.resolve q).answer] } := by
  obtain ⟨e, he⟩ := Resolver.resolve_of_unread hq
  simp [ask, he, hr, Sink.collect]

/-- One more query keeps the account. -/
theorem Accounts.ask (hr : r.sink = .collect) (h : Accounts r asked s) (q : Query) :
    Accounts r (asked ++ [q]) (s.ask r q) := by
  cases hq : r.read? q with
  | none =>
    have hcount : r.readable (asked ++ [q]) = r.readable asked := by
      simp [Resolver.readable, List.countP_append, hq]
    have hquestions : r.questionsOf q = [] := by rw [Resolver.questionsOf, hq]
    rw [ask_of_unread hr hq]
    constructor
    case diagnostics => rw [hcount, h.diagnostics]
    case builds => rw [hcount, h.builds]
    case questions =>
      rw [List.flatMap_append, List.flatMap_singleton, hquestions, List.append_nil, h.questions]
    case answers => rw [List.map_append, List.map_singleton, h.answers]
  | some read =>
    obtain ⟨platform, package⟩ := read
    have hcount : r.readable (asked ++ [q]) = r.readable asked + 1 := by
      simp [Resolver.readable, List.countP_append, hq]
    obtain ⟨hdiagnostics, hbuilds, hquestions⟩ := Resolver.effects_of_read? hq
    constructor
    case diagnostics =>
      rw [hcount, List.replicate_succ', List.flatten_append, List.flatten_singleton,
        ← h.diagnostics, ← hdiagnostics, Session.ask, hr]
      rfl
    case builds =>
      rw [hcount, ← h.builds, ← hbuilds]
      rfl
    case questions =>
      rw [List.flatMap_append, List.flatMap_singleton, ← h.questions, ← hquestions]
      rfl
    case answers =>
      rw [List.map_append, List.map_singleton, ← h.answers]
      rfl

theorem askAll_append_singleton (r : Resolver) (asked : List Query) (q : Query) :
    askAll r (asked ++ [q]) = (askAll r asked).ask r q := by
  rw [askAll, List.foldl_append]
  rfl

/-- The account holds after any sequence of queries. -/
theorem accounts (hr : r.sink = .collect) (asked : List Query) :
    Accounts r asked (askAll r asked) := by
  induction asked using List.reverseRecOn with
  | nil => exact ⟨rfl, rfl, rfl, rfl⟩
  | append_singleton asked q ih =>
    rw [askAll_append_singleton]
    exact ih.ask hr q

/-- **What a resolver with a collecting sink leaves behind** at every point of a run of queries: as
many copies of the diagnostics of the feed and as many constructions as queries could be read so
far, the questions of these queries one after the other, and for each query the answer that it has
when it is the only one. A query that cannot be read adds nothing but its answer. -/
theorem accounts_askAll (hr : r.sink = .collect) (queries : List Query) (n : Nat) :
    Accounts r (queries.take n) (askAll r (queries.take n)) ∧
      (∀ q, (askAll r [q]).answers = [(r.resolve q).answer]) ∧
      ∀ q, r.read? q = none → askAll r (queries.take n ++ [q]) =
        { askAll r (queries.take n) with
          answers := (askAll r (queries.take n)).answers ++ [(r.resolve q).answer] } := by
  refine ⟨accounts hr _, fun q => ?_, fun q hq => ?_⟩
  · exact (accounts hr [q]).answers
  · rw [askAll_append_singleton, ask_of_unread hr hq]

/-- Five queries about shells. The first two cannot be read, the third has two advisories in its
bucket, and no advisory mentions the package of the fourth. -/
def aboutShells : List Query :=
  [⟨"rhel8", "bash-4.4-23.el8"⟩,
    ⟨"cpe:/o:redhat:enterprise_linux:8", "bash"⟩,
    ⟨"cpe:/o:redhat:enterprise_linux:8", "bash-4.4-23.el8"⟩,
    ⟨"cpe:/o:redhat:enterprise_linux:8", "fish-3.1-1.el8"⟩,
    ⟨"cpe:/o:redhat:enterprise_linux:8", "zsh-5.5-6.el8"⟩]

/-- After the first four of them two oracles were built, the one unreadable specifier of the feed
was reported twice and two questions were asked; with a factory that fails there are no questions,
but the other two numbers are the same. -/
theorem accounts_aboutShells :
    let sound := Resolver.stock Resolver.shells { } .collect
    let failing := { sound with factory := { build := fun _ => .error (.io "no rules") } }
    let garbage : Diagnostic := ⟨"CVE-2020-0001", "garbage", .missing "release"⟩
    sound.sink = .collect ∧ failing.sink = .collect ∧
      (askAll sound (aboutShells.take 4)).diagnostics = [garbage, garbage] ∧
      (askAll sound (aboutShells.take 4)).builds = 2 ∧
      (askAll sound (aboutShells.take 4)).questions.map Question.advisory =
        ["CVE-2020-0001", "CVE-2020-0003"] ∧
      (askAll failing (aboutShells.take 4)).diagnostics = [garbage, garbage] ∧
      (askAll failing (aboutShells.take 4)).builds = 2 ∧
      (askAll failing (aboutShells.take 4)).questions = [] := by
  intro sound failing garbage
  have hs := (accounts_askAll (r := sound) rfl aboutShells 4).1
  have hf := (accounts_askAll (r := failing) rfl aboutShells 4).1
  rw [hs.diagnostics, hs.builds, hs.questions, hf.diagnostics, hf.builds, hf.questions]
  refine ⟨rfl, rfl, ?_⟩
  decide +kernel

end Session

end AdvisoryTriage
