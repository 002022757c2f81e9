import AdvisoryTriage.Proofs.Checker.Decision
import AdvisoryTriage.Proofs.Index

/-!
# No fix is lost between index and checker

The specifiers of a feed are read twice: once when the feed is indexed, where those that cannot be
read are reported, and once when its checker is built, where they are passed over in silence. Nobody
misses a fix only if both readings come to the same verdict on every one of them. This file says
that they do, fix by fix and in the order of the feed (`Checker.division_build`).

The verdicts are laid side by side in one relation (`Checker.Division`). It takes the fixes of a
feed off one at a time, each either with a diagnostic and a note of having been passed over, or with
one rule under the name of its advisory, which is then in the bucket of the fixed package. What is
left in the end is nothing on any side, so neither loop has anything that the other does not account
for.

What both loops do is known already as a list of what single fixes contribute
(`Index.diagnostics_build`, `Checker.fixesOf_build`; for what is passed over,
`Checker.ignored_build`). The division is then put together along the feed and mentions neither
loop.
-/

namespace AdvisoryTriage

/-! ### The fixes of a feed -/

/-- A fix that has a specifier, with the advisory it belongs to. -/
structure ReleasedFix where
  /-- The advisory. -/
  advisory : Advisory
  /-- The specifier of the fixed build, not empty. -/
  specifier : String
  /-- The platform the fix was released for, written out. -/
  cpe : Option String

/-- A fix of an advisory, if it has a specifier. -/
def Fix.released? (a : Advisory) (fix : Fix) : Option ReleasedFix :=
  fix.package?.map fun specifier => ⟨a, specifier, fix.cpe⟩

/-- **The fixes of a feed that have a specifier**, in the order of the feed. -/
def Feed.releasedFixes (feed : Feed) : List ReleasedFix :=
  feed.advisories.flatMap fun a => a.fixes.filterMap (Fix.released? a)

namespace Checker

variable {settings : Settings.Checker} {feed : Feed} {c : Checker} {index : Index}

/-! ### What is passed over -/

/-- The note of a fix that is passed over: its specifier is there and cannot be read. -/
def Ignored.ofFix? (advisory : String) (fix : Fix) : Option Ignored :=
  match fix.package? with
  | none => none
  | some specifier =>
    match Package.parse specifier with
    | .ok _ => none
    | .error _ => some ⟨advisory, specifier⟩

theorem ignored_addFix {advisory : String} {c c' : Checker} {fix : Fix}
    (h : addFix advisory c fix = .ok c') :
    c'.ignored = c.ignored ++ (Ignored.ofFix? advisory fix).toList := by
  obtain ⟨platform, hp, ⟨hs, rfl⟩ | ⟨s, e, hs, hr, rfl⟩ | ⟨s, p, hs, hr, rfl⟩⟩ := addFix_cases h
  · simp [Ignored.ofFix?, hs]
  · simp [Ignored.ofFix?, hs, hr]
  · simp [Ignored.ofFix?, hs, hr, updateRules]

/-- A statement is never passed over. -/
theorem ignored_addState {advisory : String} {c c' : Checker} {state : PackageState}
    (h : addState settings advisory c state = .ok c') : c'.ignored = c.ignored := by
  obtain ⟨platform, hp, ⟨hs, rfl⟩ | ⟨s, hs, hi, rfl⟩⟩ := addState_cases h <;> rfl

theorem ignored_addAdvisory {c c' : Checker} {a : Advisory}
    (h : addAdvisory settings c a = .ok c') :
    c'.ignored = c.ignored ++ a.fixes.filterMap (Ignored.ofFix? a.name) := by
  obtain ⟨t, hfixes, hstates⟩ := addAdvisory_cases h
  have ht := observe_foldlM hfixes ignored _ ignored_addFix
  have hc := observe_foldlM hstates ignored (fun _ => [])
    fun h => (ignored_addState h).trans (List.append_nil _).symm
  rw [← List.filterMap_eq_flatMap_toList] at ht
  rw [hc, ht]
  simp [updateRules]

/-- **What a checker passes over**: the specifiers that cannot be read, in the order of the feed. -/
theorem ignored_build (h : build settings feed = .ok c) :
    c.ignored = feed.advisories.flatMap fun a => a.fixes.filterMap (Ignored.ofFix? a.name) :=
  observe_foldlM h ignored _ ignored_addAdvisory

/-! ### The division -/

/-- Rules by name, with one more in front of those of a name. -/
def keep (name : String) (rule : FixRule) (rules : String → List FixRule) :
    String → List FixRule :=
  fun other => if name = other then rule :: rules other else rules other

theorem keep_append (name : String) (rule : FixRule) (rules rules' : String → List FixRule) :
    (fun other => keep name rule rules other ++ rules' other) =
      keep name rule fun other => rules other ++ rules' other := by
  funext other
  rw [keep, keep]
  split_ifs <;> rfl

/-- **The fixes of a feed, divided** between those that are reported and those that are kept. A
relation between the fixes, the diagnostics of an index, what a checker passes over, and the rules
that it keeps under each name. -/
inductive Division (index : Index) :
    List ReleasedFix → List Diagnostic → List Ignored → (String → List FixRule) → Prop
  /-- Without fixes there is nothing on any side. -/
  | nil : Division index [] [] [] fun _ => []
  /-- A fix whose specifier cannot be read has a diagnostic, is passed over, and makes no rule. -/
  | unreadable {fix : ReleasedFix} {error : Package.ParseError} {fixes : List ReleasedFix}
      {diagnostics : List Diagnostic} {ignored : List Ignored} {rules : String → List FixRule}
      (hread : Package.parse fix.specifier = .error error)
      (hrest : Division index fixes diagnostics ignored rules) :
      Division index (fix :: fixes)
        (⟨fix.advisory.name, fix.specifier, error⟩ :: diagnostics)
        (⟨fix.advisory.name, fix.specifier⟩ :: ignored) rules
  /-- A fix whose specifier can be read has its advisory in the bucket of the fixed package, no
  diagnostic, and one rule under the name of the advisory, with the build and the platform that were
  read. -/
  | readable {fix : ReleasedFix} {package : Package} {platform : Option Cpe}
      {bucket : List Advisory} {fixes : List ReleasedFix} {diagnostics : List Diagnostic}
      {ignored : List Ignored} {rules : String → List FixRule}
      (hread : Package.parse fix.specifier = .ok package)
      (hplatform : platform? fix.advisory.name fix.cpe = .ok platform)
      (hbucket : index.get? package.name = some bucket) (hfiled : fix.advisory ∈ bucket)
      (hrest : Division index fixes diagnostics ignored rules) :
      Division index (fix :: fixes) diagnostics ignored
        (keep fix.advisory.name ⟨package, platform⟩ rules)

namespace Division

/-- What is passed over is what is reported. -/
theorem map_ignored_eq {fixes : List ReleasedFix} {diagnostics : List Diagnostic}
    {ignored : List Ignored} {rules : String → List FixRule}
    (h : Division index fixes diagnostics ignored rules) :
    (ignored.map fun i => (i.advisory, i.specifier)) =
      diagnostics.map fun d => (d.advisory, d.specifier) := by
  induction h with
  | nil => rfl
  | unreadable _ _ ih => rw [List.map_cons, List.map_cons, ih]
  | readable _ _ _ _ _ ih => exact ih

/-- Divisions of two lists of fixes make one of both lists together. -/
theorem append {fixes fixes' : List ReleasedFix} {diagnostics diagnostics' : List Diagnostic}
    {ignored ignored' : List Ignored} {rules rules' : String → List FixRule}
    (h : Division index fixes diagnostics ignored rules)
    (h' : Division index fixes' diagnostics' ignored' rules') :
    Division index (fixes ++ fixes') (diagnostics ++ diagnostics') (ignored ++ ignored')
      fun name => rules name ++ rules' name := by
  induction h with
  | nil => exact h'
  | unreadable hread _ ih => exact .unreadable hread ih
  | readable hread hplatform hbucket hfiled _ ih =>
    rw [keep_append]
    exact .readable hread hplatform hbucket hfiled ih

/-- What is put together of parts is divided if every part is. -/
theorem flatMap {β : Type} {fixes : β → List ReleasedFix} {diagnostics : β → List Diagnostic}
    {ignored : β → List Ignored} {rules : β → String → List FixRule} {xs : List β}
    (h : ∀ x ∈ xs, Division index (fixes x) (diagnostics x) (ignored x) (rules x)) :
    Division index (xs.flatMap fixes) (xs.flatMap diagnostics) (xs.flatMap ignored)
      fun name => xs.flatMap fun x => rules x name := by
  induction xs with
  | nil => exact .nil
  | cons x xs ih =>
    obtain ⟨hx, hxs⟩ := List.forall_mem_cons.mp h
    simp only [List.flatMap_cons]
    exact hx.append (ih hxs)

end Division

/-- One fix is divided if its platform can be read and its advisory is filed under the package that
it fixes. -/
theorem division_fix {a : Advisory} {fix : Fix} {platform : Option Cpe}
    (hplatform : platform? a.name fix.cpe = .ok platform)
    (hfiled : ∀ specifier package, fix.package? = some specifier →
      Package.parse specifier = .ok package →
      ∃ bucket, index.get? package.name = some bucket ∧ a ∈ bucket) :
    Division index (Fix.released? a fix).toList (fix.diagnostic? Package.parse a.name).toList
      (Ignored.ofFix? a.name fix).toList
      fun name => if a.name = name then (FixRule.ofFix? fix).toList else [] := by
  have hentry := platformOf?_eq_of_platform? hplatform
  cases hs : fix.package? with
  | none => simpa [Fix.released?, Fix.diagnostic?, Ignored.ofFix?, FixRule.ofFix?, hs, hentry] using
      Division.nil
  | some specifier =>
    have hreleased : Fix.released? a fix = some ⟨a, specifier, fix.cpe⟩ := by
      simp [Fix.released?, hs]
    cases hr : Package.parse specifier with
    | error e =>
      have hdivision : Division index [⟨a, specifier, fix.cpe⟩] [⟨a.name, specifier, e⟩]
          [⟨a.name, specifier⟩] fun _ => [] :=
        .unreadable hr .nil
      simpa [hreleased, Fix.diagnostic?, Ignored.ofFix?, FixRule.ofFix?, hs, hr, hentry,
        Except.toOption] using hdivision
    | ok package =>
      obtain ⟨bucket, hbucket, hmem⟩ := hfiled specifier package hs hr
      have hdivision : Division index [⟨a, specifier, fix.cpe⟩] [] []
          fun name => if a.name = name then [⟨package, platform⟩] else [] :=
        .readable hr hplatform hbucket hmem .nil
      simpa [hreleased, Fix.diagnostic?, Ignored.ofFix?, FixRule.ofFix?, hs, hr, hentry,
        Except.toOption] using hdivision

/-- **No fix is lost.** Index and checker divide the fixes of a feed in the same way, one by one and
in the order of the feed: a fix that cannot be read is reported by the one and passed over by the
other, and of a fix that can be read the one has filed the advisory under the fixed package and the
other keeps exactly one rule. So what the checker passes over is what the index reports. -/
theorem division_build (h : build settings feed = .ok c) :
    Division (Index.build Package.parse feed).index feed.releasedFixes
        (Index.build Package.parse feed).diagnostics c.ignored
        (fun name => (c.rulesOf name).fixes) ∧
      (c.ignored.map fun i => (i.advisory, i.specifier)) =
        (Index.build Package.parse feed).diagnostics.map fun d => (d.advisory, d.specifier) := by
  have hdivision : Division (Index.build Package.parse feed).index feed.releasedFixes
      (Index.build Package.parse feed).diagnostics c.ignored
      (fun name => (c.rulesOf name).fixes) := by
    simp only [fixesOf_build h, ← flatMap_ite_eq]
    rw [Index.diagnostics_build, ignored_build h, Feed.releasedFixes, Feed.unreadable]
    simp only [List.filterMap_eq_flatMap_toList]
    refine .flatMap fun a ha => .flatMap fun fix hfix => ?_
    -- the checker could be built, so no platform stands in the way
    obtain ⟨platform, hplatform⟩ := exists_platform_of_build h ha hfix
    refine division_fix hplatform fun specifier package hs hr => ?_
    have hmentions : a.MentionsName Package.parse package.name :=
      Or.inl ⟨fix, hfix, specifier, package, hs, hr, rfl⟩
    exact ⟨_, Index.get?_build_eq_some_iff.mpr ⟨⟨a, ha, hmentions⟩, rfl⟩,
      List.mem_filter.mpr ⟨ha, decide_eq_true hmentions⟩⟩
  exact ⟨hdivision, hdivision.map_ignored_eq⟩

/-- A feed with two advisories of one name, where specifiers that can be read and specifiers that
cannot take turns, and one is empty. -/
def takingTurns : Feed where
  advisories :=
    [{ name := "CVE-2020-0009"
       fixes :=
        [{ specifier := some "garbage" }, { specifier := some "" },
          { specifier := some "bash-4.4-20.el8"
            cpe := some "cpe:/o:redhat:enterprise_linux:8" }] },
      { name := "CVE-2020-0009"
        fixes :=
          [{ specifier := some "zsh-x:5.5.1-6.el8" }, { specifier := some "zsh-5.5.1-6.el8" }] }]

/-- What is kept of `Checker.takingTurns`. -/
def keptOfTakingTurns : Checker where
  rules :=
    [("CVE-2020-0009",
      { fixes :=
          [⟨⟨"bash", none, "4.4", "20.el8", none⟩, some host⟩,
            ⟨⟨"zsh", none, "5.5.1", "6.el8", none⟩, none⟩] })]
  ignored := [⟨"CVE-2020-0009", "garbage"⟩, ⟨"CVE-2020-0009", "zsh-x:5.5.1-6.el8"⟩]

/-- Of the five fixes one has no specifier, two are reported and two are kept. -/
theorem division_takingTurns :
    build { } takingTurns = .ok keptOfTakingTurns ∧ takingTurns.releasedFixes.length = 4 ∧
      Division (Index.build Package.parse takingTurns).index takingTurns.releasedFixes
        [⟨"CVE-2020-0009", "garbage", .missing "release"⟩,
          ⟨"CVE-2020-0009", "zsh-x:5.5.1-6.el8", .invalidEpoch "x"⟩]
        keptOfTakingTurns.ignored fun name => (keptOfTakingTurns.rulesOf name).fixes := by
  have hb : build { } takingTurns = .ok keptOfTakingTurns := by decide +kernel
  have hd : (Index.build Package.parse takingTurns).diagnostics =
      [⟨"CVE-2020-0009", "garbage", .missing "release"⟩,
        ⟨"CVE-2020-0009", "zsh-x:5.5.1-6.el8", .invalidEpoch "x"⟩] := by decide +kernel
  refine ⟨hb, by decide +kernel, ?_⟩
  rw [← hd]
  exact (division_build hb).1

end Checker

end AdvisoryTriage
