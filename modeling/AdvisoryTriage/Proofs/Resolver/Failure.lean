import AdvisoryTriage.Proofs.Resolver.FullScan

/-!
# When a feed cannot be judged

A checker is not built over a feed with a platform that cannot be read, and then no query gets an
answer. This file says exactly when that happens and which platform the error is about: the first
one of the feed that is written, is not empty, and is not the name of a platform
(`Feed.FirstFault`). Within an advisory those of the fixes come before those of the statements.

What carries the file is that the fault of an entry is its own. Whatever was kept before it, and
whatever else it says – no package at all, a specifier that cannot be read, a statement that would
not count – taking it in fails exactly if its platform does (`Checker.faultOf_addFix`,
`Checker.faultOf_addState`). So the three nested loops come to a search through the platforms of the
feed (`Checker.faultOf_build`), in which the settings have no part.

* `Resolver.noOracle_iff_firstFault` – the error, from the feed to the answer of a query.
* `Checker.exists_build_of_subset` – a feed whose platforms are among those of a feed with a checker
  has a checker.
-/

namespace AdvisoryTriage

/-! ### The platforms of a feed -/

/-- The platform of an entry as it is written, under the name of the advisory. -/
structure WrittenPlatform where
  /-- The name of the advisory. -/
  advisory : String
  /-- The platform. -/
  cpe : Option String

/-- The platforms of an advisory as they are written, those of the fixes first. -/
def Advisory.writtenPlatforms (a : Advisory) : List WrittenPlatform :=
  (a.fixes.map Fix.cpe ++ a.states.map PackageState.cpe).map fun cpe => ⟨a.name, cpe⟩

/-- The platforms of a feed as they are written, in the order of the feed. -/
def Feed.writtenPlatforms (feed : Feed) : List WrittenPlatform :=
  feed.advisories.flatMap Advisory.writtenPlatforms

/-- **The fault of a written platform**: it is present, not empty, and cannot be read. -/
structure Checker.BadPlatform.IsFaultOf (e : Checker.BadPlatform) (w : WrittenPlatform) :
    Prop where
  /-- It is reported under the name of the advisory. -/
  advisory_eq : e.advisory = w.advisory
  /-- It is reported as it is written. -/
  cpe_eq : w.cpe = some e.cpe
  /-- It is not empty. -/
  cpe_ne : e.cpe ≠ ""
  /-- It cannot be read, for the reason that is reported. -/
  error_eq : Cpe.parse e.cpe = .error e.error

/-- **The first fault of a feed**: no platform before it has one. -/
def Feed.FirstFault (feed : Feed) (e : Checker.BadPlatform) : Prop :=
  ∃ before w after, feed.writtenPlatforms = before ++ w :: after ∧ e.IsFaultOf w ∧
    ∀ v ∈ before, ∀ e' : Checker.BadPlatform, ¬ e'.IsFaultOf v

/-- A platform that is present, not empty, and cannot be read. -/
def Checker.Malformed (cpe : Option String) : Prop :=
  ∃ text, cpe = some text ∧ text ≠ "" ∧ ∃ error, Cpe.parse text = .error error

namespace Checker

variable {settings : Settings.Checker} {feed : Feed}

/-- The fault that reading a written platform meets, if it meets one. -/
def fault? (w : WrittenPlatform) : Option BadPlatform :=
  faultOf id (platform? w.advisory w.cpe)

theorem fault?_eq_some_iff {w : WrittenPlatform} {e : BadPlatform} :
    fault? w = some e ↔ e.IsFaultOf w := by
  rw [fault?, faultOf_eq_some_iff, platform?]
  constructor
  · rintro ⟨_, he, rfl⟩
    cases hc : nonempty? w.cpe with
    | none =>
      rw [hc] at he
      cases he
    | some text =>
      obtain ⟨hcpe, hne⟩ := nonempty?_eq_some_iff.mp hc
      simp only [hc] at he
      cases hp : Cpe.parse text with
      | ok platform =>
        rw [hp] at he
        cases he
      | error error =>
        rw [hp] at he
        obtain rfl := Except.error.inj he
        exact ⟨rfl, hcpe, hne, hp⟩
  · rintro ⟨hadvisory, hcpe, hne, hp⟩
    refine ⟨e, ?_, rfl⟩
    simp only [nonempty?_eq_some_iff.mpr ⟨hcpe, hne⟩, hp, ← hadvisory]

theorem fault?_eq_none_iff {w : WrittenPlatform} :
    fault? w = none ↔ ∀ e : BadPlatform, ¬ e.IsFaultOf w := by
  simp only [← fault?_eq_some_iff, Option.eq_none_iff_forall_ne_some, ne_eq]

theorem exists_isFaultOf_iff {w : WrittenPlatform} :
    (∃ e : BadPlatform, e.IsFaultOf w) ↔ Malformed w.cpe := by
  constructor
  · rintro ⟨e, -, hcpe, hne, hp⟩
    exact ⟨e.cpe, hcpe, hne, e.error, hp⟩
  · rintro ⟨text, hcpe, hne, error, hp⟩
    exact ⟨⟨w.advisory, text, error⟩, rfl, hcpe, hne, hp⟩

/-! ### What stops a checker from being built -/

/-- Taking in a fix fails exactly if its platform has a fault, and with that fault. -/
theorem faultOf_addFix (advisory : String) (c : Checker) (fix : Fix) :
    faultOf Stopped.cause (addFix advisory c fix) = fault? ⟨advisory, fix.cpe⟩ := by
  rw [addFix, fault?]
  cases platform? advisory fix.cpe with
  | error e => rfl
  | ok platform =>
    cases fix.package? with
    | none => rfl
    | some specifier =>
      dsimp only
      cases Package.parse specifier <;> rfl

/-- Taking in a statement fails exactly if its platform has a fault, and with that fault. -/
theorem faultOf_addState (advisory : String) (c : Checker) (state : PackageState) :
    faultOf Stopped.cause (addState settings advisory c state) = fault? ⟨advisory, state.cpe⟩ := by
  rw [addState, fault?]
  cases platform? advisory state.cpe with
  | error e => rfl
  | ok platform =>
    cases state.package? with
    | none => rfl
    | some package => cases state.fixState.any settings.isInapplicable <;> rfl

/-- Taking in an advisory fails with the first fault of its platforms. -/
theorem faultOf_addAdvisory (c : Checker) (a : Advisory) :
    faultOf Stopped.cause (addAdvisory settings c a) = a.writtenPlatforms.findSome? fault? := by
  have hfixes := faultOf_foldlM (faultOf_addFix a.name) a.fixes (c.updateRules a.name id)
  rw [Advisory.writtenPlatforms, List.map_append, List.map_map, List.map_map, List.findSome?_append,
    List.findSome?_map, List.findSome?_map, addAdvisory]
  change _ = (a.fixes.findSome? fun fix => fault? ⟨a.name, fix.cpe⟩).or
    (a.states.findSome? fun state => fault? ⟨a.name, state.cpe⟩)
  rw [← hfixes]
  cases a.fixes.foldlM (addFix a.name) (c.updateRules a.name id) with
  | ok t => exact faultOf_foldlM (faultOf_addState a.name) a.states t
  | error e => rfl

/-- **What stops a checker from being built** is the first fault of the platforms of the feed. -/
theorem faultOf_build (settings : Settings.Checker) (feed : Feed) :
    faultOf Stopped.cause (build settings feed) = feed.writtenPlatforms.findSome? fault? := by
  rw [Feed.writtenPlatforms, findSome?_flatMap, build, faultOf_foldlM faultOf_addAdvisory]

theorem exists_build_error_iff {e : BadPlatform} :
    (∃ stopped, build settings feed = .error stopped ∧ stopped.cause = e) ↔
      feed.FirstFault e := by
  rw [← faultOf_eq_some_iff, faultOf_build, List.findSome?_eq_some_iff]
  simp only [fault?_eq_some_iff, fault?_eq_none_iff, Feed.FirstFault]

theorem exists_build_iff :
    (∃ c, build settings feed = .ok c) ↔
      ∀ w ∈ feed.writtenPlatforms, ∀ e : BadPlatform, ¬ e.IsFaultOf w := by
  have hok : (∃ c, build settings feed = .ok c) ↔
      faultOf Stopped.cause (build settings feed) = none := faultOf_eq_none_iff.symm
  rw [hok, faultOf_build, List.findSome?_eq_none_iff]
  simp only [fault?_eq_none_iff]

/-- **A feed with fewer platforms**: if a checker can be built over a feed, then also over one that
writes no platform besides those of the first, under any settings. -/
theorem exists_build_of_subset {settings' : Settings.Checker} {feed' : Feed} {c' : Checker}
    (h : build settings' feed' = .ok c')
    (hsub : feed.writtenPlatforms ⊆ feed'.writtenPlatforms) :
    ∃ c, build settings feed = .ok c :=
  exists_build_iff.mpr fun w hw => exists_build_iff.mp ⟨c', h⟩ w (hsub hw)

/-- A checker cannot be built exactly if an entry of the feed has a malformed platform. -/
theorem exists_error_iff_malformed :
    (∃ stopped, build settings feed = .error stopped) ↔
      ∃ a ∈ feed.advisories, (∃ fix ∈ a.fixes, Malformed fix.cpe) ∨
        ∃ state ∈ a.states, Malformed state.cpe := by
  have hok : (∃ stopped, build settings feed = .error stopped) ↔
      ¬ ∃ c, build settings feed = .ok c := by
    cases build settings feed <;> simp
  rw [hok, exists_build_iff]
  simp only [not_forall, not_not, exists_prop, exists_isFaultOf_iff, Feed.writtenPlatforms,
    Advisory.writtenPlatforms, List.mem_flatMap, List.mem_map, List.mem_append]
  constructor
  · rintro ⟨_, ⟨a, ha, cpe, ⟨fix, hf, rfl⟩ | ⟨state, hs, rfl⟩, rfl⟩, hm⟩
    · exact ⟨a, ha, Or.inl ⟨fix, hf, hm⟩⟩
    · exact ⟨a, ha, Or.inr ⟨state, hs, hm⟩⟩
  · rintro ⟨a, ha, ⟨fix, hf, hm⟩ | ⟨state, hs, hm⟩⟩
    · exact ⟨_, ⟨a, ha, _, Or.inl ⟨fix, hf, rfl⟩, rfl⟩, hm⟩
    · exact ⟨_, ⟨a, ha, _, Or.inr ⟨state, hs, rfl⟩, rfl⟩, hm⟩

end Checker

namespace Resolver

/-! ### No oracle, no answer -/

/-- **When there is no oracle.** Over a feed no checker can be built exactly if some entry, whatever
else it says, has a platform that is not empty and cannot be read. The error is then about the first
such platform and names its advisory, whatever the settings; and every query that can be read fails
with it, also one about a package that no advisory mentions. -/
theorem noOracle_iff_firstFault (feed : Feed) :
    (∀ settings, (∃ stopped, Checker.build settings feed = .error stopped) ↔
        ∃ a ∈ feed.advisories, (∃ fix ∈ a.fixes, Checker.Malformed fix.cpe) ∨
          ∃ state ∈ a.states, Checker.Malformed state.cpe) ∧
      (∀ settings stopped, Checker.build settings feed = .error stopped →
        feed.FirstFault stopped.cause) ∧
      ∀ e, feed.FirstFault e → ∀ settings : Settings,
        (Oracle.Factory.releaseFix settings.checker).build feed =
          .error (.construction (e.advisory ++ ": invalid platform cpe " ++ Text.quote e.cpe ++
            ": " ++ e.error.message)) ∧
        ∀ sink distro specifier platform package, Cpe.parse distro = .ok platform →
          Package.parse specifier = .ok package →
          ((stock feed settings sink).resolve ⟨distro, specifier⟩).answer =
            .error (.construction (e.advisory ++ ": invalid platform cpe " ++ Text.quote e.cpe ++
              ": " ++ e.error.message)) := by
  refine ⟨fun settings => Checker.exists_error_iff_malformed, fun settings stopped h => ?_,
    fun e he settings => ?_⟩
  · exact Checker.exists_build_error_iff.mp ⟨stopped, h, rfl⟩
  · have hbuild : ∃ stopped, Checker.build settings.checker feed = .error stopped ∧
        stopped.cause = e := Checker.exists_build_error_iff.mpr he
    obtain ⟨stopped, hb, rfl⟩ := hbuild
    have ho : (Oracle.Factory.releaseFix settings.checker).build feed =
        .error (.construction stopped.cause.message) := by
      simp only [Oracle.Factory.releaseFix, hb]
    exact ⟨ho, fun sink distro specifier platform package hd hp =>
      Answers.eq (.noOracle hd hp ho)⟩

/-- A feed with three platforms that cannot be read, all in entries that say nothing or nothing that
counts: a fix without a package, a statement that does not clear, and a fix whose specifier cannot
be read. -/
def unjudged : Feed where
  advisories :=
    [{ name := "CVE-2020-0005"
       fixes :=
        [{ specifier := some "bash-4.4-20.el8"
           cpe := some "cpe:/o:redhat:enterprise_linux:8" },
          { cpe := some "" },
          { cpe := some "cpe:/o:redhat" }]
       states :=
        [{ package := some "zsh", fixState := some "Affected", cpe := some "rhel8" }] },
      { name := "CVE-2020-0006"
        fixes := [{ specifier := some "garbage", cpe := some "cpe:/x:acme:router" }] }]

/-- The error is about the platform of the fix without a package, for a query about a shell that the
feed does not mention. -/
theorem noOracle_unjudged :
    unjudged.FirstFault ⟨"CVE-2020-0005", "cpe:/o:redhat", .tooFewComponents⟩ ∧
      ((stock unjudged { } .report).resolve
          ⟨"cpe:/o:redhat:enterprise_linux:8", "fish-3.1-1.el8"⟩).answer =
        .error (.construction
          "CVE-2020-0005: invalid platform cpe \"cpe:/o:redhat\": CPE has too few components") := by
  have hb : ∃ stopped, Checker.build { } unjudged = .error stopped ∧
      stopped.cause = ⟨"CVE-2020-0005", "cpe:/o:redhat", .tooFewComponents⟩ :=
    ⟨⟨{ rules := [("CVE-2020-0005",
          { fixes := [⟨⟨"bash", none, "4.4", "20.el8", none⟩, some Checker.host⟩] })] }, _⟩,
      by decide +kernel, rfl⟩
  obtain ⟨stopped, hb, hcause⟩ := hb
  have hfirst := (noOracle_iff_firstFault unjudged).2.1 _ _ hb
  rw [hcause] at hfirst
  have hd : Cpe.parse "cpe:/o:redhat:enterprise_linux:8" = .ok Checker.host := by decide +kernel
  have hp : Package.parse "fish-3.1-1.el8" = .ok ⟨"fish", none, "3.1", "1.el8", none⟩ := by
    decide +kernel
  refine ⟨hfirst, ?_⟩
  rw [((noOracle_iff_firstFault unjudged).2.2 _ hfirst { }).2 .report _ _ _ _ hd hp]
  decide +kernel

end Resolver

end AdvisoryTriage
