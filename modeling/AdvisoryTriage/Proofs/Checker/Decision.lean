import AdvisoryTriage.Proofs.Checker.Rules

/-!
# What a checker decides

The rule that a checker goes by, said of the entries of a feed and not of what a checker keeps of
them. A statement clears a package (`PackageState.Clears`) if it is one of the configured statements
about its base name; a fix clears it (`Fix.Clears`) if it was released for a build of its name at or
below it and for its architecture; and either has to be for the platform in question
(`Checker.IsFor`). A checker that was built says yes to an advisory exactly if an entry of an
advisory of that name clears the package (`Checker.check_eq_true_iff`).
-/

namespace AdvisoryTriage

/-! ### The declarative rule -/

/-- **An entry is for a platform** if its own platform is absent or empty, or denotes a platform
name that covers it. -/
def Checker.IsFor (cpe : Option String) (platform : Cpe) : Prop :=
  cpe = none ∨ cpe = some "" ∨
    ∃ text entry, cpe = some text ∧ Cpe.parse text = .ok entry ∧ entry.covers platform = true

/-- **Architectures go together** if they are equal, if one is not given, if the fix is for every
architecture or a source package, or if the installed build is for every architecture. -/
def Checker.ArchitecturesMeet (fixed installed : Option String) : Prop :=
  fixed = installed ∨ fixed = none ∨ installed = none ∨
    fixed ∈ [some "noarch", some "src", some "nosrc"] ∨ installed = some "noarch"

/-- **A statement clears a package on a platform.** -/
structure PackageState.Clears (settings : Settings.Checker) (state : PackageState)
    (package : Package) (platform : Cpe) : Prop where
  /-- It is about the base name of the package. -/
  about : state.package = some package.name
  /-- The base name is not empty. -/
  name_ne : package.name ≠ ""
  /-- What it states is one of the configured statements. -/
  inapplicable : ∃ text, state.fixState = some text ∧ settings.isInapplicable text = true
  /-- It is for the platform. -/
  isFor : Checker.IsFor state.cpe platform

/-- **A fixed build clears a package on a platform.** -/
structure Fix.ClearsBy (fix : Fix) (fixed package : Package) (platform : Cpe) : Prop where
  /-- The fix was released as this build. -/
  denotes : ∃ specifier, fix.specifier = some specifier ∧ specifier ≠ "" ∧
    Package.parse specifier = .ok fixed
  /-- It is a build of the package. -/
  name_eq : fixed.name = package.name
  /-- It speaks for the architecture of the package. -/
  meet : Checker.ArchitecturesMeet fixed.arch package.arch
  /-- It is for the platform. -/
  isFor : Checker.IsFor fix.cpe platform
  /-- The package is not below it. -/
  not_below : package.compareBuilds fixed ≠ .lt

/-- **A fix clears a package on a platform** if the build it was released as does. -/
def Fix.Clears (fix : Fix) (package : Package) (platform : Cpe) : Prop :=
  ∃ fixed, fix.ClearsBy fixed package platform

namespace Checker

/-! ### The rules of single entries -/

/-- The platform that is read of an entry holds where the entry is for the platform. -/
theorem exists_holdsOn_iff {cpe : Option String} {platform : Cpe} :
    (∃ entry, platformOf? cpe = some entry ∧ holdsOn entry platform = true) ↔
      IsFor cpe platform := by
  have hempty : Cpe.parse "" = .error .unknownForm := rfl
  rw [platformOf?]
  cases hc : nonempty? cpe with
  | none =>
    have hcpe : cpe = none ∨ cpe = some "" := by
      cases cpe with
      | none => exact Or.inl rfl
      | some text => simpa [nonempty?, Option.filter_eq_none_iff] using hc
    simp only [IsFor]
    constructor
    · exact fun _ => hcpe.imp_right Or.inl
    · exact fun _ => ⟨none, rfl, rfl⟩
  | some text =>
    obtain ⟨rfl, hne⟩ := nonempty?_eq_some_iff.mp hc
    simp only [IsFor, Option.some.injEq, hne, reduceCtorEq, false_or]
    constructor
    · rintro ⟨entry, he, hh⟩
      cases hp : Cpe.parse text with
      | error e => simp [hp, Except.toOption] at he
      | ok c =>
        rw [hp] at he
        obtain rfl : some c = entry := Option.some.inj he
        exact ⟨text, c, rfl, hp, by simpa [holdsOn] using hh⟩
    · rintro ⟨_, c, rfl, hp, hh⟩
      exact ⟨some c, by rw [hp]; rfl, by simpa [holdsOn] using hh⟩

theorem archCompatible_iff {fixed installed : Package} :
    archCompatible fixed installed = true ↔ ArchitecturesMeet fixed.arch installed.arch := by
  rw [archCompatible, ArchitecturesMeet]
  cases fixed.arch with
  | none => simp
  | some f =>
    cases installed.arch with
    | none => simp
    | some i => simp [or_assoc]

/-- A statement clears a package if it makes a rule that settles the matter. -/
theorem exists_stateRule_iff {settings : Settings.Checker} {state : PackageState}
    {package : Package} {platform : Cpe} :
    (∃ rule, StateRule.ofState? settings state = some rule ∧
        rule.settles package platform = true) ↔ state.Clears settings package platform := by
  have hof : ∀ rule, StateRule.ofState? settings state = some rule ↔
      ∃ entry name, platformOf? state.cpe = some entry ∧ state.package? = some name ∧
        state.fixState.any settings.isInapplicable = true ∧ (⟨name, entry⟩ : StateRule) = rule := by
    intro rule
    simp only [StateRule.ofState?, Option.bind_eq_bind, Option.bind_eq_some_iff,
      Option.ite_none_right_eq_some, Option.some.injEq, exists_and_left]
  constructor
  · rintro ⟨rule, hr, hs⟩
    obtain ⟨entry, name, he, hn, hi, rfl⟩ := (hof rule).mp hr
    simp only [StateRule.settles, Bool.and_eq_true, beq_iff_eq] at hs
    obtain ⟨rfl, hh⟩ := hs
    obtain ⟨hp, hne⟩ := nonempty?_eq_some_iff.mp hn
    exact ⟨hp, hne, (Option.any_eq_true _ _).mp hi, exists_holdsOn_iff.mp ⟨entry, he, hh⟩⟩
  · rintro ⟨hp, hne, hi, hfor⟩
    obtain ⟨entry, he, hh⟩ := exists_holdsOn_iff.mpr hfor
    refine ⟨⟨package.name, entry⟩, (hof _).mpr ⟨entry, package.name, he, ?_, ?_, rfl⟩, ?_⟩
    · exact nonempty?_eq_some_iff.mpr ⟨hp, hne⟩
    · exact (Option.any_eq_true _ _).mpr hi
    · simp [StateRule.settles, hh]

/-- A fix clears a package if it makes a rule that settles the matter. -/
theorem exists_fixRule_iff {fix : Fix} {package : Package} {platform : Cpe} :
    (∃ rule, FixRule.ofFix? fix = some rule ∧ rule.settles package platform = true) ↔
      fix.Clears package platform := by
  have hok : ∀ s p, (Package.parse s).toOption = some p ↔ Package.parse s = .ok p := by
    intro s p
    cases Package.parse s <;> simp [Except.toOption]
  have hof : ∀ rule, FixRule.ofFix? fix = some rule ↔
      ∃ entry s fixed, platformOf? fix.cpe = some entry ∧ fix.package? = some s ∧
        Package.parse s = .ok fixed ∧ (⟨fixed, entry⟩ : FixRule) = rule := by
    intro rule
    simp only [FixRule.ofFix?, Option.bind_eq_bind, Option.bind_eq_some_iff, Option.pure_def,
      Option.some.injEq, hok, exists_and_left]
  constructor
  · rintro ⟨rule, hr, hs⟩
    obtain ⟨entry, s, fixed, he, hsp, hp, rfl⟩ := (hof rule).mp hr
    simp only [FixRule.settles, Bool.and_eq_true, beq_iff_eq, bne_iff_ne] at hs
    obtain ⟨⟨⟨hname, harch⟩, hh⟩, hle⟩ := hs
    obtain ⟨hspec, hne⟩ := nonempty?_eq_some_iff.mp hsp
    exact ⟨fixed, ⟨s, hspec, hne, hp⟩, hname, archCompatible_iff.mp harch,
      exists_holdsOn_iff.mp ⟨entry, he, hh⟩, hle⟩
  · rintro ⟨fixed, ⟨s, hspec, hne, hp⟩, hname, harch, hfor, hle⟩
    obtain ⟨entry, he, hh⟩ := exists_holdsOn_iff.mpr hfor
    refine ⟨⟨fixed, entry⟩, (hof _).mpr ⟨entry, s, fixed, he, ?_, hp, rfl⟩, ?_⟩
    · exact nonempty?_eq_some_iff.mpr ⟨hspec, hne⟩
    · simp [FixRule.settles, hname, archCompatible_iff.mpr harch, hh, hle]

/-! ### The answer -/

/-- A checker says yes to an advisory exactly if an entry of an advisory of that name clears the
package. -/
theorem exists_clears_of_build {settings : Settings.Checker} {feed : Feed} {c : Checker}
    (h : build settings feed = .ok c) {package : Package} {platform : Cpe} {name : String} :
    c.check package platform name = true ↔
      ∃ a ∈ feed.advisories, a.name = name ∧
        ((∃ state ∈ a.states, state.Clears settings package platform) ∨
          ∃ fix ∈ a.fixes, fix.Clears package platform) := by
  simp only [exists_rule_of_build h, exists_stateRule_iff, exists_fixRule_iff]

/-- **A checker decides the declarative rule.** It says yes to an advisory exactly if some advisory
of that name has a statement or a fix that clears the package on the platform; so it says no to a
name that no advisory has. Nothing is asked of the package, which need not have been read from a
specifier, or of the feed, whose advisories may share their names. -/
theorem check_eq_true_iff {settings : Settings.Checker} {feed : Feed} {c : Checker}
    (h : build settings feed = .ok c) (package : Package) (platform : Cpe) (name : String) :
    (c.check package platform name = true ↔
      ∃ a ∈ feed.advisories, a.name = name ∧
        ((∃ state ∈ a.states, state.Clears settings package platform) ∨
          ∃ fix ∈ a.fixes, fix.Clears package platform)) ∧
      ((∀ a ∈ feed.advisories, a.name ≠ name) → c.check package platform name = false) := by
  refine ⟨exists_clears_of_build h, fun hnone => ?_⟩
  rw [Bool.eq_false_iff]
  intro hyes
  obtain ⟨a, ha, hn, -⟩ := (exists_clears_of_build h).mp hyes
  exact hnone a ha hn

/-- A feed with two advisories of one name: the first has a fix that cannot be read and one that
can, the second has a statement. -/
def sharedName : Feed where
  advisories :=
    [{ name := "CVE-2020-0001"
       fixes :=
        [{ specifier := some "garbage" },
          { specifier := some "bash-4.4-20.el8"
            cpe := some "cpe:/o:redhat:enterprise_linux:8" }] },
      { name := "CVE-2020-0001"
        states := [{ package := some "zsh", fixState := some " not affected" }] }]

/-- The platform of the fix in `Checker.sharedName`. -/
def host : Cpe :=
  { part := .operatingSystem, vendor := "redhat", product := "enterprise_linux", version := "8" }

/-- What is kept of `Checker.sharedName`. -/
def keptOfSharedName : Checker where
  rules :=
    [("CVE-2020-0001",
      { fixes := [⟨⟨"bash", none, "4.4", "20.el8", none⟩, some host⟩]
        states := [⟨"zsh", none⟩] })]
  ignored := [⟨"CVE-2020-0001", "garbage"⟩]

/-- The rule at work: a later build is cleared by the fix, another shell by the statement, and a
name that is not in the feed by nothing. -/
theorem check_sharedName :
    build { } sharedName = .ok keptOfSharedName ∧
      keptOfSharedName.check ⟨"bash", none, "4.4", "23.el8", some "x86_64"⟩ host "CVE-2020-0001" =
        true ∧
      keptOfSharedName.check ⟨"zsh", none, "5.5.1", "6.el8", none⟩ host "CVE-2020-0001" = true ∧
      keptOfSharedName.check ⟨"zsh", none, "5.5.1", "6.el8", none⟩ host "CVE-1999-0001" =
        false := by
  have hb : build { } sharedName = .ok keptOfSharedName := by decide +kernel
  have hp : Package.parse "bash-4.4-20.el8" = .ok ⟨"bash", none, "4.4", "20.el8", none⟩ := by
    decide +kernel
  have hd : Cpe.parse "cpe:/o:redhat:enterprise_linux:8" = .ok host := by decide +kernel
  refine ⟨hb, ?_, ?_, ?_⟩
  · refine (check_eq_true_iff hb _ host _).1.mpr ⟨_, List.mem_cons_self, rfl, Or.inr ?_⟩
    exact ⟨_, List.mem_cons_of_mem _ List.mem_cons_self, ⟨"bash", none, "4.4", "20.el8", none⟩,
      ⟨_, rfl, by decide, hp⟩, rfl, Or.inr (Or.inl rfl),
      Or.inr (Or.inr ⟨_, host, rfl, hd, by decide +kernel⟩), by decide +kernel⟩
  · refine (check_eq_true_iff hb _ host _).1.mpr
      ⟨_, List.mem_cons_of_mem _ List.mem_cons_self, rfl, Or.inl ?_⟩
    exact ⟨_, List.mem_cons_self, rfl, by decide, ⟨_, rfl, by decide +kernel⟩, Or.inl rfl⟩
  · exact (check_eq_true_iff hb _ host _).2 (by decide)

end Checker

end AdvisoryTriage
