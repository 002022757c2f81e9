import AdvisoryTriage.Proofs.Resolver.FullScan

/-!
# A fixed build is recognised as fixed

A fix says of a build that an advisory does not apply to it. Asked about that very build, in the
words of the feed and on the platform of the fix, a resolver of the default parts should list the
advisory, and this file shows that it does (`Resolver.mem_answer_of_fix`).

Three readers of the feed have to agree for that. The query reads the specifier and the platform,
the index files the advisory under the name in the specifier, and the checker keeps the build and
the platform as a rule under the name of the advisory. They agree since all of them read with the
same parsers; what is left is that a rule settles its own case (`Fix.clears_self`): a build is not
below itself, its architecture goes together with itself, and a platform covers itself
(`Cpe.covers_self`).

That the platform of the query can be read is no assumption, for a checker could not be built
otherwise (`Checker.exists_platform_of_build`).
-/

namespace AdvisoryTriage

/-- **A fix clears the build it was released as**, on every platform it is for. -/
theorem Fix.clears_self {fix : Fix} {specifier : String} {package : Package} {platform : Cpe}
    (hs : fix.specifier = some specifier) (hp : Package.parse specifier = .ok package)
    (hfor : Checker.IsFor fix.cpe platform) : fix.Clears package platform := by
  have hne : specifier ≠ "" := by
    rintro rfl
    cases hp
  have hself : package.compareBuilds package = .eq := Std.ReflCmp.compare_self
  refine ⟨package, ⟨specifier, hs, hne, hp⟩, rfl, Or.inl rfl, hfor, ?_⟩
  rw [hself]
  decide

namespace Checker

variable {settings : Settings.Checker} {feed : Feed} {c : Checker}

theorem check_of_fix_clears (hc : build settings feed = .ok c) {a : Advisory}
    (ha : a ∈ feed.advisories) {fix : Fix} (hf : fix ∈ a.fixes) {package : Package}
    {platform : Cpe} (h : fix.Clears package platform) :
    c.check package platform a.name = true :=
  (exists_rule_of_build hc package platform a.name).mpr
    ⟨a, ha, rfl, Or.inr ⟨fix, hf, exists_fixRule_iff.mpr h⟩⟩

/-- The platform of a fix that has one can be read if a checker was built, and the fix is for that
platform. -/
theorem exists_isFor_of_build (hc : build settings feed = .ok c) {a : Advisory}
    (ha : a ∈ feed.advisories) {fix : Fix} (hf : fix ∈ a.fixes) {cpe : String}
    (hcpe : fix.cpe = some cpe) (hne : cpe ≠ "") :
    ∃ platform, Cpe.parse cpe = .ok platform ∧ IsFor fix.cpe platform := by
  obtain ⟨entry, he⟩ := exists_platform_of_build hc ha hf
  rw [platform?, nonempty?_eq_some_iff.mpr ⟨hcpe, hne⟩] at he
  cases hd : Cpe.parse cpe with
  | error e =>
    -- building would have stopped at this fix
    simp [hd] at he
  | ok platform =>
    exact ⟨platform, rfl, Or.inr (Or.inr ⟨cpe, platform, hcpe, hd, platform.covers_self⟩)⟩

end Checker

namespace Resolver

variable {feed : Feed} {settings : Settings} {sink : Sink} {c : Checker}

/-- An advisory with a fix that clears the package is in the answer. -/
theorem mem_answer_of_clears (hc : Checker.build settings.checker feed = .ok c) {a : Advisory}
    (ha : a ∈ feed.advisories) {fix : Fix} (hf : fix ∈ a.fixes) {distro specifier : String}
    {package : Package} {platform : Cpe} (hd : Cpe.parse distro = .ok platform)
    (hp : Package.parse specifier = .ok package) (h : fix.Clears package platform) :
    ∃ names, ((stock feed settings sink).resolve ⟨distro, specifier⟩).answer = .ok names ∧
      a.name ∈ names := by
  refine ⟨_, answer_stock hd hp hc, List.mem_map_of_mem (mem_accepted_stock_iff.mpr ⟨ha, ?_, ?_⟩)⟩
  · exact Checker.mentionsName_of_fix_clears hf h
  · exact Checker.check_of_fix_clears hc ha hf h

/-- **A fixed build is recognised as fixed on its own platform.** Over a feed that a checker can be
built of, take any fix whose specifier can be read and ask about that specifier: on the platform of
the fix, if it has one, and otherwise on every platform that can be read, there is an answer and the
advisory of the fix is in it. -/
theorem mem_answer_of_fix (hc : Checker.build settings.checker feed = .ok c) {a : Advisory}
    (ha : a ∈ feed.advisories) {fix : Fix} (hf : fix ∈ a.fixes) {specifier : String}
    {package : Package} (hs : fix.specifier = some specifier)
    (hp : Package.parse specifier = .ok package) :
    (∀ cpe, fix.cpe = some cpe → cpe ≠ "" →
      ∃ names, ((stock feed settings sink).resolve ⟨cpe, specifier⟩).answer = .ok names ∧
        a.name ∈ names) ∧
      (fix.cpe = none ∨ fix.cpe = some "" →
        ∀ distro platform, Cpe.parse distro = .ok platform →
          ∃ names, ((stock feed settings sink).resolve ⟨distro, specifier⟩).answer = .ok names ∧
            a.name ∈ names) := by
  constructor
  · intro cpe hcpe hne
    obtain ⟨platform, hd, hfor⟩ := Checker.exists_isFor_of_build hc ha hf hcpe hne
    exact mem_answer_of_clears hc ha hf hd hp (Fix.clears_self hs hp hfor)
  · intro hcpe distro platform hd
    have hfor : Checker.IsFor fix.cpe platform := hcpe.imp_right Or.inl
    exact mem_answer_of_clears hc ha hf hd hp (Fix.clears_self hs hp hfor)

/-- A fix of a source package, for a platform with a quoted character, a capital outside ASCII, an
asterisk and a dash in its name. -/
def kernelFix : Fix where
  specifier := some " 1:kernel-4.18.0-80.el8.src"
  cpe := some "cpe:2.3:o:r%26d:ÉDITION_*:-"

/-- A fix in a pre-release, for all platforms. -/
def zshFix : Fix where
  specifier := some "zsh-5.5~rc1-6.el8"

/-- An advisory with these two fixes. -/
def twoFixes : Advisory where
  name := "CVE-2020-0004"
  fixes := [kernelFix, zshFix]

/-- What a checker keeps of a feed with `Resolver.twoFixes`. -/
def keptOfTwoFixes : Checker where
  rules :=
    [("CVE-2020-0004",
      { fixes :=
          [⟨⟨"kernel", some 1, "4.18.0", "80.el8", some "src"⟩,
              some { part := .operatingSystem, vendor := "r&d", product := "ÉDITION_*",
                     version := "-" }⟩,
            ⟨⟨"zsh", none, "5.5~rc1", "6.el8", none⟩, none⟩] })]

/-- Asked about either of the two builds as the feed writes it, a resolver lists the advisory: for
the first on its own platform, for the second on any. -/
theorem mem_answer_twoFixes :
    Checker.build (Settings.checker { }) ⟨[twoFixes]⟩ = .ok keptOfTwoFixes ∧
      (∃ names, ((stock ⟨[twoFixes]⟩ { } .report).resolve
          ⟨"cpe:2.3:o:r%26d:ÉDITION_*:-", " 1:kernel-4.18.0-80.el8.src"⟩).answer = .ok names ∧
        twoFixes.name ∈ names) ∧
      ∃ names, ((stock ⟨[twoFixes]⟩ { } .report).resolve
          ⟨"cpe:/h:acme:router", "zsh-5.5~rc1-6.el8"⟩).answer = .ok names ∧
        twoFixes.name ∈ names := by
  have hc : Checker.build (Settings.checker { }) ⟨[twoFixes]⟩ = .ok keptOfTwoFixes := by
    decide +kernel
  have ha : twoFixes ∈ Feed.advisories ⟨[twoFixes]⟩ := List.mem_singleton_self twoFixes
  have hkernel : kernelFix ∈ twoFixes.fixes := List.mem_cons_self
  have hzsh : zshFix ∈ twoFixes.fixes := List.mem_cons_of_mem _ List.mem_cons_self
  have hpkernel : Package.parse " 1:kernel-4.18.0-80.el8.src" =
      .ok ⟨"kernel", some 1, "4.18.0", "80.el8", some "src"⟩ := by decide +kernel
  have hpzsh : Package.parse "zsh-5.5~rc1-6.el8" =
      .ok ⟨"zsh", none, "5.5~rc1", "6.el8", none⟩ := by decide +kernel
  have hd : Cpe.parse "cpe:/h:acme:router" =
      .ok { part := .hardware, vendor := "acme", product := "router" } := by decide +kernel
  refine ⟨hc, ?_, ?_⟩
  · exact (mem_answer_of_fix hc ha hkernel rfl hpkernel).1 _ rfl (by decide)
  · exact (mem_answer_of_fix hc ha hzsh rfl hpzsh).2 (Or.inl rfl) _ _ hd

end Resolver

end AdvisoryTriage
