import AdvisoryTriage.Proofs.Resolver.Failure

/-!
# Other packages do not interfere

An answer about a package depends on what the feed says about that package and on nothing else. To
say so, everything else is taken out of the feed (`Feed.about`): the fixes of other packages and
those without a specifier that can be read, the statements about other packages, and then the
advisories that are left without an entry. The answer stays what it was
(`Resolver.answer_about`), so entries about other packages can neither add to it nor hide or reorder
anything in it, as long as they do not keep the checker from being built.

The index and the checker are looked at one by one. An advisory is left with an entry exactly if it
mentions the package (`Advisory.about_ne_nil_iff`), so what is taken out was not in the bucket. An
entry that clears the package is about it and stays (`Checker.check_about`), although it may
well stand in another advisory of the same name than the one that is asked about.
-/

namespace AdvisoryTriage

/-! ### The part of a feed that is about a package -/

/-- The base name of the build that a fix was released as, if it has a specifier that can be read.
-/
def Fix.baseName? (fix : Fix) : Option String :=
  fix.package?.bind (Advisory.baseName? Package.parse)

/-- An advisory with only its entries about a package. -/
def Advisory.about (name : String) (a : Advisory) : Advisory :=
  { a with
    fixes := a.fixes.filter fun fix => fix.baseName? = some name
    states := a.states.filter fun state => state.package = some name }

/-- **The part of a feed about a package**: the entries about it, in the advisories that have any.
-/
def Feed.about (feed : Feed) (name : String) : Feed :=
  ⟨(feed.advisories.map (Advisory.about name)).filter fun a => a.fixes ≠ [] ∨ a.states ≠ []⟩

theorem Fix.baseName?_eq_some_iff {fix : Fix} {name : String} :
    fix.baseName? = some name ↔ ∃ specifier package, fix.package? = some specifier ∧
      Package.parse specifier = .ok package ∧ package.name = name := by
  simp only [Fix.baseName?, Option.bind_eq_some_iff, Advisory.baseName?_eq_some_iff,
    exists_and_left]

namespace Advisory

variable {a : Advisory} {name : String}

@[simp] theorem name_about : (a.about name).name = a.name := rfl

theorem mem_fixes_about {fix : Fix} :
    fix ∈ (a.about name).fixes ↔ fix ∈ a.fixes ∧ fix.baseName? = some name := by
  simp [about]

theorem mem_states_about {state : PackageState} :
    state ∈ (a.about name).states ↔ state ∈ a.states ∧ state.package = some name := by
  simp [about]

theorem mentionsName_iff_baseName? (hname : name ≠ "") :
    a.MentionsName Package.parse name ↔
      (∃ fix ∈ a.fixes, fix.baseName? = some name) ∨
        ∃ state ∈ a.states, state.package = some name := by
  simp only [MentionsName, Fix.baseName?_eq_some_iff, PackageState.package?, nonempty?_eq_some_iff,
    hname, ne_eq, not_false_eq_true, and_true]

/-- What an advisory says about a package mentions it if the advisory does. -/
theorem mentionsName_about_iff (hname : name ≠ "") :
    (a.about name).MentionsName Package.parse name ↔ a.MentionsName Package.parse name := by
  simp only [mentionsName_iff_baseName? hname, mem_fixes_about, mem_states_about, and_assoc,
    and_self]

/-- An advisory has an entry about a package exactly if it mentions it. -/
theorem about_ne_nil_iff (hname : name ≠ "") :
    ((a.about name).fixes ≠ [] ∨ (a.about name).states ≠ []) ↔
      a.MentionsName Package.parse name := by
  simp only [mentionsName_iff_baseName? hname, about, ne_eq, List.filter_eq_nil_iff,
    decide_eq_true_eq, not_forall, not_not, exists_prop]

end Advisory

namespace Feed

variable {feed : Feed} {name : String}

theorem mem_about_iff (hname : name ≠ "") {b : Advisory} :
    b ∈ (feed.about name).advisories ↔
      ∃ a ∈ feed.advisories, a.MentionsName Package.parse name ∧ a.about name = b := by
  simp only [Feed.about, List.mem_filter, List.mem_map, decide_eq_true_eq]
  constructor
  · rintro ⟨⟨a, ha, rfl⟩, hb⟩
    exact ⟨a, ha, (Advisory.about_ne_nil_iff hname).mp hb, rfl⟩
  · rintro ⟨a, ha, hm, rfl⟩
    exact ⟨⟨a, ha, rfl⟩, (Advisory.about_ne_nil_iff hname).mpr hm⟩

/-- Taking entries out of a feed writes no platform. -/
theorem writtenPlatforms_about_subset (hname : name ≠ "") :
    (feed.about name).writtenPlatforms ⊆ feed.writtenPlatforms := by
  intro w hw
  obtain ⟨b, hb, hw⟩ := List.mem_flatMap.mp hw
  obtain ⟨a, ha, -, rfl⟩ := (mem_about_iff hname).mp hb
  refine List.mem_flatMap.mpr ⟨a, ha, ?_⟩
  simp only [Advisory.writtenPlatforms, List.mem_map, List.mem_append] at hw ⊢
  obtain ⟨cpe, ⟨fix, hf, rfl⟩ | ⟨state, hs, rfl⟩, rfl⟩ := hw
  · exact ⟨_, Or.inl ⟨fix, (Advisory.mem_fixes_about.mp hf).1, rfl⟩, rfl⟩
  · exact ⟨_, Or.inr ⟨state, (Advisory.mem_states_about.mp hs).1, rfl⟩, rfl⟩

end Feed

/-! ### The checker -/

namespace Checker

variable {settings : Settings.Checker} {feed : Feed} {c c' : Checker}

/-- The entries that clear a package are about it, so a checker says the same over the part of the
feed that is about the package. -/
theorem check_about {package : Package} (hname : package.name ≠ "")
    (hc : build settings feed = .ok c) (hc' : build settings (feed.about package.name) = .ok c')
    (platform : Cpe) (name : String) :
    c'.check package platform name = c.check package platform name := by
  rw [Bool.eq_iff_iff, exists_clears_of_build hc, exists_clears_of_build hc']
  constructor
  · rintro ⟨b, hb, rfl, hclears⟩
    obtain ⟨a, ha, -, rfl⟩ := (Feed.mem_about_iff hname).mp hb
    refine ⟨a, ha, rfl, ?_⟩
    rcases hclears with ⟨state, hs, hclears⟩ | ⟨fix, hf, hclears⟩
    · exact Or.inl ⟨state, (Advisory.mem_states_about.mp hs).1, hclears⟩
    · exact Or.inr ⟨fix, (Advisory.mem_fixes_about.mp hf).1, hclears⟩
  · rintro ⟨a, ha, rfl, ⟨state, hs, hclears⟩ | ⟨fix, hf, hclears⟩⟩
    · have hm := mentionsName_of_clears hs hclears
      refine ⟨_, (Feed.mem_about_iff hname).mpr ⟨a, ha, hm, rfl⟩, rfl, Or.inl ⟨state, ?_, hclears⟩⟩
      exact Advisory.mem_states_about.mpr ⟨hs, hclears.about⟩
    · have hm := mentionsName_of_fix_clears hf hclears
      refine ⟨_, (Feed.mem_about_iff hname).mpr ⟨a, ha, hm, rfl⟩, rfl, Or.inr ⟨fix, ?_, hclears⟩⟩
      obtain ⟨fixed, ⟨s, hs, hne, hp⟩, hfixed, -⟩ := hclears
      exact Advisory.mem_fixes_about.mpr ⟨hf, Fix.baseName?_eq_some_iff.mpr
        ⟨s, fixed, nonempty?_eq_some_iff.mpr ⟨hs, hne⟩, hp, hfixed⟩⟩

end Checker

/-! ### The answer -/

namespace Resolver

variable {feed : Feed} {settings : Settings} {sink : Sink} {distro specifier : String} {c : Checker}
  {package : Package}

/-- What is accepted of the part about a package is what is accepted of the feed, as far as it is
about the package. -/
theorem accepted_about {c' : Checker} (hname : package.name ≠ "")
    (hc : Checker.build settings.checker feed = .ok c)
    (hc' : Checker.build settings.checker (feed.about package.name) = .ok c') (platform : Cpe) :
    (stock (feed.about package.name) settings sink).accepted c'.check package platform =
      ((stock feed settings sink).accepted c.check package platform).map
        (Advisory.about package.name) := by
  simp only [accepted, stock, ofSettings, Feed.about, List.filter_filter, List.filter_map]
  refine congrArg _ (List.filter_congr fun a _ => ?_)
  simp only [Function.comp, Advisory.about_ne_nil_iff hname, Advisory.name_about,
    Advisory.mentionsName_about_iff hname, Checker.check_about hname hc hc']
  by_cases hm : a.MentionsName Package.parse package.name <;> simp [hm]

/-- The part of a feed about a package has the answer of the feed: the list of the same names or, if
the platform cannot be read, the same error. -/
theorem answer_about_eq (hc : Checker.build settings.checker feed = .ok c)
    (hp : Package.parse specifier = .ok package) :
    ((stock (feed.about package.name) settings sink).resolve ⟨distro, specifier⟩).answer =
      ((stock feed settings sink).resolve ⟨distro, specifier⟩).answer := by
  have hname : package.name ≠ "" := Package.name_ne_of_parse hp
  obtain ⟨c', hc'⟩ := Checker.exists_build_of_subset hc (Feed.writtenPlatforms_about_subset hname)
  cases hd : Cpe.parse distro with
  | error e => rw [(Answers.badPlatform hd).eq, (Answers.badPlatform hd).eq]
  | ok platform =>
    rw [answer_stock hd hp hc, answer_stock hd hp hc', accepted_about hname hc hc', List.map_map]
    rfl

/-- **Other packages do not interfere.** If a checker can be built over a feed, then the part of the
feed about a package has the same answer for a build of that package as the whole feed, namely a
list as soon as the platform can be read. So two feeds with the same part about a package have the
same answers about it, whatever else they hold. -/
theorem answer_about (hc : Checker.build settings.checker feed = .ok c)
    (hp : Package.parse specifier = .ok package) (distro : String) :
    ((stock (feed.about package.name) settings sink).resolve ⟨distro, specifier⟩).answer =
        ((stock feed settings sink).resolve ⟨distro, specifier⟩).answer ∧
      (∀ platform, Cpe.parse distro = .ok platform →
        ∃ names, ((stock (feed.about package.name) settings sink).resolve
            ⟨distro, specifier⟩).answer = .ok names ∧
          ((stock feed settings sink).resolve ⟨distro, specifier⟩).answer = .ok names) ∧
      ∀ feed' c', Checker.build settings.checker feed' = .ok c' →
        feed'.about package.name = feed.about package.name →
        ((stock feed' settings sink).resolve ⟨distro, specifier⟩).answer =
          ((stock feed settings sink).resolve ⟨distro, specifier⟩).answer := by
  have habout : ((stock (feed.about package.name) settings sink).resolve
      ⟨distro, specifier⟩).answer =
      ((stock feed settings sink).resolve ⟨distro, specifier⟩).answer := answer_about_eq hc hp
  refine ⟨habout, fun platform hd => ?_, fun feed' c' hc' hsame => ?_⟩
  · exact ⟨_, habout.trans (answer_stock hd hp hc), answer_stock hd hp hc⟩
  · rw [← answer_about_eq hc' hp, hsame, habout]

/-- A feed about shells. It has a fix that cannot be read, entries about another shell in every
place, and two advisories of one name, each with an entry about `bash`. -/
def busy : Feed where
  advisories :=
    [{ name := "CVE-2020-0007"
       fixes :=
        [{ specifier := some "garbage" }, { specifier := some "zsh-5.5.1-6.el8" },
          { specifier := some "bash-4.4-20.el8" }]
       states := [{ package := some "zsh", fixState := some "Not affected" }] },
      { name := "CVE-2020-0008"
        states := [{ package := some "zsh", fixState := some "Not affected" }] },
      { name := "CVE-2020-0007"
        states := [{ package := some "bash", fixState := some "Affected" }] },
      { name := "CVE-2020-0009"
        states :=
          [{ fixState := some "Not affected" },
            { package := some "bash", fixState := some "Not affected" }] }]

/-- A feed that says the same about `bash` and nothing about the other shell. -/
def quiet : Feed where
  advisories :=
    [{ name := "CVE-2020-0007", fixes := [{ specifier := some "bash-4.4-20.el8" }] },
      { name := "CVE-2020-0007"
        states := [{ package := some "bash", fixState := some "Affected" }] },
      { name := "CVE-2020-0010" },
      { name := "CVE-2020-0009"
        states := [{ package := some "bash", fixState := some "Not affected" }] }]

/-- Both feeds have the same part about `bash`, and the same answer: the second advisory of the
repeated name is listed because of the fix of the first. -/
theorem answer_about_bash :
    busy.about "bash" = quiet.about "bash" ∧ (busy.about "bash").advisories.length = 3 ∧
      ((stock busy { } .report).resolve
          ⟨"cpe:/o:redhat:enterprise_linux:8", "bash-4.4-23.el8"⟩).answer =
        .ok ["CVE-2020-0007", "CVE-2020-0007", "CVE-2020-0009"] ∧
      ((stock quiet { } .report).resolve
          ⟨"cpe:/o:redhat:enterprise_linux:8", "bash-4.4-23.el8"⟩).answer =
        .ok ["CVE-2020-0007", "CVE-2020-0007", "CVE-2020-0009"] := by
  have hsame : busy.about "bash" = quiet.about "bash" := by decide +kernel
  have hbusy : faultOf Checker.Stopped.cause (Checker.build (Settings.checker { }) busy) =
      none := by decide +kernel
  have hquiet : faultOf Checker.Stopped.cause (Checker.build (Settings.checker { }) quiet) =
      none := by decide +kernel
  obtain ⟨c, hc⟩ := faultOf_eq_none_iff.mp hbusy
  obtain ⟨c', hc'⟩ := faultOf_eq_none_iff.mp hquiet
  have hp : Package.parse "bash-4.4-23.el8" = .ok ⟨"bash", none, "4.4", "23.el8", none⟩ := by
    decide +kernel
  have hpart : ((stock (busy.about "bash") { } .report).resolve
      ⟨"cpe:/o:redhat:enterprise_linux:8", "bash-4.4-23.el8"⟩).answer =
      .ok ["CVE-2020-0007", "CVE-2020-0007", "CVE-2020-0009"] := by decide +kernel
  obtain ⟨habout, -, hother⟩ := answer_about hc hp "cpe:/o:redhat:enterprise_linux:8"
  refine ⟨hsame, by decide +kernel, habout.symm.trans hpart, ?_⟩
  exact (hother quiet c' hc' hsame.symm).trans (habout.symm.trans hpart)

end Resolver

end AdvisoryTriage
