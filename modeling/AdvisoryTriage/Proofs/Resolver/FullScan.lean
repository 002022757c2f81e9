import AdvisoryTriage.Proofs.Checker.Decision
import AdvisoryTriage.Proofs.Package.Order
import AdvisoryTriage.Proofs.Resolver.Answer

/-!
# The index loses nothing

With the parts that a resolver has by default, the index and the checker each read the feed for
themselves. The index files an advisory under the names of packages, the checker keeps what it says
under the name of the advisory, where advisories of one name are taken together. This file shows
that the two fit: asking only about the bucket of a package comes to the same as asking about every
advisory of the feed (`Resolver.answer_eq_fullScan`).

The link is that the rule which makes a checker say yes comes from an advisory that mentions the
package (`Checker.exists_mentionsName`). With repeated names this need not be the advisory that is
asked about, only one of its name; so in general the two answers agree as sets of names, and as
lists where the names are distinct.

The second result needs no index at all. A checker that accepts a build accepts every build of the
same name and architecture that is not below it (`Checker.check_mono`), so an answer only grows when
a package is upgraded (`Resolver.answer_mono`).
-/

namespace AdvisoryTriage

namespace Checker

/-! ### A rule comes from an advisory that mentions the package -/

theorem mentionsName_of_clears {settings : Settings.Checker} {a : Advisory} {state : PackageState}
    {package : Package} {platform : Cpe} (hs : state ∈ a.states)
    (h : state.Clears settings package platform) :
    a.MentionsName Package.parse package.name :=
  Or.inr ⟨state, hs, nonempty?_eq_some_iff.mpr ⟨h.about, h.name_ne⟩⟩

theorem mentionsName_of_fix_clears {a : Advisory} {fix : Fix} {package : Package} {platform : Cpe}
    (hf : fix ∈ a.fixes) (h : fix.Clears package platform) :
    a.MentionsName Package.parse package.name := by
  obtain ⟨fixed, ⟨s, hs, hne, hp⟩, hname, -, -, -⟩ := h
  exact Or.inl ⟨fix, hf, s, fixed, nonempty?_eq_some_iff.mpr ⟨hs, hne⟩, hp, hname⟩

/-- **A checker that says yes to a name** has its reason from an advisory of that name which
mentions the package. -/
theorem exists_mentionsName {settings : Settings.Checker} {feed : Feed} {c : Checker}
    (h : build settings feed = .ok c) {package : Package} {platform : Cpe} {name : String}
    (hyes : c.check package platform name = true) :
    ∃ a ∈ feed.advisories, a.name = name ∧ a.MentionsName Package.parse package.name := by
  obtain ⟨a, ha, hn, ⟨state, hs, hrule⟩ | ⟨fix, hf, hrule⟩⟩ :=
    (exists_rule_of_build h package platform name).mp hyes
  · exact ⟨a, ha, hn, mentionsName_of_clears hs (exists_stateRule_iff.mp hrule)⟩
  · exact ⟨a, ha, hn, mentionsName_of_fix_clears hf (exists_fixRule_iff.mp hrule)⟩

/-! ### A later build is cleared where an earlier one is -/

theorem StateRule.settles_congr (rule : StateRule) {p q : Package} (hname : p.name = q.name)
    (platform : Cpe) : rule.settles p platform = rule.settles q platform := by
  rw [settles, settles, hname]

theorem FixRule.settles_mono {rule : FixRule} {p q : Package} (hname : p.name = q.name)
    (harch : p.arch = q.arch) (hle : p.compareBuilds q ≠ .lt) {platform : Cpe}
    (h : rule.settles q platform = true) : rule.settles p platform = true := by
  have hcompat : archCompatible rule.package p = archCompatible rule.package q := by
    rw [archCompatible, archCompatible, harch]
  simp only [settles, Bool.and_eq_true, bne_iff_ne, hname, hcompat] at h ⊢
  exact ⟨h.1, Package.compareBuilds_ne_lt_trans hle h.2⟩

/-- **A checker that accepts a build** accepts every build of its name and architecture that is not
below it. -/
theorem check_mono (c : Checker) {p q : Package} (hname : p.name = q.name)
    (harch : p.arch = q.arch) (hle : p.compareBuilds q ≠ .lt) {platform : Cpe} {name : String}
    (h : c.check q platform name = true) : c.check p platform name = true := by
  rw [check_eq, Bool.or_eq_true, List.any_eq_true, List.any_eq_true] at h ⊢
  rcases h with ⟨rule, hr, hs⟩ | ⟨rule, hr, hs⟩
  · exact Or.inl ⟨rule, hr, by rw [rule.settles_congr hname, hs]⟩
  · exact Or.inr ⟨rule, hr, rule.settles_mono hname harch hle hs⟩

end Checker

namespace Resolver

/-! ### The default parts -/

/-- The resolver of the default parts over a feed, with settings and a sink. -/
def stock (feed : Feed) (settings : Settings) (sink : Sink) : Resolver :=
  { ofSettings feed settings with sink := sink }

variable {feed : Feed} {settings : Settings} {sink : Sink} {distro specifier : String}

/-- The oracle of the default factory is the checker of the feed. -/
theorem build_stock_eq_ok_iff {oracle : Oracle} :
    (stock feed settings sink).factory.build feed = .ok oracle ↔
      ∃ c, Checker.build settings.checker feed = .ok c ∧ c.check = oracle := by
  simp only [stock, ofSettings, Oracle.Factory.releaseFix]
  cases Checker.build settings.checker feed with
  | ok c => simp
  | error stopped => simp

/-- An answer of the default parts, with what was read and built on the way. -/
theorem exists_of_answer_stock {names : List String}
    (h : ((stock feed settings sink).resolve ⟨distro, specifier⟩).answer = .ok names) :
    ∃ platform package c, Cpe.parse distro = .ok platform ∧
      Package.parse specifier = .ok package ∧ Checker.build settings.checker feed = .ok c ∧
      names = ((stock feed settings sink).accepted c.check package platform).map Advisory.name := by
  have ha := answers_resolve (stock feed settings sink) distro specifier
  rw [h] at ha
  cases ha with
  | answered hd hp ho =>
    obtain ⟨c, hc, rfl⟩ := build_stock_eq_ok_iff.mp ho
    exact ⟨_, _, c, hd, hp, hc, rfl⟩

/-- The default parts answer once everything can be read and built. -/
theorem answer_stock {platform : Cpe} {package : Package} {c : Checker}
    (hd : Cpe.parse distro = .ok platform) (hp : Package.parse specifier = .ok package)
    (hc : Checker.build settings.checker feed = .ok c) :
    ((stock feed settings sink).resolve ⟨distro, specifier⟩).answer =
      .ok (((stock feed settings sink).accepted c.check package platform).map Advisory.name) :=
  Answers.eq (.answered hd hp (build_stock_eq_ok_iff.mpr ⟨c, hc, rfl⟩))

theorem mem_accepted_stock_iff {c : Checker} {package : Package} {platform : Cpe} {a : Advisory} :
    a ∈ (stock feed settings sink).accepted c.check package platform ↔
      a ∈ feed.advisories ∧ a.MentionsName Package.parse package.name ∧
        c.check package platform a.name = true := by
  rw [accepted, List.mem_filter, decide_eq_true_eq]
  rfl

/-! ### The bucket and the whole feed -/

/-- With distinct names, the advisories that the checker accepts are in the bucket. -/
theorem accepted_stock_eq_filter {c : Checker} {package : Package} {platform : Cpe}
    (hc : Checker.build settings.checker feed = .ok c)
    (hnames : (feed.advisories.map Advisory.name).Nodup) :
    (stock feed settings sink).accepted c.check package platform =
      feed.advisories.filter fun a => c.check package platform a.name := by
  refine List.filter_congr fun a ha => ?_
  by_cases hyes : c.check package platform a.name = true
  · obtain ⟨b, hb, hn, hm⟩ := Checker.exists_mentionsName hc hyes
    obtain rfl : b = a := List.inj_on_of_nodup_map hnames hb ha hn
    simp only [hyes, and_true, decide_eq_true_eq]
    exact hm
  · simp [hyes]

/-- **Asking about the bucket of a package is asking about the whole feed.** Where there is an
answer, a name is in it exactly if some advisory has it and the checker of the feed accepts it; and
if no two advisories share a name, the answer is the list of the advisories of the feed that the
checker accepts, in their order. -/
theorem answer_eq_fullScan {names : List String}
    (h : ((stock feed settings sink).resolve ⟨distro, specifier⟩).answer = .ok names) :
    ∃ platform package c, Cpe.parse distro = .ok platform ∧
      Package.parse specifier = .ok package ∧ Checker.build settings.checker feed = .ok c ∧
      (∀ name, name ∈ names ↔
        (∃ a ∈ feed.advisories, a.name = name) ∧ c.check package platform name = true) ∧
      ((feed.advisories.map Advisory.name).Nodup →
        names = (feed.advisories.filter fun a => c.check package platform a.name).map
          Advisory.name ∧ names.Nodup) := by
  obtain ⟨platform, package, c, hd, hp, hc, rfl⟩ := exists_of_answer_stock h
  refine ⟨platform, package, c, hd, hp, hc, fun name => ?_, fun hnames => ?_⟩
  · rw [List.mem_map]
    constructor
    · rintro ⟨a, ha, rfl⟩
      obtain ⟨ha, -, hyes⟩ := mem_accepted_stock_iff.mp ha
      exact ⟨⟨a, ha, rfl⟩, hyes⟩
    · rintro ⟨-, hyes⟩
      obtain ⟨a, ha, rfl, hm⟩ := Checker.exists_mentionsName hc hyes
      exact ⟨a, mem_accepted_stock_iff.mpr ⟨ha, hm, hyes⟩, rfl⟩
  · rw [accepted_stock_eq_filter hc hnames]
    exact ⟨rfl, (List.filter_sublist.map _).nodup hnames⟩

/-- A feed about two shells, with a fix that cannot be read. -/
def shells : Feed where
  advisories :=
    [{ name := "CVE-2020-0001"
       fixes :=
        [{ specifier := some "garbage" },
          { specifier := some "bash-4.4-20.el8"
            cpe := some "cpe:/o:redhat:enterprise_linux:8" }] },
      { name := "CVE-2020-0002"
        states := [{ package := some "zsh", fixState := some "Not affected" }] },
      { name := "CVE-2020-0003"
        states := [{ package := some "bash", fixState := some " not affected" }] }]

/-- An installed shell has two of the three advisories, and these are what the checker accepts of
the whole feed. -/
theorem fullScan_shells :
    ((stock shells { } .collect).resolve
        ⟨"cpe:/o:redhat:enterprise_linux:8", "bash-4.4-23.el8.x86_64"⟩).answer =
      .ok ["CVE-2020-0001", "CVE-2020-0003"] ∧
      ∃ platform package c, Cpe.parse "cpe:/o:redhat:enterprise_linux:8" = .ok platform ∧
        Package.parse "bash-4.4-23.el8.x86_64" = .ok package ∧ Checker.build { } shells = .ok c ∧
        c.check package platform "CVE-2020-0002" = false ∧
        ["CVE-2020-0001", "CVE-2020-0003"] =
          (shells.advisories.filter fun a => c.check package platform a.name).map
            Advisory.name := by
  have h : ((stock shells { } .collect).resolve
      ⟨"cpe:/o:redhat:enterprise_linux:8", "bash-4.4-23.el8.x86_64"⟩).answer =
      .ok ["CVE-2020-0001", "CVE-2020-0003"] := by decide +kernel
  obtain ⟨platform, package, c, hd, hp, hc, hmem, hlist⟩ := answer_eq_fullScan h
  refine ⟨h, platform, package, c, hd, hp, hc, ?_, (hlist (by decide)).1⟩
  rw [Bool.eq_false_iff]
  intro hyes
  have := (hmem "CVE-2020-0002").mpr ⟨⟨_, List.mem_cons_of_mem _ List.mem_cons_self, rfl⟩, hyes⟩
  simp at this

/-! ### Upgrades -/

/-- What is accepted of a feed for a build is accepted for one that is not below it. -/
theorem accepted_stock_sublist {c : Checker} {p q : Package} (hname : p.name = q.name)
    (harch : p.arch = q.arch) (hle : p.compareBuilds q ≠ .lt) (platform : Cpe) :
    ((stock feed settings sink).accepted c.check q platform).Sublist
      ((stock feed settings sink).accepted c.check p platform) := by
  refine List.monotone_filter_right _ fun a ha => ?_
  simp only [decide_eq_true_eq, hname] at ha ⊢
  exact ⟨ha.1, c.check_mono hname harch hle ha.2⟩

/-- What is accepted is the same for builds that compare equal. -/
theorem accepted_stock_eq {c : Checker} {p q : Package} (hname : p.name = q.name)
    (harch : p.arch = q.arch) (heq : p.compareBuilds q = .eq) (platform : Cpe) :
    (stock feed settings sink).accepted c.check p platform =
      (stock feed settings sink).accepted c.check q platform := by
  have hle : p.compareBuilds q ≠ .lt := by
    rw [heq]
    decide
  have hge : q.compareBuilds p ≠ .lt := by
    rw [Std.OrientedCmp.eq_comm.mp heq]
    decide
  exact (accepted_stock_sublist hname.symm harch.symm hge platform).antisymm
    (accepted_stock_sublist hname harch hle platform)

/-- **An upgrade never takes an advisory out of an answer.** If one build has the name and the
architecture of another and is not below it, then what is listed for the other is listed for it, in
the same order; and two builds that compare equal, however their versions are spelled, have the same
answers and the same errors. -/
theorem answer_mono {older newer : String} {p q : Package} (hq : Package.parse older = .ok q)
    (hp : Package.parse newer = .ok p) (hname : p.name = q.name) (harch : p.arch = q.arch)
    (hle : p.compareBuilds q ≠ .lt) :
    (∀ names, ((stock feed settings sink).resolve ⟨distro, older⟩).answer = .ok names →
      ∃ names', ((stock feed settings sink).resolve ⟨distro, newer⟩).answer = .ok names' ∧
        names.Sublist names') ∧
      (p.compareBuilds q = .eq →
        ((stock feed settings sink).resolve ⟨distro, newer⟩).answer =
          ((stock feed settings sink).resolve ⟨distro, older⟩).answer) := by
  constructor
  · intro names h
    obtain ⟨platform, q', c, hd, hq', hc, rfl⟩ := exists_of_answer_stock h
    obtain rfl : q = q' := Except.ok.inj (hq.symm.trans hq')
    exact ⟨_, answer_stock hd hp hc, (accepted_stock_sublist hname harch hle platform).map _⟩
  · intro heq
    refine Answers.eq ?_
    have ha := answers_resolve (stock feed settings sink) distro older
    generalize ((stock feed settings sink).resolve ⟨distro, older⟩).answer = x at ha
    -- the two queries end in the same way, since only the packages they read differ
    cases ha with
    | badPlatform hd => exact .badPlatform hd
    | badPackage hd he => exact absurd (he.symm.trans hq) (by simp)
    | noOracle hd _ ho => exact .noOracle hd hp ho
    | otherError hd _ ho hne => exact .otherError hd hp ho hne
    | @answered platform q' _ hd hq' ho =>
      obtain rfl : q' = q := Except.ok.inj (hq'.symm.trans hq)
      obtain ⟨c, hc, rfl⟩ := build_stock_eq_ok_iff.mp ho
      rw [← accepted_stock_eq hname harch heq]
      exact .answered hd hp ho

/-- Two upgrades of a shell: a later release, and a version spelled with other zeros and dots. -/
theorem answer_mono_shells :
    (∃ names, ((stock shells { } .report).resolve
        ⟨"cpe:/o:redhat:enterprise_linux:8", "bash-4.4-23.el8"⟩).answer = .ok names ∧
      ["CVE-2020-0001", "CVE-2020-0003"].Sublist names) ∧
      ((stock shells { } .report).resolve
        ⟨"cpe:/o:redhat:enterprise_linux:8", "bash-0:4..04-020.el8"⟩).answer =
        .ok ["CVE-2020-0001", "CVE-2020-0003"] := by
  have hold : ((stock shells { } .report).resolve
      ⟨"cpe:/o:redhat:enterprise_linux:8", "bash-4.4-20.el8"⟩).answer =
      .ok ["CVE-2020-0001", "CVE-2020-0003"] := by decide +kernel
  have hq : Package.parse "bash-4.4-20.el8" = .ok ⟨"bash", none, "4.4", "20.el8", none⟩ := by
    decide +kernel
  have hp : Package.parse "bash-4.4-23.el8" = .ok ⟨"bash", none, "4.4", "23.el8", none⟩ := by
    decide +kernel
  have hs : Package.parse "bash-0:4..04-020.el8" =
      .ok ⟨"bash", some 0, "4..04", "020.el8", none⟩ := by decide +kernel
  constructor
  · exact (answer_mono hq hp rfl rfl (by decide +kernel)).1 _ hold
  · rw [(answer_mono hq hs rfl rfl (by decide +kernel)).2 (by decide +kernel), hold]

end Resolver

end AdvisoryTriage
