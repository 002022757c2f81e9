import AdvisoryTriage.Proofs.Resolver.Failure
import Mathlib.Data.List.Forall2
import Mathlib.Logic.Relation

/-!
# Answers grow with the feed and the settings

Feeds grow: advisories are added, and advisories that are there get more entries, in any place. Here
a single insertion is a step (`Feed.Insertion`) and a feed grows by any number of them. However it
grows, and whatever statements are configured besides those that were, what was listed for a package
is listed still, in the same order (`Resolver.answer_grows`). New entries can therefore add to an
answer, and a malformed platform among them can take it away as a whole, but nothing else.

The steps are soon left behind. What they preserve together is that the old feed lies within the
new one (`Feed.Within`): its advisories are found there in their order, under their names, with all
their entries and perhaps more. Three things follow from that, one for each part that reads the
feed: the index still files an advisory where it did (`Advisory.Within.mentionsName`), the checker
still says yes where it did (`Checker.check_within`), and a checker that can be built over the new
feed can be built over the old one (`Feed.Within.writtenPlatforms_subset`).

The checker is asked about names, and an insertion may use a name a second time. That does no harm
since a reason to say yes is never taken back.
-/

namespace AdvisoryTriage

/-! ### Growing feeds -/

/-- **An entry is inserted into an advisory.** -/
inductive Advisory.Insertion : Advisory → Advisory → Prop
  /-- A fix, between those before it and those behind it. -/
  | fix (name : String) (earlier later : List Fix) (states : List PackageState) (fix : Fix) :
      Insertion ⟨name, earlier ++ later, states⟩ ⟨name, earlier ++ fix :: later, states⟩
  /-- A statement, between those before it and those behind it. -/
  | state (name : String) (fixes : List Fix) (earlier later : List PackageState)
      (state : PackageState) :
      Insertion ⟨name, fixes, earlier ++ later⟩ ⟨name, fixes, earlier ++ state :: later⟩

/-- **A single insertion into a feed.** -/
inductive Feed.Insertion : Feed → Feed → Prop
  /-- An advisory, between those before it and those behind it. -/
  | advisory (before after : List Advisory) (a : Advisory) :
      Insertion ⟨before ++ after⟩ ⟨before ++ a :: after⟩
  /-- An entry of an advisory that is there. -/
  | entry (before after : List Advisory) {a b : Advisory} (h : a.Insertion b) :
      Insertion ⟨before ++ a :: after⟩ ⟨before ++ b :: after⟩

/-- **An advisory lies within another** if it has its name and no entry that the other has not, in
the same order. -/
structure Advisory.Within (a b : Advisory) : Prop where
  name_eq : a.name = b.name
  fixes : a.fixes.Sublist b.fixes
  states : a.states.Sublist b.states

/-- **A feed lies within another** if its advisories lie within advisories of the other, in the same
order. -/
def Feed.Within (feed feed' : Feed) : Prop :=
  List.SublistForall₂ Advisory.Within feed.advisories feed'.advisories

namespace Advisory

variable {a b : Advisory}

instance : Std.Refl Advisory.Within where
  refl a := ⟨rfl, .refl a.fixes, .refl a.states⟩

instance : IsTrans Advisory Advisory.Within where
  trans _ _ _ h h' :=
    ⟨h.name_eq.trans h'.name_eq, h.fixes.trans h'.fixes, h.states.trans h'.states⟩

theorem Insertion.within (h : a.Insertion b) : a.Within b := by
  cases h with
  | fix name earlier later states fix =>
    exact ⟨rfl, (List.Sublist.refl earlier).append (List.sublist_cons_self fix later), .refl _⟩
  | state name fixes earlier later state =>
    exact ⟨rfl, .refl _, (List.Sublist.refl earlier).append (List.sublist_cons_self state later)⟩

/-- An advisory with more entries mentions what it mentioned. -/
theorem Within.mentionsName {parse : String → Except Package.ParseError Package} {name : String}
    (h : a.Within b) (hm : a.MentionsName parse name) : b.MentionsName parse name := by
  rcases hm with ⟨fix, hf, hfix⟩ | ⟨state, hs, hstate⟩
  · exact Or.inl ⟨fix, h.fixes.subset hf, hfix⟩
  · exact Or.inr ⟨state, h.states.subset hs, hstate⟩

theorem Within.writtenPlatforms_subset (h : a.Within b) :
    a.writtenPlatforms ⊆ b.writtenPlatforms := by
  rw [writtenPlatforms, writtenPlatforms, h.name_eq]
  exact List.map_subset _ (((h.fixes.map Fix.cpe).append (h.states.map PackageState.cpe)).subset)

end Advisory

/-! ### One list of advisories within another -/

section Lists

variable {as bs : List Advisory}

/-- What stands in front of two lists makes no difference to whether one lies within the other. -/
theorem within_append_left (h : as.SublistForall₂ Advisory.Within bs) (before : List Advisory) :
    (before ++ as).SublistForall₂ Advisory.Within (before ++ bs) := by
  induction before with
  | nil => exact h
  | cons a before ih => exact .cons (Std.Refl.refl a) ih

theorem exists_mem_of_within (h : as.SublistForall₂ Advisory.Within bs) {a : Advisory}
    (ha : a ∈ as) : ∃ b ∈ bs, a.Within b := by
  induction h with
  | nil => cases ha
  | cons hab _ ih =>
    rcases List.mem_cons.mp ha with rfl | ha
    · exact ⟨_, List.mem_cons_self, hab⟩
    · obtain ⟨b, hb, hw⟩ := ih ha
      exact ⟨b, List.mem_cons_of_mem _ hb, hw⟩
  | cons_right _ ih =>
    obtain ⟨b, hb, hw⟩ := ih ha
    exact ⟨b, List.mem_cons_of_mem _ hb, hw⟩

/-- What is chosen of a list is found by name, in its order, among what is chosen of a list that it
lies within, if the choice is kept from an advisory to those that it lies within. -/
theorem map_filter_sublist_of_within (h : as.SublistForall₂ Advisory.Within bs)
    {p q : Advisory → Bool} (hkeep : ∀ a b : Advisory, a.Within b → p a = true → q b = true) :
    ((as.filter p).map Advisory.name).Sublist ((bs.filter q).map Advisory.name) := by
  induction h with
  | nil => exact List.nil_sublist _
  | @cons a b _ _ hab _ ih =>
    by_cases hp : p a = true
    · rw [List.filter_cons_of_pos hp, List.filter_cons_of_pos (hkeep a b hab hp), List.map_cons,
        List.map_cons, hab.name_eq]
      exact ih.cons_cons _
    · rw [List.filter_cons_of_neg hp]
      exact ih.trans (((List.sublist_cons_self b _).filter q).map Advisory.name)
  | cons_right _ ih => exact ih.trans (((List.sublist_cons_self _ _).filter q).map Advisory.name)

end Lists

/-! ### One feed within another -/

namespace Feed

variable {feed feed' : Feed}

theorem Within.trans {feed'' : Feed} (h : feed.Within feed') (h' : feed'.Within feed'') :
    feed.Within feed'' := by
  have htrans : IsTrans (List Advisory) (List.SublistForall₂ Advisory.Within) := inferInstance
  exact htrans.trans _ _ _ h h'

theorem Insertion.within (h : feed.Insertion feed') : feed.Within feed' := by
  cases h with
  | advisory before after a =>
    exact within_append_left (.cons_right (Std.Refl.refl after)) before
  | entry before after h =>
    exact within_append_left (.cons h.within (Std.Refl.refl after)) before

/-- **A feed lies within what it grows to.** -/
theorem within_of_insertions (h : Relation.ReflTransGen Feed.Insertion feed feed') :
    feed.Within feed' := by
  induction h with
  | refl => exact Std.Refl.refl feed.advisories
  | tail _ hstep ih => exact ih.trans hstep.within

theorem Within.writtenPlatforms_subset (h : feed.Within feed') :
    feed.writtenPlatforms ⊆ feed'.writtenPlatforms := by
  intro w hw
  obtain ⟨a, ha, hw⟩ := List.mem_flatMap.mp hw
  obtain ⟨b, hb, hab⟩ := exists_mem_of_within h ha
  exact List.mem_flatMap.mpr ⟨b, hb, hab.writtenPlatforms_subset hw⟩

end Feed

/-! ### More configured statements -/

section Settings

variable {settings settings' : Settings.Checker}

theorem Settings.Checker.isInapplicable_mono
    (h : settings.inapplicableStates ⊆ settings'.inapplicableStates) {state : String}
    (hs : settings.isInapplicable state = true) : settings'.isInapplicable state = true := by
  rw [isInapplicable, List.any_eq_true] at hs ⊢
  obtain ⟨s, hmem, hsame⟩ := hs
  exact ⟨s, h hmem, hsame⟩

theorem PackageState.Clears.mono {state : PackageState} {package : Package} {platform : Cpe}
    (h : settings.inapplicableStates ⊆ settings'.inapplicableStates)
    (hclears : state.Clears settings package platform) :
    state.Clears settings' package platform := by
  obtain ⟨habout, hname, ⟨text, hstate, hi⟩, hfor⟩ := hclears
  exact ⟨habout, hname, ⟨text, hstate, Settings.Checker.isInapplicable_mono h hi⟩, hfor⟩

/-- **A checker says yes where the checker of a smaller feed does**, under settings with fewer
statements. -/
theorem Checker.check_within {feed feed' : Feed} {c c' : Checker} (hw : feed.Within feed')
    (hstates : settings.inapplicableStates ⊆ settings'.inapplicableStates)
    (hc : build settings feed = .ok c) (hc' : build settings' feed' = .ok c') {package : Package}
    {platform : Cpe} {name : String} (hyes : c.check package platform name = true) :
    c'.check package platform name = true := by
  obtain ⟨a, ha, rfl, hclears⟩ := (exists_clears_of_build hc).mp hyes
  obtain ⟨b, hb, hab⟩ := exists_mem_of_within hw ha
  refine (exists_clears_of_build hc').mpr ⟨b, hb, hab.name_eq.symm, ?_⟩
  rcases hclears with ⟨state, hs, hclears⟩ | ⟨fix, hf, hclears⟩
  · exact Or.inl ⟨state, hab.states.subset hs, hclears.mono hstates⟩
  · exact Or.inr ⟨fix, hab.fixes.subset hf, hclears⟩

end Settings

/-! ### The answer -/

namespace Resolver

variable {feed feed' : Feed} {settings settings' : Settings} {sink sink' : Sink}
  {distro specifier : String}

/-- **An answer grows with the feed and the settings.** Let a feed grow by any insertions and let
statements be added to the configured ones. Where there is an answer then, there was one before, and
the names listed before are listed then, in the same order. -/
theorem answer_grows (hgrow : Relation.ReflTransGen Feed.Insertion feed feed')
    (hstates : ∀ s ∈ settings.checker.inapplicableStates,
      s ∈ settings'.checker.inapplicableStates) {names' : List String}
    (h' : ((stock feed' settings' sink').resolve ⟨distro, specifier⟩).answer = .ok names') :
    ∃ names, ((stock feed settings sink).resolve ⟨distro, specifier⟩).answer = .ok names ∧
      names.Sublist names' := by
  have hw := Feed.within_of_insertions hgrow
  obtain ⟨platform, package, c', hd, hp, hc', rfl⟩ := exists_of_answer_stock h'
  obtain ⟨c, hc⟩ := Checker.exists_build_of_subset hc' hw.writtenPlatforms_subset
  refine ⟨_, answer_stock hd hp hc, map_filter_sublist_of_within hw fun a b hab ha => ?_⟩
  rw [decide_eq_true_eq] at ha ⊢
  refine ⟨hab.mentionsName ha.1, ?_⟩
  rw [← hab.name_eq]
  exact Checker.check_within hw hstates hc hc' ha.2

/-- A feed with two advisories about a shell. -/
def planted : Feed where
  advisories :=
    [{ name := "CVE-2020-0011", fixes := [{ specifier := some "bash-4.4-20.el8" }] },
      { name := "CVE-2020-0012"
        states := [{ package := some "bash", fixState := some "Will not fix" }] }]

/-- `Resolver.planted` with an advisory more in front, which uses a name again, and a fix more that
cannot be read. -/
def grown : Feed where
  advisories :=
    [{ name := "CVE-2020-0012"
       states := [{ package := some "bash", fixState := some "Affected" }] },
      { name := "CVE-2020-0011"
        fixes := [{ specifier := some "garbage" }, { specifier := some "bash-4.4-20.el8" }] },
      { name := "CVE-2020-0012"
        states := [{ package := some "bash", fixState := some "Will not fix" }] }]

/-- What is listed over the grown feed, with a statement more that counts, has what was listed
before in it. -/
theorem answer_grows_planted :
    Relation.ReflTransGen Feed.Insertion planted grown ∧
      ((stock grown (Settings.addInapplicableState { } "Will not fix") .collect).resolve
          ⟨"cpe:/o:redhat:enterprise_linux:8", "bash-4.4-23.el8"⟩).answer =
        .ok ["CVE-2020-0012", "CVE-2020-0011", "CVE-2020-0012"] ∧
      ∃ names, ((stock planted { } .report).resolve
          ⟨"cpe:/o:redhat:enterprise_linux:8", "bash-4.4-23.el8"⟩).answer = .ok names ∧
        names.Sublist ["CVE-2020-0012", "CVE-2020-0011", "CVE-2020-0012"] := by
  have hgrow : Relation.ReflTransGen Feed.Insertion planted grown :=
    .tail (.tail .refl (.advisory [] planted.advisories _)) (.entry [_] [_] (.fix _ [] _ _ _))
  have hanswer : ((stock grown (Settings.addInapplicableState { } "Will not fix") .collect).resolve
      ⟨"cpe:/o:redhat:enterprise_linux:8", "bash-4.4-23.el8"⟩).answer =
      .ok ["CVE-2020-0012", "CVE-2020-0011", "CVE-2020-0012"] := by decide +kernel
  have hstates : ∀ s ∈ (Settings.checker { }).inapplicableStates,
      s ∈ (Settings.addInapplicableState { } "Will not fix").checker.inapplicableStates :=
    fun s hs => List.mem_append_left _ hs
  exact ⟨hgrow, hanswer, answer_grows hgrow hstates hanswer⟩

end Resolver

end AdvisoryTriage
