import AdvisoryTriage.Proofs.Checker.Decision
import AdvisoryTriage.Proofs.Text.LowerCase
import AdvisoryTriage.Settings.Reader

/-!
# Which configured statements are honoured

Vendors write one statement in several ways: with blanks around it, or in other letter case. A
configured statement should count however it is written, and so clear the package it is about
wherever it stands in a feed. Here is when it does (`Settings.honours_configured`).

The two sides are not treated alike. From a statement of the feed the blanks are taken off, from a
configured one they are not. So one that is configured with blanks around it is compared with texts
that have none, and never met. What the environment configures has its blanks taken off when it is
read, and what a document or a single change configures is kept as it is.

Letter case is disregarded in the letters of ASCII only, and these are not blanks, so whether the
blanks or the case go first makes no difference (`Settings.respelled_iff`).
-/

namespace AdvisoryTriage

namespace Settings

/-! ### Other spellings of a statement -/

/-- **A statement respelled**: with other blanks around it, and letters of ASCII in other case. -/
inductive Respelled : List Char → List Char → Prop
  | intro {front back front' back' s s' : List Char} (hcase : sameUpToCase s s' = true)
      (hblank : ∀ c ∈ front ++ back, Text.isBlank c = true)
      (hblank' : ∀ c ∈ front' ++ back', Text.isBlank c = true) :
      Respelled (front ++ s ++ back) (front' ++ s' ++ back')

theorem sameUpToCase_iff {s t : List Char} :
    sameUpToCase s t = true ↔ s.map Char.toLower = t.map Char.toLower :=
  beq_iff_eq

/-- No letter of ASCII is blank. -/
theorem isBlank_toLower (c : Char) : Text.isBlank c.toLower = Text.isBlank c := by
  have hgraphic : ∀ n < 0x7f, 0x20 < n → Text.isBlank (Char.ofNat n) = false := by decide
  have hnot {d : Char} (hfrom : 0x20 < d.toNat) (hto : d.toNat < 0x7f) :
      Text.isBlank d = false :=
    Char.ofNat_toNat d ▸ hgraphic d.toNat hto hfrom
  have hlower := Text.toNat_toLower c
  by_cases hc : 0x41 ≤ c.toNat ∧ c.toNat ≤ 0x5a
  · rw [if_pos hc] at hlower
    rw [hnot (d := c.toLower) (by omega) (by omega), hnot (d := c) (by omega) (by omega)]
  · rw [if_neg hc, Char.toNat_inj] at hlower
    rw [hlower]

/-- The blanks around a text are the same in lower case. -/
theorem trim_map_toLower (s : List Char) :
    Text.trim (s.map Char.toLower) = (Text.trim s).map Char.toLower := by
  have hblank : Text.isBlank ∘ Char.toLower = Text.isBlank := funext isBlank_toLower
  simp only [Text.trim, List.dropWhile_map, ← List.map_reverse, hblank]

theorem sameUpToCase_trim {s t : List Char} (h : sameUpToCase s t = true) :
    sameUpToCase (Text.trim s) (Text.trim t) = true := by
  rw [sameUpToCase_iff] at h ⊢
  rw [← trim_map_toLower, ← trim_map_toLower, h]

/-- **Two spellings of one statement** differ at most in case once the blanks around them are taken
off. -/
theorem respelled_iff {s t : List Char} :
    Respelled s t ↔ sameUpToCase (Text.trim s) (Text.trim t) = true := by
  constructor
  · rintro ⟨hcase, hblank, hblank'⟩
    obtain ⟨hfront, hback⟩ := List.forall_mem_append.mp hblank
    obtain ⟨hfront', hback'⟩ := List.forall_mem_append.mp hblank'
    rw [Text.trim_append hfront hback, Text.trim_append hfront' hback']
    exact sameUpToCase_trim hcase
  · intro h
    obtain ⟨front, back, hs, hfront, hback⟩ := Text.exists_append_trim s
    obtain ⟨front', back', ht, hfront', hback'⟩ := Text.exists_append_trim t
    rw [hs, ht]
    exact .intro h (List.forall_mem_append.mpr ⟨hfront, hback⟩)
      (List.forall_mem_append.mpr ⟨hfront', hback'⟩)

/-! ### Honouring a statement -/

/-- **A bare statement** has no blank at either end. -/
def Bare (s : String) : Prop :=
  Text.trim s.toList = s.toList

instance (s : String) : Decidable (Bare s) :=
  inferInstanceAs (Decidable (Text.trim s.toList = s.toList))

/-- **A statement is honoured** if it counts in every spelling, and so clears the package it is
about in every feed, whatever the build and the platform. -/
structure Checker.Honours (settings : Checker) (s : String) : Prop where
  /-- Every spelling of it counts. -/
  counts : ∀ t : String, Respelled s.toList t.toList → settings.isInapplicable t = true
  /-- In every spelling it clears the package it is about on the platforms it is about. -/
  clears : ∀ t : String, Respelled s.toList t.toList →
    ∀ {feed : Feed} {c : AdvisoryTriage.Checker},
    AdvisoryTriage.Checker.build settings feed = .ok c →
    ∀ a ∈ feed.advisories, ∀ state ∈ a.states, state.fixState = some t →
    ∀ {package : Package} {platform : Cpe}, state.package = some package.name → package.name ≠ "" →
    AdvisoryTriage.Checker.IsFor state.cpe platform → c.check package platform a.name = true

theorem Respelled.refl (s : List Char) : Respelled s s :=
  respelled_iff.mpr (sameUpToCase_iff.mpr rfl)

theorem Respelled.symm {s t : List Char} (h : Respelled s t) : Respelled t s := by
  rw [respelled_iff, sameUpToCase_iff] at h ⊢
  exact h.symm

theorem Respelled.trans {s t u : List Char} (h : Respelled s t) (h' : Respelled t u) :
    Respelled s u := by
  rw [respelled_iff, sameUpToCase_iff] at h h' ⊢
  exact Eq.trans h h'

/-- What is a bare statement but for case is bare itself. -/
theorem bare_of_sameUpToCase {s : String} {t : List Char}
    (h : sameUpToCase s.toList (Text.trim t) = true) : Bare s := by
  have htrim := sameUpToCase_trim h
  rw [Text.trim_trim, sameUpToCase_iff, ← sameUpToCase_iff.mp h] at htrim
  have hlength := congrArg List.length htrim
  rw [List.length_map, List.length_map] at hlength
  exact Text.trim_eq_self_of_length hlength

/-- **Which statements count**: those that are configured, in another spelling perhaps, without
blanks around them. -/
theorem isInapplicable_iff {settings : Checker} {t : String} :
    settings.isInapplicable t = true ↔
      ∃ s ∈ settings.inapplicableStates, Bare s ∧ Respelled t.toList s.toList := by
  rw [Checker.isInapplicable, List.any_eq_true]
  refine exists_congr fun s => and_congr_right fun _ => ?_
  constructor
  · intro h
    have hbare := bare_of_sameUpToCase h
    refine ⟨hbare, Respelled.symm (respelled_iff.mpr ?_)⟩
    rwa [hbare]
  · rintro ⟨hbare, h⟩
    have := respelled_iff.mp h.symm
    rwa [hbare] at this

/-- **Which statements are honoured**: the same. -/
theorem honours_iff {settings : Checker} {s : String} :
    settings.Honours s ↔
      ∃ s' ∈ settings.inapplicableStates, Bare s' ∧ Respelled s.toList s'.toList := by
  constructor
  · exact fun h => isInapplicable_iff.mp (h.counts s (.refl _))
  · rintro ⟨s', hs', hbare, hspelled⟩
    have hcounts (t : String) (ht : Respelled s.toList t.toList) :
        settings.isInapplicable t = true :=
      isInapplicable_iff.mpr ⟨s', hs', hbare, ht.symm.trans hspelled⟩
    refine ⟨hcounts, fun t ht => ?_⟩
    intro feed c hc a ha state hstate ht' package platform hname hne hfor
    have hclears : state.Clears settings package platform :=
      ⟨hname, hne, ⟨t, ht', hcounts t ht⟩, hfor⟩
    exact (AdvisoryTriage.Checker.exists_clears_of_build hc).mpr
      ⟨a, ha, rfl, Or.inl ⟨state, hstate, hclears⟩⟩

/-! ### Where statements are configured -/

/-- What the environment lists is bare. -/
theorem bare_of_mem_itemsOf {value s : String} (h : s ∈ itemsOf value) : Bare s := by
  rw [itemsOf, List.mem_map] at h
  obtain ⟨item, hitem, rfl⟩ := h
  obtain ⟨text, -, rfl⟩ := List.mem_map.mp (List.mem_filter.mp hitem).1
  rw [Bare, String.toList_ofList, Text.trim_trim]

/-- **Configured statements are honoured** – in every spelling, for every feed – exactly if they are
configured, in one spelling or another, without blanks around them, and otherwise in no spelling at
all. Those that the environment configures always are; a document or a single change can configure
one that is not. -/
theorem honours_configured {settings : Settings} {s : String}
    (hs : s ∈ settings.checker.inapplicableStates) :
    (settings.checker.Honours s ↔ ∃ s' ∈ settings.checker.inapplicableStates,
        Bare s' ∧ Respelled s.toList s'.toList) ∧
      (¬ settings.checker.Honours s → ∀ t : String, Respelled s.toList t.toList →
        settings.checker.isInapplicable t = false) ∧
      (Bare s → settings.checker.Honours s) ∧
      ∀ (before : Settings) (env : Environment), settings = before.withEnvironment env →
        env .inapplicableStates ≠ none → settings.checker.Honours s := by
  have hself (hbare : Bare s) : settings.checker.Honours s :=
    honours_iff.mpr ⟨s, hs, hbare, .refl _⟩
  refine ⟨honours_iff, fun hnot t ht => ?_, hself, ?_⟩
  · rw [Bool.eq_false_iff]
    intro hcounts
    obtain ⟨s', hs', hbare, hspelled⟩ := isInapplicable_iff.mp hcounts
    exact hnot (honours_iff.mpr ⟨s', hs', hbare, ht.trans hspelled⟩)
  · rintro before env rfl hset
    obtain ⟨value, hvalue⟩ := Option.ne_none_iff_exists'.mp hset
    rw [withEnvironment, hvalue] at hs
    exact hself (bare_of_mem_itemsOf hs)

/-- Settings with a bare statement and one with blanks around it. -/
def halfBare : Settings where
  checker := { inapplicableStates := ["Will not fix", " Out of scope "] }

/-- A feed with a statement about each of two shells: one in other case and with blanks around it,
one spelled as it is configured. -/
def statedShells : Feed where
  advisories :=
    [{ name := "CVE-2020-0007"
       states := [{ package := some "bash", fixState := some "\tWILL NOT FIX " }] },
      { name := "CVE-2020-0008"
        states := [{ package := some "zsh", fixState := some " Out of scope " }] }]

/-- What is kept of `Settings.statedShells` under `Settings.halfBare`. -/
def keptOfStatedShells : AdvisoryTriage.Checker where
  rules :=
    [("CVE-2020-0007", { states := [⟨"bash", none⟩] }), ("CVE-2020-0008", { })]

theorem build_statedShells :
    AdvisoryTriage.Checker.build halfBare.checker statedShells = .ok keptOfStatedShells := by
  decide +kernel

/-- The bare statement clears a shell although it is spelled otherwise in the feed; and were both
configured by the environment, the other one would be honoured too. -/
theorem honours_halfBare :
    "Will not fix" ∈ halfBare.checker.inapplicableStates ∧
      keptOfStatedShells.check ⟨"bash", none, "4.4", "20.el8", none⟩ AdvisoryTriage.Checker.host
        "CVE-2020-0007" = true ∧
      "Out of scope" ∈ (halfBare.withEnvironment
        fun _ => some "Will not fix, Out of scope ").checker.inapplicableStates ∧
      (halfBare.withEnvironment
        fun _ => some "Will not fix, Out of scope ").checker.isInapplicable " Out of scope " =
        true := by
  have hbare : "Will not fix" ∈ halfBare.checker.inapplicableStates := by decide
  have hlisted : "Out of scope" ∈ (halfBare.withEnvironment
      fun _ => some "Will not fix, Out of scope ").checker.inapplicableStates := by
    decide +kernel
  have hshell : Respelled "Will not fix".toList "\tWILL NOT FIX ".toList :=
    respelled_iff.mpr (by decide)
  have hspelled : Respelled "Out of scope".toList " Out of scope ".toList :=
    respelled_iff.mpr (by decide)
  refine ⟨hbare, ?_, hlisted, ?_⟩
  · exact ((honours_configured hbare).2.2.1 (by decide)).clears _ hshell build_statedShells _
      List.mem_cons_self _ List.mem_cons_self rfl rfl (by decide) (Or.inl rfl)
  · exact ((honours_configured hlisted).2.2.2 _ _ rfl (by decide)).counts _ hspelled

/-- The one with blanks around it, read from a document, does not count even as it is configured,
and the statement of the feed clears nothing. -/
theorem honours_padded :
    ofToml "[checker]\ninapplicable_states = [\"Will not fix\", \" Out of scope \"]" =
        .ok halfBare ∧
      " Out of scope " ∈ halfBare.checker.inapplicableStates ∧
      halfBare.checker.isInapplicable " Out of scope " = false ∧
      AdvisoryTriage.Checker.build halfBare.checker statedShells = .ok keptOfStatedShells ∧
      keptOfStatedShells.check ⟨"zsh", none, "5.5.1", "6.el8", none⟩ AdvisoryTriage.Checker.host
        "CVE-2020-0008" = false := by
  decide +kernel

end Settings

end AdvisoryTriage
