import AdvisoryTriage.Checker
import AdvisoryTriage.Proofs.Steps

/-!
# What a checker keeps

A checker is built by three nested loops that stop at the first platform they cannot read, pass over
what says nothing, and put everything else under the name of its advisory. This file says what is
there in the end, without the loops: a fix makes at most one rule (`Checker.FixRule.ofFix?`), a
statement makes at most one (`Checker.StateRule.ofState?`), and a checker that was built keeps under
a name the rules of all the advisories of that name, in the order of the feed
(`Checker.fixesOf_build`, `Checker.statesOf_build`).

The loops are dealt with once (`observe_foldlM`): whatever every step appends to something that can
be observed of a checker, a run appends for all its steps. What is observed here are the rules under
a name, where a name that is not there counts as one without rules (`Checker.rulesOf`). So nothing
need be said of when a name is entered, and two advisories of one name are no special case.
-/

namespace AdvisoryTriage

namespace Checker

/-! ### Rules -/

/-- The platform of an entry, if it can be read: none where it is absent or empty. -/
def platformOf? (cpe : Option String) : Option (Option Cpe) :=
  match nonempty? cpe with
  | none => some none
  | some text => (Cpe.parse text).toOption.map some

theorem platformOf?_eq_of_platform? {advisory : String} {cpe : Option String}
    {platform : Option Cpe} (h : platform? advisory cpe = .ok platform) :
    platformOf? cpe = some platform := by
  rw [platform?] at h
  rw [platformOf?]
  cases hc : nonempty? cpe with
  | none =>
    rw [hc] at h
    exact congrArg some (Except.ok.inj h)
  | some text =>
    rw [hc] at h
    cases hp : Cpe.parse text with
    | error e => simp [hp] at h
    | ok c =>
      simp only [hp] at h
      obtain rfl : some c = platform := Except.ok.inj h
      simp [Except.toOption, hp]

/-- The rule that a fix makes, if it makes one: its platform can be read, it has a specifier, and
the specifier denotes a build. -/
def FixRule.ofFix? (fix : Fix) : Option FixRule := do
  let platform ← platformOf? fix.cpe
  let specifier ← fix.package?
  let package ← (Package.parse specifier).toOption
  return ⟨package, platform⟩

/-- The rule that a statement makes, if it makes one: its platform can be read, it names a package,
and what it states is one of the configured statements. -/
def StateRule.ofState? (settings : Settings.Checker) (state : PackageState) : Option StateRule := do
  let platform ← platformOf? state.cpe
  let package ← state.package?
  if state.fixState.any settings.isInapplicable then some ⟨package, platform⟩ else none

/-- What is kept under a name; nothing if the name is not there. -/
def rulesOf (c : Checker) (name : String) : Rules :=
  (c.rules.get? name).getD { }

theorem rulesOf_updateRules (c : Checker) (advisory name : String) (f : Rules → Rules) :
    (c.updateRules advisory f).rulesOf name =
      if advisory = name then f (c.rulesOf name) else c.rulesOf name := by
  rw [rulesOf, updateRules, Keyed.get?_update]
  by_cases h : advisory = name
  · simp [h, rulesOf]
  · simp [h, rulesOf]

/-- An answer depends on what is kept under the name of the advisory. -/
theorem check_eq (c : Checker) (package : Package) (platform : Cpe) (name : String) :
    c.check package platform name =
      ((c.rulesOf name).states.any (·.settles package platform) ||
        (c.rulesOf name).fixes.any (·.settles package platform)) := by
  rw [check, rulesOf]
  cases c.rules.get? name <;> rfl

/-! ### One entry -/

/-- **What taking in a fix can do**, once its platform is read: nothing if it has no specifier, note
a specifier that cannot be read, or keep a rule under the name of the advisory. -/
theorem addFix_cases {advisory : String} {c c' : Checker} {fix : Fix}
    (h : addFix advisory c fix = .ok c') :
    ∃ platform, platform? advisory fix.cpe = .ok platform ∧
      ((fix.package? = none ∧ c' = c) ∨
        (∃ specifier e, fix.package? = some specifier ∧ Package.parse specifier = .error e ∧
          c' = { c with ignored := c.ignored ++ [⟨advisory, specifier⟩] }) ∨
        ∃ specifier package, fix.package? = some specifier ∧
          Package.parse specifier = .ok package ∧
          c' = c.updateRules advisory
            fun r => { r with fixes := r.fixes ++ [⟨package, platform⟩] }) := by
  rw [addFix] at h
  cases hp : platform? advisory fix.cpe with
  | error e =>
    rw [hp] at h
    cases h
  | ok platform =>
    refine ⟨platform, rfl, ?_⟩
    rw [hp] at h
    cases hs : fix.package? with
    | none =>
      rw [hs] at h
      exact Or.inl ⟨rfl, (Except.ok.inj h).symm⟩
    | some specifier =>
      rw [hs] at h
      cases hr : Package.parse specifier with
      | error e =>
        simp only [hr] at h
        exact Or.inr (Or.inl ⟨specifier, e, rfl, hr, (Except.ok.inj h).symm⟩)
      | ok package =>
        simp only [hr] at h
        exact Or.inr (Or.inr ⟨specifier, package, rfl, hr, (Except.ok.inj h).symm⟩)

/-- **What taking in a statement can do**, once its platform is read: nothing, or keep a rule under
the name of the advisory. -/
theorem addState_cases {settings : Settings.Checker} {advisory : String} {c c' : Checker}
    {state : PackageState} (h : addState settings advisory c state = .ok c') :
    ∃ platform, platform? advisory state.cpe = .ok platform ∧
      ((state.package? = none ∨ state.fixState.any settings.isInapplicable = false) ∧ c' = c ∨
        ∃ package, state.package? = some package ∧
          state.fixState.any settings.isInapplicable = true ∧
          c' = c.updateRules advisory
            fun r => { r with states := r.states ++ [⟨package, platform⟩] }) := by
  rw [addState] at h
  cases hp : platform? advisory state.cpe with
  | error e =>
    rw [hp] at h
    cases h
  | ok platform =>
    refine ⟨platform, rfl, ?_⟩
    rw [hp] at h
    cases hs : state.package? with
    | none =>
      rw [hs] at h
      exact Or.inl ⟨Or.inl rfl, (Except.ok.inj h).symm⟩
    | some package =>
      rw [hs] at h
      cases hi : state.fixState.any settings.isInapplicable with
      | false =>
        rw [hi] at h
        exact Or.inl ⟨Or.inr rfl, (Except.ok.inj h).symm⟩
      | true =>
        rw [hi] at h
        exact Or.inr ⟨package, rfl, rfl, (Except.ok.inj h).symm⟩

/-- A fix adds its rule, if it makes one, to the fixes under the name of its advisory. -/
theorem fixes_addFix {advisory name : String} {c c' : Checker} {fix : Fix}
    (h : addFix advisory c fix = .ok c') :
    (c'.rulesOf name).fixes = (c.rulesOf name).fixes ++
      if advisory = name then (FixRule.ofFix? fix).toList else [] := by
  obtain ⟨platform, hp, ⟨hs, rfl⟩ | ⟨s, e, hs, hr, rfl⟩ | ⟨s, p, hs, hr, rfl⟩⟩ := addFix_cases h
  · have hnone : FixRule.ofFix? fix = none := by
      simp [FixRule.ofFix?, hs, platformOf?_eq_of_platform? hp]
    simp [hnone]
  · have hnone : FixRule.ofFix? fix = none := by
      simp [FixRule.ofFix?, hs, platformOf?_eq_of_platform? hp, hr, Except.toOption]
    simp [hnone, rulesOf]
  · have hsome : FixRule.ofFix? fix = some ⟨p, platform⟩ := by
      simp [FixRule.ofFix?, hs, platformOf?_eq_of_platform? hp, hr, Except.toOption]
    rw [rulesOf_updateRules, hsome]
    split_ifs <;> simp

/-- A fix leaves the statements alone. -/
theorem states_addFix {advisory name : String} {c c' : Checker} {fix : Fix}
    (h : addFix advisory c fix = .ok c') :
    (c'.rulesOf name).states = (c.rulesOf name).states := by
  obtain ⟨platform, hp, ⟨hs, rfl⟩ | ⟨s, e, hs, hr, rfl⟩ | ⟨s, p, hs, hr, rfl⟩⟩ := addFix_cases h
  · rfl
  · rfl
  · rw [rulesOf_updateRules]
    split_ifs <;> rfl

/-- A statement adds its rule, if it makes one, to the statements under the name of its advisory. -/
theorem states_addState {settings : Settings.Checker} {advisory name : String} {c c' : Checker}
    {state : PackageState} (h : addState settings advisory c state = .ok c') :
    (c'.rulesOf name).states = (c.rulesOf name).states ++
      if advisory = name then (StateRule.ofState? settings state).toList else [] := by
  obtain ⟨platform, hp, ⟨hs, rfl⟩ | ⟨s, hs, hi, rfl⟩⟩ := addState_cases h
  · have hnone : StateRule.ofState? settings state = none := by
      rcases hs with hs | hs
      · simp [StateRule.ofState?, hs, platformOf?_eq_of_platform? hp]
      · simp [StateRule.ofState?, hs, platformOf?_eq_of_platform? hp]
    simp [hnone]
  · have hsome : StateRule.ofState? settings state = some ⟨s, platform⟩ := by
      simp [StateRule.ofState?, hs, platformOf?_eq_of_platform? hp, hi]
    rw [rulesOf_updateRules, hsome]
    split_ifs <;> simp

/-- A statement leaves the fixes alone. -/
theorem fixes_addState {settings : Settings.Checker} {advisory name : String} {c c' : Checker}
    {state : PackageState} (h : addState settings advisory c state = .ok c') :
    (c'.rulesOf name).fixes = (c.rulesOf name).fixes := by
  obtain ⟨platform, hp, ⟨hs, rfl⟩ | ⟨s, hs, hi, rfl⟩⟩ := addState_cases h
  · rfl
  · rw [rulesOf_updateRules]
    split_ifs <;> rfl

/-! ### A whole feed -/

/-- Appending under one name, seen from another, for a list of entries. -/
theorem flatMap_ite_eq {β γ : Type} (p : Prop) [Decidable p] (rule? : β → Option γ)
    (entries : List β) :
    (entries.flatMap fun x => if p then (rule? x).toList else []) =
      if p then entries.filterMap rule? else [] := by
  split_ifs
  · exact (List.filterMap_eq_flatMap_toList rule? entries).symm
  · simp

/-- Taking in an advisory is taking in its fixes, then its statements, under a name that is known
from the start. -/
theorem addAdvisory_cases {settings : Settings.Checker} {c c' : Checker} {a : Advisory}
    (h : addAdvisory settings c a = .ok c') :
    ∃ t, a.fixes.foldlM (addFix a.name) (c.updateRules a.name id) = .ok t ∧
      a.states.foldlM (addState settings a.name) t = .ok c' := by
  rw [addAdvisory] at h
  exact bind_eq_ok_iff.mp h

/-- Making a name known keeps nothing under it. -/
theorem rulesOf_updateRules_id (c : Checker) (advisory name : String) :
    (c.updateRules advisory id).rulesOf name = c.rulesOf name := by
  rw [rulesOf_updateRules]
  split_ifs <;> rfl

theorem fixes_addAdvisory {settings : Settings.Checker} {name : String} {c c' : Checker}
    {a : Advisory} (h : addAdvisory settings c a = .ok c') :
    (c'.rulesOf name).fixes = (c.rulesOf name).fixes ++
      if a.name = name then a.fixes.filterMap FixRule.ofFix? else [] := by
  obtain ⟨t, hfixes, hstates⟩ := addAdvisory_cases h
  have ht := observe_foldlM hfixes (fun c => (rulesOf c name).fixes) _ fixes_addFix
  have hc := observe_foldlM hstates (fun c => (rulesOf c name).fixes) (fun _ => [])
    fun h => (fixes_addState h).trans (List.append_nil _).symm
  rw [rulesOf_updateRules_id, flatMap_ite_eq] at ht
  rw [hc, ht]
  simp

theorem states_addAdvisory {settings : Settings.Checker} {name : String} {c c' : Checker}
    {a : Advisory} (h : addAdvisory settings c a = .ok c') :
    (c'.rulesOf name).states = (c.rulesOf name).states ++
      if a.name = name then a.states.filterMap (StateRule.ofState? settings) else [] := by
  obtain ⟨t, hfixes, hstates⟩ := addAdvisory_cases h
  have ht := observe_foldlM hfixes (fun c => (rulesOf c name).states) (fun _ => [])
    fun h => (states_addFix h).trans (List.append_nil _).symm
  have hc := observe_foldlM hstates (fun c => (rulesOf c name).states) _ states_addState
  rw [rulesOf_updateRules_id] at ht
  rw [flatMap_ite_eq] at hc
  rw [hc, ht]
  simp

/-- **The fixes kept under a name** are those of the advisories of that name, in the order of the
feed. -/
theorem fixesOf_build {settings : Settings.Checker} {feed : Feed} {c : Checker}
    (h : build settings feed = .ok c) (name : String) :
    (c.rulesOf name).fixes = feed.advisories.flatMap fun a =>
      if a.name = name then a.fixes.filterMap FixRule.ofFix? else [] :=
  observe_foldlM h (fun c => (rulesOf c name).fixes) _ fixes_addAdvisory

/-- **The statements kept under a name** are those of the advisories of that name, in the order of
the feed. -/
theorem statesOf_build {settings : Settings.Checker} {feed : Feed} {c : Checker}
    (h : build settings feed = .ok c) (name : String) :
    (c.rulesOf name).states = feed.advisories.flatMap fun a =>
      if a.name = name then a.states.filterMap (StateRule.ofState? settings) else [] :=
  observe_foldlM h (fun c => (rulesOf c name).states) _ states_addAdvisory

/-- The platform of every fix can be read if a checker was built. -/
theorem exists_platform_of_build {settings : Settings.Checker} {feed : Feed} {c : Checker}
    (h : build settings feed = .ok c) {a : Advisory} (ha : a ∈ feed.advisories) {fix : Fix}
    (hf : fix ∈ a.fixes) : ∃ platform, platform? a.name fix.cpe = .ok platform := by
  obtain ⟨before, after, hstep⟩ := exists_step_of_foldlM h ha
  obtain ⟨_, hfixes, -⟩ := addAdvisory_cases hstep
  obtain ⟨_, _, hfix⟩ := exists_step_of_foldlM hfixes hf
  obtain ⟨platform, hp, -⟩ := addFix_cases hfix
  exact ⟨platform, hp⟩

/-- **When a checker says yes**: some advisory of the name has a statement or a fix that makes a
rule which settles the matter. -/
theorem exists_rule_of_build {settings : Settings.Checker} {feed : Feed} {c : Checker}
    (h : build settings feed = .ok c) (package : Package) (platform : Cpe) (name : String) :
    c.check package platform name = true ↔
      ∃ a ∈ feed.advisories, a.name = name ∧
        ((∃ state ∈ a.states, ∃ rule, StateRule.ofState? settings state = some rule ∧
            rule.settles package platform = true) ∨
          ∃ fix ∈ a.fixes, ∃ rule, FixRule.ofFix? fix = some rule ∧
            rule.settles package platform = true) := by
  rw [check_eq, fixesOf_build h, statesOf_build h]
  simp only [Bool.or_eq_true, List.any_eq_true, List.mem_flatMap]
  constructor
  · rintro (⟨rule, ⟨a, ha, hrule⟩, hs⟩ | ⟨rule, ⟨a, ha, hrule⟩, hs⟩)
    · split_ifs at hrule with hn
      · obtain ⟨state, hstate, hof⟩ := List.mem_filterMap.mp hrule
        exact ⟨a, ha, hn, Or.inl ⟨state, hstate, rule, hof, hs⟩⟩
      · cases hrule
    · split_ifs at hrule with hn
      · obtain ⟨fix, hfix, hof⟩ := List.mem_filterMap.mp hrule
        exact ⟨a, ha, hn, Or.inr ⟨fix, hfix, rule, hof, hs⟩⟩
      · cases hrule
  · rintro ⟨a, ha, hn, ⟨state, hstate, rule, hof, hs⟩ | ⟨fix, hfix, rule, hof, hs⟩⟩
    · refine Or.inl ⟨rule, ⟨a, ha, ?_⟩, hs⟩
      rw [if_pos hn]
      exact List.mem_filterMap.mpr ⟨state, hstate, hof⟩
    · refine Or.inr ⟨rule, ⟨a, ha, ?_⟩, hs⟩
      rw [if_pos hn]
      exact List.mem_filterMap.mpr ⟨fix, hfix, hof⟩

end Checker

end AdvisoryTriage
