import AdvisoryTriage.Cpe.Matching
import AdvisoryTriage.Proofs.Text.LowerCase

/-!
# When a component matches, without the cutting

A component is matched by cutting the pattern at its first asterisk and looking at what is left of
the value between the two parts. Here is what that comes to: the value is the same text as the
pattern but for case (`Cpe.SameText`), or the pattern has one asterisk and it stands for a text
(`Cpe.StandsFor`), or the value itself is an asterisk (`Cpe.componentMatches_iff`).

That a lone `-` is compared before case is disregarded makes no difference in this, since it is the
small form of nothing else.

The rules can also be kept apart, as they are applied: `Cpe.GlobMatches` has one constructor for
each of them, and names cover each other by it, field by field (`Cpe.covers_iff_globMatches`).
-/

namespace AdvisoryTriage

namespace Cpe

/-! ### When a component matches -/

/-- **The same text** but for the case of its letters. -/
def SameText (pattern value : String) : Prop :=
  Text.lowerCase pattern.toList = Text.lowerCase value.toList

/-- **An asterisk stands for a text**: the pattern holds one asterisk, and the value begins with
what is in front of it and goes on, not overlapping, to what is behind it. Unless it is alone, it
does not stand for the value of a field that does not apply. -/
def StandsFor (pattern value : String) : Prop :=
  (pattern = "*" ∨ value ≠ "-") ∧ ∃ before middle behind,
    Text.lowerCase pattern.toList = before ++ '*' :: behind ∧ '*' ∉ before ∧ '*' ∉ behind ∧
      Text.lowerCase value.toList = before ++ middle ++ behind

instance (pattern value : String) : Decidable (SameText pattern value) :=
  inferInstanceAs (Decidable (Text.lowerCase pattern.toList = Text.lowerCase value.toList))

/-- A pattern with no asterisk or with several is matched as it is written. -/
theorem StandsFor.count_eq_one {pattern value : String} (h : StandsFor pattern value) :
    pattern.toList.count '*' = 1 := by
  obtain ⟨-, before, -, behind, hpattern, hbefore, hbehind, -⟩ := h
  have hcount := Text.count_lowerCase (a := '*') (by decide) (by decide) pattern.toList
  rw [← hcount, hpattern, List.count_append, List.count_cons_self,
    List.count_eq_zero_of_not_mem hbefore, List.count_eq_zero_of_not_mem hbehind]

/-- What stands in front of a value and behind it does not overlap if both together take no more
bytes than the value. -/
theorem exists_middle_iff {before behind value : List Char} :
    (Text.byteLength before + Text.byteLength behind ≤ Text.byteLength value ∧
        before <+: value ∧ behind <:+ value) ↔
      ∃ middle, value = before ++ middle ++ behind := by
  constructor
  · rintro ⟨hlen, ⟨rest, rfl⟩, hbehind⟩
    rw [Text.byteLength_append] at hlen
    obtain ⟨middle, rfl⟩ := Text.suffix_of_suffix_of_byteLength_le hbehind
      (List.suffix_append before rest) (by omega)
    exact ⟨middle, (List.append_assoc _ _ _).symm⟩
  · rintro ⟨middle, rfl⟩
    refine ⟨by simp only [Text.byteLength_append]; omega, ?_, List.suffix_append _ _⟩
    exact (List.prefix_append _ middle).trans (List.prefix_append _ behind)

/-- **A pattern without regard to case** matches the text it is, and with a single asterisk every
text that has what is around the asterisk around some other text. -/
theorem wildcardMatches_iff {pattern value : List Char} :
    wildcardMatches pattern value = true ↔ pattern = value ∨ ∃ before middle behind,
      pattern = before ++ '*' :: behind ∧ '*' ∉ before ∧ '*' ∉ behind ∧
        value = before ++ middle ++ behind := by
  rw [wildcardMatches]
  cases hcut : Text.splitFirst? '*' pattern with
  | none =>
    rw [Text.splitFirst?_eq_none_iff] at hcut
    rw [beq_iff_eq]
    refine ⟨Or.inl, fun h => h.resolve_right ?_⟩
    rintro ⟨before, middle, behind, rfl, -⟩
    exact hcut (List.mem_append_right _ List.mem_cons_self)
  | some cut =>
    obtain ⟨before, behind⟩ := cut
    -- what stands around the asterisk is what the cut gave
    have hunique {before' behind' : List Char} (h : pattern = before' ++ '*' :: behind')
        (hbefore : '*' ∉ before') : before' = before ∧ behind' = behind := by
      have := hcut.symm.trans (Text.splitFirst?_eq_some_iff.mpr ⟨h, hbefore⟩)
      exact ⟨(Prod.mk.inj (Option.some.inj this)).1.symm,
        (Prod.mk.inj (Option.some.inj this)).2.symm⟩
    obtain ⟨hpattern, hbefore⟩ := Text.splitFirst?_eq_some_iff.mp hcut
    dsimp only
    split
    · next hbehind =>
      rw [beq_iff_eq]
      refine ⟨Or.inl, fun h => h.resolve_right ?_⟩
      rintro ⟨before', middle, behind', h, hbefore', hbehind', -⟩
      obtain ⟨rfl, rfl⟩ := hunique h hbefore'
      exact hbehind' hbehind
    · next hbehind =>
      rw [Bool.and_eq_true, Bool.and_eq_true, decide_eq_true_eq, List.isPrefixOf_iff_prefix,
        List.isSuffixOf_iff_suffix, and_assoc, exists_middle_iff]
      constructor
      · rintro ⟨middle, hvalue⟩
        exact Or.inr ⟨before, middle, behind, hpattern, hbefore, hbehind, hvalue⟩
      · rintro (rfl | ⟨before', middle, behind', h, hbefore', -, hvalue⟩)
        · exact ⟨['*'], by rw [hpattern, List.append_assoc]; rfl⟩
        · obtain ⟨rfl, rfl⟩ := hunique h hbefore'
          exact ⟨middle, hvalue⟩

theorem sameText_dash_iff {value : String} : SameText "-" value ↔ "-" = value := by
  rw [SameText, eq_comm, eq_comm (a := "-"), ← String.toList_inj]
  exact Text.lowerCase_eq_singleton_iff (by decide) (by decide)

/-- **When a component matches**: if the value is an asterisk, if both are the same text, or if the
asterisk of the pattern stands for a text. -/
theorem componentMatches_iff {pattern value : String} :
    componentMatches pattern value = true ↔
      value = "*" ∨ SameText pattern value ∨ StandsFor pattern value := by
  rw [componentMatches]
  split
  · next h =>
    refine iff_of_true rfl ?_
    rcases h with rfl | rfl
    · exact Or.inr (Or.inr ⟨Or.inl rfl, [], _, [], rfl, by decide, by decide,
        (List.append_nil _).symm⟩)
    · exact Or.inl rfl
  · next hstar =>
    obtain ⟨hpattern, hvalue⟩ := not_or.mp hstar
    rw [or_iff_right hvalue, StandsFor, or_iff_right hpattern]
    split
    · next hdash =>
      rw [beq_iff_eq]
      constructor
      · rintro rfl
        exact Or.inl rfl
      · rintro (hsame | ⟨hne, before, middle, behind, hasterisk, -⟩)
        · rcases hdash with rfl | rfl
          · exact sameText_dash_iff.mp hsame
          · exact (sameText_dash_iff.mp hsame.symm).symm
        · obtain rfl := hdash.resolve_right hne
          have hmem : '*' ∈ Text.lowerCase "-".toList :=
            hasterisk ▸ List.mem_append_right _ List.mem_cons_self
          exact absurd hmem (by decide)
    · next hdash =>
      rw [wildcardMatches_iff]
      exact or_congr Iff.rfl (and_iff_right (not_or.mp hdash).2).symm

/-! ### The rules one by one -/

/-- An ordinary field: neither a lone asterisk nor a lone dash. -/
def Ordinary (field : String) : Prop :=
  field ≠ "*" ∧ field ≠ "-"

/-- **A pattern matches a value** by one of four rules. -/
inductive GlobMatches (pattern value : String) : Prop
  /-- An asterisk on either side goes with everything. -/
  | anything (h : pattern = "*" ∨ value = "*")
  /-- A field that does not apply goes with one that does not apply. -/
  | notApplicable (hpattern : pattern = "-") (hvalue : value = "-")
  /-- The only asterisk of an ordinary pattern stands for any text. -/
  | wildcard (hpattern : Ordinary pattern) (hvalue : Ordinary value)
      (hone : (Text.lowerCase pattern.toList).count '*' = 1) {before middle behind : List Char}
      (hcut : Text.lowerCase pattern.toList = before ++ '*' :: behind)
      (hfilled : Text.lowerCase value.toList = before ++ middle ++ behind)
  /-- An ordinary pattern without an asterisk, or with several, is the value but for case. -/
  | literal (hpattern : Ordinary pattern) (hvalue : Ordinary value)
      (hnone : (Text.lowerCase pattern.toList).count '*' ≠ 1)
      (hsame : Text.lowerCase pattern.toList = Text.lowerCase value.toList)

/-- Around the only occurrence of a character there is no other. -/
theorem count_append_cons_eq_one_iff {a : Char} {before behind : List Char} :
    (before ++ a :: behind).count a = 1 ↔ a ∉ before ∧ a ∉ behind := by
  rw [List.count_append, List.count_cons_self, ← List.count_eq_zero, ← List.count_eq_zero]
  omega

/-- Without regard to case a pattern is a wildcard if it holds one asterisk, and itself if not. -/
theorem wildcardMatches_iff_count {pattern value : List Char} :
    wildcardMatches pattern value = true ↔
      (pattern.count '*' = 1 ∧ ∃ before middle behind, pattern = before ++ '*' :: behind ∧
        value = before ++ middle ++ behind) ∨
      (pattern.count '*' ≠ 1 ∧ pattern = value) := by
  rw [wildcardMatches_iff]
  constructor
  · rintro (rfl | ⟨before, middle, behind, rfl, hbefore, hbehind, hvalue⟩)
    · by_cases hone : pattern.count '*' = 1
      · -- a wildcard matches itself, its asterisk standing for an asterisk
        obtain ⟨before, behind, hcut⟩ :=
          List.append_of_mem (List.count_pos_iff.mp (hone ▸ Nat.one_pos))
        exact Or.inl ⟨hone, before, ['*'], behind, hcut, by rw [hcut, List.append_assoc]; rfl⟩
      · exact Or.inr ⟨hone, rfl⟩
    · have hone := count_append_cons_eq_one_iff.mpr ⟨hbefore, hbehind⟩
      exact Or.inl ⟨hone, before, middle, behind, rfl, hvalue⟩
  · rintro (⟨hone, before, middle, behind, rfl, hvalue⟩ | ⟨-, hsame⟩)
    · obtain ⟨hbefore, hbehind⟩ := count_append_cons_eq_one_iff.mp hone
      exact Or.inr ⟨before, middle, behind, rfl, hbefore, hbehind, hvalue⟩
    · exact Or.inl hsame

theorem componentMatches_iff_globMatches {pattern value : String} :
    componentMatches pattern value = true ↔ GlobMatches pattern value := by
  rw [componentMatches]
  split
  · next hstar => exact iff_of_true rfl (.anything hstar)
  · next hstar =>
    split
    · next hdash =>
      rw [beq_iff_eq]
      constructor
      · rintro rfl
        exact .notApplicable (or_self_iff.mp hdash) (or_self_iff.mp hdash)
      · intro h
        cases h with
        | anything h => exact absurd h hstar
        | notApplicable hpattern hvalue => rw [hpattern, hvalue]
        | wildcard hpattern hvalue => exact absurd hdash (not_or.mpr ⟨hpattern.2, hvalue.2⟩)
        | literal hpattern hvalue => exact absurd hdash (not_or.mpr ⟨hpattern.2, hvalue.2⟩)
    · next hdash =>
      obtain ⟨hpstar, hvstar⟩ := not_or.mp hstar
      obtain ⟨hpdash, hvdash⟩ := not_or.mp hdash
      rw [wildcardMatches_iff_count]
      constructor
      · rintro (⟨hone, before, middle, behind, hcut, hfilled⟩ | ⟨hnone, hsame⟩)
        · exact .wildcard ⟨hpstar, hpdash⟩ ⟨hvstar, hvdash⟩ hone hcut hfilled
        · exact .literal ⟨hpstar, hpdash⟩ ⟨hvstar, hvdash⟩ hnone hsame
      · intro h
        cases h with
        | anything h => exact absurd h hstar
        | notApplicable hpattern _ => exact absurd hpattern hpdash
        | wildcard _ _ hone hcut hfilled => exact Or.inl ⟨hone, _, _, _, hcut, hfilled⟩
        | literal _ _ hnone hsame => exact Or.inr ⟨hnone, hsame⟩

/-- **When a name covers another**: if its vendor, its product and its version match those of the
other, whatever texts the fields hold. So every name covers itself. -/
theorem covers_iff_globMatches (pattern target : Cpe) :
    (pattern.covers target = true ↔
      GlobMatches pattern.vendor target.vendor ∧ GlobMatches pattern.product target.product ∧
        GlobMatches pattern.version target.version) ∧
      pattern.covers pattern = true := by
  refine ⟨?_, covers_self pattern⟩
  rw [covers, Bool.and_eq_true, Bool.and_eq_true, componentMatches_iff_globMatches,
    componentMatches_iff_globMatches, componentMatches_iff_globMatches, and_assoc]

-- what stands around the asterisk must not overlap
example : componentMatches "8*8" "8" = false ∧ componentMatches "8*8" "8.8" = true := by
  decide +kernel

end Cpe

end AdvisoryTriage
