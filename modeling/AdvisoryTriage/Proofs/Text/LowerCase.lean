import AdvisoryTriage.Text.LowerCase
import Mathlib.Data.List.Basic

/-!
# What lower case leaves alone

The characters in front of the letters of ASCII – signs and digits – have no small form, and no
other character has one of them as its small form. So a text in lower case holds them as often as
before (`Text.count_lowerCase`). As a text in lower case is never shorter either, a text of which
nothing but such a character is left was that character (`Text.lowerCase_eq_singleton_iff`).

The small letters of ASCII are the small forms of their capitals, and `k` is that of the sign for a
kelvin as well. So a text of which one of the others is left was that letter or its capital
(`Text.lowerCase_eq_letter_iff`).
-/

namespace AdvisoryTriage

namespace Text

/-! ### Single characters -/

section Characters

variable {a c : Char}

theorem toNat_toLower (c : Char) :
    c.toLower.toNat =
      if 0x41 ≤ c.toNat ∧ c.toNat ≤ 0x5a then c.toNat + 32 else c.toNat := by
  have hcapital : c.val ≥ 'A'.val ∧ c.val ≤ 'Z'.val ↔ 0x41 ≤ c.toNat ∧ c.toNat ≤ 0x5a := by
    rw [ge_iff_le, UInt32.le_iff_toNat_le, UInt32.le_iff_toNat_le]
    rfl
  by_cases h : c.val ≥ 'A'.val ∧ c.val ≤ 'Z'.val
  · have hlower : c.toLower = ⟨c.val + ('a'.val - 'A'.val), _⟩ := dif_pos h
    rw [if_pos (hcapital.mp h), hlower]
    change (c.val + ('a'.val - 'A'.val)).toNat = _
    rw [UInt32.toNat_add, Nat.mod_eq_of_lt]
    · rfl
    · change c.toNat + 32 < _
      have := (hcapital.mp h).2
      omega
  · have hkept : c.toLower = c := dif_neg h
    rw [if_neg (mt hcapital.mpr h), hkept]

theorem toLower_eq_iff (ha : a.toNat < 0x41) : c.toLower = a ↔ c = a := by
  rw [← Char.toNat_inj, ← Char.toNat_inj, toNat_toLower]
  split <;> omega

/-- The characters with a small letter as their small form in ASCII are that letter and its
capital. -/
theorem toLower_eq_letter_iff {capital : Char} (hA : 0x41 ≤ capital.toNat)
    (hZ : capital.toNat ≤ 0x5a) (ha : a.toNat = capital.toNat + 32) :
    c.toLower = a ↔ c = a ∨ c = capital := by
  rw [← Char.toNat_inj, ← Char.toNat_inj, ← Char.toNat_inj, toNat_toLower]
  split <;> omega

theorem toNat_of_ofNat_eq {n : Nat} (h0 : 0 < a.toNat) (h : Char.ofNat n = a) : a.toNat = n := by
  rw [← h] at h0 ⊢
  by_cases hn : n.isValidChar
  · have hof : Char.ofNat n = Char.ofNatAux n hn := dif_pos hn
    rw [hof]
    rfl
  · have hzero : Char.ofNat n = ⟨0, _⟩ := dif_neg hn
    rw [hzero] at h0
    exact absurd h0 (by decide)

/-- No character outside ASCII has a small form in it, but for the sign for a kelvin. -/
theorem smallForm_ne (h0 : 0 < a.toNat) (ha : a.toNat < 0x80) (hk : a ≠ 'k')
    (hc : 0x80 ≤ c.toNat) : smallForm c ≠ a := by
  have hshift : ∀ r ∈ caseRuns,
      0x80 ≤ r.first + r.shift ∨ (r.first = r.last ∧ r.first + r.shift = 0x6b) := by
    decide +kernel
  have hk' : a.toNat ≠ 0x6b := fun h => hk (Char.toNat_inj.mp h)
  rw [smallForm]
  split
  · next r hr =>
    have hfirst := hshift r (List.mem_of_find?_eq_some hr)
    have hin := List.find?_some hr
    simp only [Bool.and_eq_true, decide_eq_true_eq] at hin
    intro heq
    have htoNat := toNat_of_ofNat_eq h0 heq
    omega
  · rintro rfl
    omega

/-- **Signs and digits** are small forms of themselves and of nothing else. -/
theorem count_smallForms (h0 : 0 < a.toNat) (ha : a.toNat < 0x41) (before after : List Char) :
    (smallForms before c after).count a = [c].count a := by
  have hnot {d : Char} (hd : 0x41 ≤ d.toNat) : d ≠ a := by
    rintro rfl
    omega
  rw [smallForms]
  split
  · simp only [List.count_singleton, beq_iff_eq, toLower_eq_iff ha]
  · next hascii =>
    have hc : c ≠ a := hnot (by omega)
    rw [List.count_eq_zero_of_not_mem (List.mem_singleton.not.mpr hc.symm)]
    refine List.count_eq_zero_of_not_mem fun hmem => ?_
    split at hmem
    · rcases List.mem_cons.mp hmem with h | h
      · exact hnot (by decide) h.symm
      · exact hnot (by decide) (List.mem_singleton.mp h).symm
    · split at hmem
      · -- of the two small forms of the sigma neither is one of them
        split at hmem <;> exact hnot (by decide) (List.mem_singleton.mp hmem).symm
      · have hk : a ≠ 'k' := fun h => absurd ha (h ▸ by decide)
        exact smallForm_ne h0 (by omega) hk (by omega) (List.mem_singleton.mp hmem).symm

/-- A character of ASCII other than `k` is the small form of characters of ASCII only. The capital I
with a dot is no exception, since its small form is an `i` and a dot. -/
theorem toLower_of_smallForms_eq (h0 : 0 < a.toNat) (ha : a.toNat < 0x80) (hk : a ≠ 'k')
    {before after : List Char} (h : smallForms before c after = [a]) : c.toLower = a := by
  have hsigma : a ≠ '\u03c2' ∧ a ≠ '\u03c3' := by
    constructor <;> rintro rfl <;> exact absurd ha (by decide)
  rw [smallForms] at h
  split at h
  · exact (List.cons.inj h).1
  · split at h
    · exact absurd (List.cons.inj h).2 (List.cons_ne_nil _ _)
    · split at h
      · split at h
        · exact absurd (List.cons.inj h).1.symm hsigma.1
        · exact absurd (List.cons.inj h).1.symm hsigma.2
      · exact absurd (List.cons.inj h).1 (smallForm_ne h0 ha hk (by omega))

theorem smallForms_ne_nil (before : List Char) (c : Char) (after : List Char) :
    smallForms before c after ≠ [] := by
  rw [smallForms]
  split
  · exact List.cons_ne_nil _ _
  · split
    · exact List.cons_ne_nil _ _
    · split <;> exact List.cons_ne_nil _ _

end Characters

/-! ### Texts -/

variable {a : Char} {s : List Char}

/-- **Signs and digits remain** as often as they are. -/
theorem count_lowerCase (h0 : 0 < a.toNat) (ha : a.toNat < 0x41) (s : List Char) :
    (lowerCase s).count a = s.count a := by
  suffices key : ∀ before, (lowerCaseAfter before s).count a = s.count a from key []
  induction s with
  | nil => exact fun _ => rfl
  | cons c s ih =>
    intro before
    rw [lowerCaseAfter, List.count_append, ih, count_smallForms h0 ha, ← List.count_append,
      List.singleton_append]

/-- A text in lower case is never shorter. -/
theorem length_le_lowerCase (s : List Char) : s.length ≤ (lowerCase s).length := by
  suffices key : ∀ before, s.length ≤ (lowerCaseAfter before s).length from key []
  induction s with
  | nil => exact fun _ => Nat.le_refl 0
  | cons c s ih =>
    intro before
    have hpos := List.length_pos_iff.mpr (smallForms_ne_nil before c s)
    have := ih (c :: before)
    rw [lowerCaseAfter, List.length_append, List.length_cons]
    omega

theorem lowerCase_eq_nil_iff : lowerCase s = [] ↔ s = [] := by
  constructor
  · intro h
    have hle := length_le_lowerCase s
    rw [h] at hle
    exact List.length_eq_zero_iff.mp (Nat.le_zero.mp hle)
  · rintro rfl
    rfl

/-- A single character of ASCII other than `k` is left of a single character that has it as its
small form in ASCII. -/
theorem lowerCase_eq_singleton (h0 : 0 < a.toNat) (ha : a.toNat < 0x80) (hk : a ≠ 'k') :
    lowerCase s = [a] ↔ ∃ c, s = [c] ∧ c.toLower = a := by
  constructor
  · intro h
    have hle := length_le_lowerCase s
    have hne : s ≠ [] := fun hs => by
      rw [lowerCase_eq_nil_iff.mpr hs] at h
      exact absurd h.symm (List.cons_ne_nil _ _)
    rw [h, List.length_singleton] at hle
    obtain ⟨c, rfl⟩ := List.length_eq_one_iff.mp
      (Nat.le_antisymm hle (List.length_pos_iff.mpr hne))
    rw [lowerCase, lowerCaseAfter, lowerCaseAfter, List.append_nil] at h
    exact ⟨c, rfl, toLower_of_smallForms_eq h0 ha hk h⟩
  · rintro ⟨c, rfl, rfl⟩
    have hascii : ∀ d ∈ [c], d.toNat < 0x80 := by
      rw [toNat_toLower] at ha
      intro d hd
      rw [List.mem_singleton.mp hd]
      split at ha <;> omega
    rw [lowerCase_ascii hascii, List.map_singleton]

/-- Nothing but a sign or a digit is left of that sign or digit only. -/
theorem lowerCase_eq_singleton_iff (h0 : 0 < a.toNat) (ha : a.toNat < 0x41) :
    lowerCase s = [a] ↔ s = [a] := by
  have hk : a ≠ 'k' := fun h => absurd ha (h ▸ by decide)
  simp only [lowerCase_eq_singleton h0 (by omega) hk, toLower_eq_iff ha, exists_eq_right]

/-- **Nothing but a letter** other than `k` is left of that letter and of its capital. -/
theorem lowerCase_eq_letter_iff {capital : Char} (hA : 0x41 ≤ capital.toNat)
    (hZ : capital.toNat ≤ 0x5a) (ha : a.toNat = capital.toNat + 32) (hk : a ≠ 'k') :
    lowerCase s = [a] ↔ s = [a] ∨ s = [capital] := by
  simp only [lowerCase_eq_singleton (a := a) (by omega) (by omega) hk,
    toLower_eq_letter_iff hA hZ ha, and_or_left, exists_or, exists_eq_right]

end Text

end AdvisoryTriage
