/-!
# Cutting a text at a separator

Specifiers are taken apart at single characters, from the left at the first one or from the right
at the last one. Both cuts are partial: a text without the separator has none.

* `Text.splitFirst?` and `Text.splitFirst?_eq_some_iff` – the part before holds no separator.
* `Text.splitLast?` and `Text.splitLast?_eq_some_iff` – the part after holds no separator.
-/

namespace AdvisoryTriage

namespace Text

/-- The two sides of the first separator. -/
def splitFirst? (sep : Char) : List Char → Option (List Char × List Char)
  | [] => none
  | c :: s => if c = sep then some ([], s) else (splitFirst? sep s).map fun (l, r) => (c :: l, r)

/-- The two sides of the last separator: the first one of the text read backwards. -/
def splitLast? (sep : Char) (s : List Char) : Option (List Char × List Char) :=
  (splitFirst? sep s.reverse).map fun (l, r) => (r.reverse, l.reverse)

/-! ### What the cuts return -/

theorem splitFirst?_eq_none_iff {sep : Char} {s : List Char} :
    splitFirst? sep s = none ↔ sep ∉ s := by
  induction s with
  | nil => simp [splitFirst?]
  | cons c s ih => by_cases h : c = sep <;> simp [splitFirst?, h, ih, Ne.symm]

theorem splitFirst?_eq_some_iff {sep : Char} {s l r : List Char} :
    splitFirst? sep s = some (l, r) ↔ s = l ++ sep :: r ∧ sep ∉ l := by
  induction s generalizing l with
  | nil => simp [splitFirst?]
  | cons c s ih =>
    by_cases h : c = sep
    · subst h
      cases l <;> simp +contextual [splitFirst?, eq_comm]
    · cases l with
      | nil => simp [splitFirst?, h]
      | cons d l =>
        simp only [splitFirst?, if_neg h, Option.map_eq_some_iff, Prod.mk.injEq, List.cons.injEq,
          Prod.exists, List.cons_append, List.mem_cons, not_or]
        constructor
        · rintro ⟨l', r', hs, ⟨rfl, rfl⟩, rfl⟩
          exact ⟨⟨rfl, (ih.1 hs).1⟩, Ne.symm h, (ih.1 hs).2⟩
        · rintro ⟨⟨rfl, hs⟩, -, hl⟩
          exact ⟨l, r, ih.2 ⟨hs, hl⟩, ⟨rfl, rfl⟩, rfl⟩

theorem splitLast?_eq_none_iff {sep : Char} {s : List Char} :
    splitLast? sep s = none ↔ sep ∉ s := by
  simp [splitLast?, splitFirst?_eq_none_iff]

theorem splitLast?_eq_some_iff {sep : Char} {s l r : List Char} :
    splitLast? sep s = some (l, r) ↔ s = l ++ sep :: r ∧ sep ∉ r := by
  simp only [splitLast?, Option.map_eq_some_iff, Prod.exists, splitFirst?_eq_some_iff,
    Prod.mk.injEq]
  constructor
  · rintro ⟨l', r', ⟨h, hl⟩, rfl, rfl⟩
    exact ⟨by simpa using congrArg List.reverse h, by simpa using hl⟩
  · rintro ⟨rfl, hr⟩
    exact ⟨r.reverse, l.reverse, by simpa using hr, by simp⟩

/-- A text is cut at its last separator in one way only. -/
theorem eq_and_eq_of_append_cons {sep : Char} {l r l' r' : List Char}
    (h : l ++ sep :: r = l' ++ sep :: r') (hr : sep ∉ r) (hr' : sep ∉ r') : l = l' ∧ r = r' := by
  have hs := splitLast?_eq_some_iff.mpr ⟨h, hr'⟩
  rw [splitLast?_eq_some_iff.mpr ⟨rfl, hr⟩] at hs
  exact Prod.mk.inj (Option.some.inj hs)

/-- What a text ends in behind a separator, if it holds no further one, is what follows the last
separator of the text. -/
theorem cons_suffix_iff_of_splitLast? {sep : Char} {s l r t : List Char}
    (h : splitLast? sep s = some (l, r)) (ht : sep ∉ t) : sep :: t <:+ s ↔ t = r := by
  constructor
  · rintro ⟨l', rfl⟩
    obtain ⟨hs, hr⟩ := splitLast?_eq_some_iff.mp h
    exact (eq_and_eq_of_append_cons hs ht hr).2
  · rintro rfl
    exact ⟨l, (splitLast?_eq_some_iff.mp h).1.symm⟩

/-- A text without a separator ends another one if it ends what follows one of its separators. -/
theorem suffix_append_cons_iff {sep : Char} {t l r : List Char} (h : sep ∉ t) :
    t <:+ l ++ sep :: r ↔ t <:+ r := by
  constructor
  · intro ht
    rcases List.suffix_or_suffix_of_suffix ht (List.suffix_append l (sep :: r)) with hs | hs
    · rcases List.suffix_cons_iff.mp hs with rfl | hs
      · exact absurd List.mem_cons_self h
      · exact hs
    · exact absurd (hs.mem List.mem_cons_self) h
  · exact fun ht => ht.trans ((List.suffix_cons sep r).trans (List.suffix_append l _))

end Text

end AdvisoryTriage
