/-!
# Replacing every occurrence of a pattern

`Text.replaceAll` reads a text from the left, writes one character for each occurrence of a pattern
it meets, and goes on behind that occurrence, so that occurrences never overlap and what is written
is not read again. So a text is taken apart into occurrences and the characters between them
(`Text.replaceAll_induction`), and what a replacement leaves can be counted piece by piece
(`Text.count_replaceAll`, `Text.length_replaceAll_le`, `Text.length_replaceAll_lt`).
-/

namespace AdvisoryTriage

namespace Text

/-- Writes `by'` for each occurrence of a non-empty `pattern`, from the left. -/
def replaceAll (pattern : List Char) (by' : Char) : List Char → List Char
  | [] => []
  | c :: s =>
    if pattern.isPrefixOf (c :: s) then
      by' :: replaceAll pattern by' (s.drop (pattern.length - 1))
    else
      c :: replaceAll pattern by' s
termination_by s => s.length
decreasing_by all_goals simp +arith

@[simp] theorem replaceAll_nil (pattern : List Char) (by' : Char) :
    replaceAll pattern by' [] = [] := by
  rw [replaceAll]

/-- A text in which the pattern occurs nowhere is left alone. -/
theorem replaceAll_eq_self {pattern : List Char} {by' : Char} {s : List Char}
    (h : ¬ pattern <:+: s) : replaceAll pattern by' s = s := by
  induction s with
  | nil => simp
  | cons c s ih =>
    have hp : ¬ pattern.isPrefixOf (c :: s) = true := fun hp =>
      h (List.isPrefixOf_iff_prefix.1 hp).isInfix
    rw [replaceAll, if_neg hp, ih fun hi => h (hi.trans (List.suffix_cons c s).isInfix)]

/-! ### What a replacement leaves -/

/-- Where the pattern is met, it is taken off and one character is written. -/
theorem replaceAll_append {pattern : List Char} (h : pattern ≠ []) (by' : Char) (s : List Char) :
    replaceAll pattern by' (pattern ++ s) = by' :: replaceAll pattern by' s := by
  cases pattern with
  | nil => exact absurd rfl h
  | cons p pattern =>
    have hp : (p :: pattern).isPrefixOf (p :: (pattern ++ s)) = true :=
      List.isPrefixOf_iff_prefix.mpr (List.prefix_append (p :: pattern) s)
    rw [List.cons_append, replaceAll, if_pos hp, List.length_cons, Nat.add_sub_cancel,
      List.drop_left]

/-- Where it is not, a character is kept. -/
theorem replaceAll_cons {pattern : List Char} {c : Char} {s : List Char}
    (h : ¬ pattern <+: c :: s) (by' : Char) :
    replaceAll pattern by' (c :: s) = c :: replaceAll pattern by' s := by
  rw [replaceAll, if_neg fun hp => h (List.isPrefixOf_iff_prefix.mp hp)]

/-- A text is either left at its first character or at its first occurrence of the pattern. -/
theorem replaceAll_induction {pattern : List Char} (hp : pattern ≠ []) {P : List Char → Prop}
    (nil : P []) (met : ∀ s, P s → P (pattern ++ s))
    (kept : ∀ c s, ¬ pattern <+: c :: s → P s → P (c :: s)) (s : List Char) : P s := by
  induction h : s.length using Nat.strongRecOn generalizing s with
  | _ n ih =>
    cases s with
    | nil => exact nil
    | cons c s =>
      by_cases hc : pattern <+: c :: s
      · obtain ⟨t, ht⟩ := hc
        rw [← ht]
        have hlen := congrArg List.length ht
        have hpos := List.length_pos_iff.mpr hp
        simp only [List.length_append] at hlen
        exact met t (ih t.length (by omega) t rfl)
      · exact kept c s hc (ih s.length (by rw [← h]; exact Nat.lt_succ_self _) s rfl)

/-- A character that the pattern holds as often as what is written for it occurs as often as
before. -/
theorem count_replaceAll {pattern : List Char} (hp : pattern ≠ []) {by' a : Char}
    (h : pattern.count a = [by'].count a) (s : List Char) :
    (replaceAll pattern by' s).count a = s.count a := by
  induction s using replaceAll_induction hp with
  | nil => simp
  | met s ih => rw [replaceAll_append hp, List.count_append, ← List.singleton_append,
      List.count_append, ih, h]
  | kept c s hc ih => rw [replaceAll_cons hc, List.count_cons, List.count_cons, ih]

/-- If nothing was written, nothing was replaced. -/
theorem replaceAll_eq_self_of_not_mem {pattern : List Char} (hp : pattern ≠ []) {by' : Char}
    {s : List Char} (h : by' ∉ replaceAll pattern by' s) : replaceAll pattern by' s = s := by
  induction s using replaceAll_induction hp with
  | nil => simp
  | met s ih =>
    rw [replaceAll_append hp] at h
    exact absurd List.mem_cons_self h
  | kept c s hc ih =>
    rw [replaceAll_cons hc] at h ⊢
    rw [ih fun hs => h (List.mem_cons_of_mem c hs)]

/-- Replacing never makes a text longer. -/
theorem length_replaceAll_le {pattern : List Char} (hp : pattern ≠ []) (by' : Char)
    (s : List Char) : (replaceAll pattern by' s).length ≤ s.length := by
  induction s using replaceAll_induction hp with
  | nil => simp
  | met s ih =>
    have hpos := List.length_pos_iff.mpr hp
    rw [replaceAll_append hp, List.length_cons, List.length_append]
    omega
  | kept c s hc ih =>
    rw [replaceAll_cons hc, List.length_cons, List.length_cons]
    exact Nat.succ_le_succ ih

/-- Replacing a pattern of several characters makes a text in which it occurs shorter. -/
theorem length_replaceAll_lt {pattern : List Char} (hp : 2 ≤ pattern.length) (by' : Char)
    {s : List Char} (h : pattern <:+: s) : (replaceAll pattern by' s).length < s.length := by
  have hne : pattern ≠ [] := List.length_pos_iff.mp (by omega)
  induction s using replaceAll_induction hne with
  | nil => exact absurd (List.infix_nil.mp h) hne
  | met s ih =>
    have hle := length_replaceAll_le hne by' s
    rw [replaceAll_append hne, List.length_cons, List.length_append]
    omega
  | kept c s hc ih =>
    rw [replaceAll_cons hc, List.length_cons, List.length_cons]
    exact Nat.succ_lt_succ (ih ((List.infix_cons_iff.mp h).resolve_left hc))

end Text

end AdvisoryTriage
