import AdvisoryTriage.Proofs.Version.Tokens

/-!
# Pre-releases, additions and common fronts

A version with `~` and something behind it comes before the version, one with `^` and something
behind it comes after the version and before every continuation of it, and a front that two versions
have in common does not count. What stands in front is any text in these laws: it may end in
separators, in marks, or in the middle of a run (`Version.compare_marked`).

The walk along two strings would have to be followed through the whole common front. On tokens there
is nothing to follow, once it is known that a byte which is part of no run cuts a string into two
that have their tokens to themselves (`Version.tokens_append_cons`). Only there may a string be cut:
in the middle of a run the tokens of the parts are not those of the whole.
-/

namespace AdvisoryTriage

namespace Version

/-! ### Cutting a string between its tokens -/

/-- What opens a string and belongs to a class ends with it, if what follows does not belong. -/
theorem takeWhile_append_cons {p : UInt8 → Bool} {b : UInt8} (hb : p b = false)
    (s t : List UInt8) : (s ++ b :: t).takeWhile p = s.takeWhile p := by
  induction s with
  | nil => simp [hb]
  | cons c s ih =>
    rw [List.cons_append, List.takeWhile_cons, List.takeWhile_cons, ih]

theorem dropWhile_append_cons {p : UInt8 → Bool} {b : UInt8} (hb : p b = false)
    (s t : List UInt8) : (s ++ b :: t).dropWhile p = s.dropWhile p ++ b :: t := by
  induction s with
  | nil => simp [hb]
  | cons c s ih =>
    rw [List.cons_append, List.dropWhile_cons, List.dropWhile_cons, ih]
    split_ifs <;> rfl

/-- **A byte that is part of no run** separates the tokens in front of it from its own and those
behind it. -/
theorem tokens_append_cons {b : UInt8} (hdigit : isDigit b = false) (hletter : isLetter b = false)
    (s t : List UInt8) : tokens (s ++ b :: t) = tokens s ++ tokens (b :: t) := by
  fun_induction tokens s with
  | case1 => rfl
  | case2 s ih => rw [List.cons_append, tokens, if_pos rfl, ih, List.cons_append]
  | case3 s ht ih =>
    rw [List.cons_append, tokens, if_neg ht, if_pos rfl, ih, List.cons_append]
  | case4 c s ht hc hd ih =>
    rw [List.cons_append, tokens, if_neg ht, if_neg hc, if_pos hd, takeWhile_append_cons hdigit,
      dropWhile_append_cons hdigit, ih, List.cons_append]
  | case5 c s ht hc hd hl ih =>
    rw [List.cons_append, tokens, if_neg ht, if_neg hc, if_neg hd, if_pos hl,
      takeWhile_append_cons hletter, dropWhile_append_cons hletter, ih, List.cons_append]
  | case6 c s ht hc hd hl ih =>
    rw [List.cons_append, tokens, if_neg ht, if_neg hc, if_neg hd, if_neg hl, ih]

/-- The same for a text of that one byte between two texts. -/
theorem tokensOf_append {mark : String} {b : UInt8} (hmark : mark.toByteArray.data.toList = [b])
    (hdigit : isDigit b = false) (hletter : isLetter b = false) (s t : String) :
    tokensOf (s ++ mark ++ t) = tokensOf s ++ tokens (b :: t.toByteArray.data.toList) := by
  have hbytes : (s ++ mark ++ t).toByteArray.data.toList =
      s.toByteArray.data.toList ++ b :: t.toByteArray.data.toList := by
    simp [hmark]
  rw [tokensOf, hbytes, tokens_append_cons hdigit hletter, tokensOf]

theorem tokensOf_tilde (s t : String) :
    tokensOf (s ++ "~" ++ t) = tokensOf s ++ .tilde :: tokensOf t := by
  rw [tokensOf_append (b := tilde) rfl rfl rfl, tokens, if_pos rfl, tokensOf, tokensOf]

theorem tokensOf_caret (s t : String) :
    tokensOf (s ++ "^" ++ t) = tokensOf s ++ .caret :: tokensOf t := by
  rw [tokensOf_append (b := caret) rfl rfl rfl, tokens, if_neg (by decide), if_pos rfl, tokensOf,
    tokensOf]

theorem tokensOf_dot (s t : String) : tokensOf (s ++ "." ++ t) = tokensOf s ++ tokensOf t := by
  rw [tokensOf_append (b := 0x2e) rfl rfl rfl, tokens, if_neg (by decide), if_neg (by decide),
    if_neg (by decide), if_neg (by decide), tokensOf, tokensOf]

/-! ### The laws -/

/-- A text that opens with a run: its first byte is a digit or a letter of ASCII. -/
def OpensWithRun (s : String) : Prop :=
  ∃ b ∈ s.toByteArray.data.toList.head?, isDigit b = true ∨ isLetter b = true

instance (s : String) : Decidable (OpensWithRun s) :=
  decidable_of_iff (s.toByteArray.data.toList.head?.any fun b => isDigit b || isLetter b) <| by
    simp [OpensWithRun, Option.any_eq_true]

/-- No digit and no letter is a mark. -/
theorem ne_marks_of_run {b : UInt8} (h : isDigit b = true ∨ isLetter b = true) :
    b ≠ tilde ∧ b ≠ caret := by
  constructor <;> rintro rfl <;> revert h <;> decide

/-- The first token of a text that opens with a run is that run, and comes after the mark `^`. -/
theorem exists_tokensOf_eq_cons {s : String} (h : OpensWithRun s) :
    ∃ t rest, tokensOf s = t :: rest ∧ comparePosition (some .caret) (some t) = .lt := by
  obtain ⟨b, hb, hrun⟩ := h
  obtain ⟨bytes, hbytes⟩ := List.head?_eq_some_iff.mp hb
  obtain ⟨htilde, hcaret⟩ := ne_marks_of_run hrun
  rw [tokensOf, hbytes, tokens, if_neg htilde, if_neg hcaret]
  by_cases hdigit : isDigit b = true
  · rw [if_pos hdigit]
    exact ⟨_, _, rfl, rfl⟩
  · rw [if_neg hdigit, if_pos (hrun.resolve_left hdigit)]
    exact ⟨_, _, rfl, rfl⟩

/-- **The laws of the marks and of common fronts**, behind any text `s`: `~` goes before the end of
a version, `^` behind the end and before every run that continues it, and a front that ends in a dot
does not count. -/
theorem compare_marked (s t x y : String) :
    compare (s ++ "~" ++ t) s = .lt ∧ compare s (s ++ "^" ++ t) = .lt ∧
      (∀ u, OpensWithRun u → compare (s ++ "^" ++ t) (s ++ "." ++ u) = .lt) ∧
      compare (s ++ "." ++ x) (s ++ "." ++ y) = compare x y := by
  -- the common front is the tokens of `s`, and an end is a list of no tokens behind them
  have hend : tokensOf s = tokensOf s ++ [] := (List.append_nil _).symm
  refine ⟨?_, ?_, fun u hu => ?_, ?_⟩
  · rw [compare_eq, tokensOf_tilde, hend, List.append_assoc, compareTokens_append]
    exact compareTokens_cons_nil _ _
  · rw [compare_eq, tokensOf_caret, hend, List.append_assoc, compareTokens_append]
    exact compareTokens_nil_cons _ _
  · obtain ⟨run, rest, hrest, hlt⟩ := exists_tokensOf_eq_cons hu
    rw [compare_eq, tokensOf_caret, tokensOf_dot, compareTokens_append, hrest,
      compareTokens_cons_cons, hlt]
    rfl
  · rw [compare_eq, tokensOf_dot, tokensOf_dot, compareTokens_append, ← compare_eq]

/-- The laws behind a front that ends in the middle of a run of letters, a mark and separators. -/
theorem compare_marked_snapshot :
    OpensWithRun "el8" ∧ compare ("1.0rc^é-" ++ "^" ++ "git1") ("1.0rc^é-" ++ "." ++ "el8") = .lt ∧
      compare ("1.0rc^é-" ++ "~" ++ "git1") "1.0rc^é-" = .lt ∧
      compare ("1.0rc^é-" ++ "." ++ "007") ("1.0rc^é-" ++ "." ++ "7") = .eq := by
  have hrun : OpensWithRun "el8" := by decide
  have hlaws := compare_marked "1.0rc^é-" "git1" "007" "7"
  have hvalue : compare "007" "7" = .eq := by decide +kernel
  exact ⟨hrun, hlaws.2.2.1 "el8" hrun, hlaws.1, hlaws.2.2.2.trans hvalue⟩

end Version

end AdvisoryTriage
