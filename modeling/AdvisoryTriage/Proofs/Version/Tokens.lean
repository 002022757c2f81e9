import AdvisoryTriage.Proofs.Version.Digits
import Mathlib.Data.List.Basic

/-!
# Versions token by token

The comparison of versions walks along two strings at once. Here each string is cut on its own: into
the marks `~` and `^`, the runs of letters and the numbers that its runs of digits denote, with the
separators gone. The comparison is then the lexicographic one of two lists of tokens, where the end
of a list takes a position of its own, behind `~` and before everything else
(`Version.compareBytes_eq`, `Version.compare_eq`).

* `Version.tokens` – the tokens of a string of bytes.
* `Version.compareTokens` – the lexicographic comparison of two lists of tokens.
* `Version.instTransCmpCompare` – so versions are totally preordered, which the walk does not show:
  there the second string is cut to the type of the segment that the first one offers.
* `Version.compare_lexicographic` – the first position where two lists of tokens differ decides, and
  versions compare equal exactly if they have the same tokens.
-/

namespace AdvisoryTriage

namespace Version

/-! ### Tokens -/

/-- What a version is made of, separators apart. -/
inductive Token where
  /-- The mark `~`. -/
  | tilde
  /-- The mark `^`. -/
  | caret
  /-- A run of letters. -/
  | letters (run : List UInt8)
  /-- A run of digits, as the number it denotes. -/
  | number (value : Nat)
deriving DecidableEq

/-- The tokens of a string: every mark, every maximal run of letters and every maximal run of
digits. All other bytes go. -/
def tokens : List UInt8 → List Token
  | [] => []
  | b :: s =>
    if b = tilde then .tilde :: tokens s
    else if b = caret then .caret :: tokens s
    else if isDigit b then
      .number (decimal (b :: s.takeWhile isDigit)) :: tokens (s.dropWhile isDigit)
    else if isLetter b then
      .letters (b :: s.takeWhile isLetter) :: tokens (s.dropWhile isLetter)
    else tokens s
termination_by s => s.length
decreasing_by
  all_goals have := fun p => (List.dropWhile_suffix (l := s) p).length_le
  all_goals grind

theorem tokens_nil : tokens [] = [] := by
  rw [tokens]

/-- Separators in front make no tokens. -/
theorem tokens_dropWhile_isSeparator (s : List UInt8) :
    tokens (s.dropWhile isSeparator) = tokens s := by
  induction s with
  | nil => rfl
  | cons b s ih =>
    by_cases hb : isSeparator b = true
    · rw [List.dropWhile_cons_of_pos hb, ih]
      simp only [isSeparator, Bool.and_eq_true, Bool.not_eq_true', bne_iff_ne] at hb
      obtain ⟨⟨⟨hd, hl⟩, ht⟩, hc⟩ := hb
      rw [tokens, if_neg ht, if_neg hc, if_neg (by simp [hd]), if_neg (by simp [hl])]
    · rw [List.dropWhile_cons_of_neg hb]

/-- The tokens of a string without leading separators, by what stands in front. -/
theorem tokens_eq_of_front {s : List UInt8} (hs : ∀ b ∈ s.head?, isSeparator b = false) :
    tokens s = match front s with
      | .ended => []
      | .tilde => .tilde :: tokens s.tail
      | .caret => .caret :: tokens s.tail
      | .digits => .number (decimal (s.takeWhile isDigit)) :: tokens (s.dropWhile isDigit)
      | .letters => .letters (s.takeWhile isLetter) :: tokens (s.dropWhile isLetter) := by
  cases s with
  | nil => exact tokens_nil
  | cons b s =>
    have hb : isSeparator b = false := hs b rfl
    rw [tokens, front]
    split_ifs with ht hc hd hl
    · rfl
    · rfl
    · rw [List.takeWhile_cons_of_pos hd, List.dropWhile_cons_of_pos hd]
    · rw [List.takeWhile_cons_of_pos hl, List.dropWhile_cons_of_pos hl]
    · simp [isSeparator, ht, hc, hd, hl] at hb

/-! ### Their order -/

/-- The rank of what stands at a position of a list, where `none` stands at the end. -/
def rank : Option Token → Nat
  | some .tilde => 0
  | none => 1
  | some .caret => 2
  | some (.letters _) => 3
  | some (.number _) => 4

/-- The run of letters at a position. -/
def lettersAt : Option Token → List UInt8
  | some (.letters run) => run
  | _ => []

/-- The number at a position. -/
def numberAt : Option Token → Nat
  | some (.number value) => value
  | _ => 0

/-- Compares two positions: by rank, then runs of letters byte by byte and numbers by value. -/
def comparePosition : Option Token → Option Token → Ordering :=
  compareLex (compareOn rank) (compareLex (compareOn lettersAt) (compareOn numberAt))

/-- Compares two lists of tokens position by position, the end of a list being one. -/
def compareTokens (a b : List Token) : Ordering :=
  List.compareLex comparePosition (a.map some ++ [none]) (b.map some ++ [none])

instance instTransCmpComparePosition : Std.TransCmp comparePosition :=
  inferInstanceAs (Std.TransCmp (compareLex _ _))

instance instTransCmpCompareTokens : Std.TransCmp compareTokens where
  eq_swap {a b} := by
    rw [compareTokens, compareTokens]
    exact Std.OrientedCmp.eq_swap
  isLE_trans {a b c} hab hbc := by
    rw [compareTokens] at hab hbc ⊢
    exact Std.TransCmp.isLE_trans hab hbc

/-- Positions compare equal only if the same stands there. -/
instance instLawfulEqCmpComparePosition : Std.LawfulEqCmp comparePosition where
  eq_of_compare {s t} h := by
    rw [comparePosition, compareLex_eq_eq, compareLex_eq_eq] at h
    obtain ⟨hrank, hletters, hnumber⟩ := h
    have hrank : rank s = rank t := Std.LawfulEqCmp.eq_of_compare hrank
    have hletters : lettersAt s = lettersAt t := Std.LawfulEqCmp.eq_of_compare hletters
    have hnumber : numberAt s = numberAt t := Std.LawfulEqCmp.eq_of_compare hnumber
    rcases s with _ | _ | _ | r | n <;> rcases t with _ | _ | _ | r' | n' <;>
      simp_all [rank, lettersAt, numberAt]

/-- Lists of tokens compare equal only if they are the same. -/
instance instLawfulEqCmpCompareTokens : Std.LawfulEqCmp compareTokens where
  eq_of_compare {a b} h := by
    have h : a.map some ++ [none] = b.map some ++ [none] := Std.LawfulEqCmp.eq_of_compare h
    exact List.map_injective_iff.mpr (Option.some_injective _) (List.append_cancel_right h)

/-- Two equal positions are taken off together; otherwise the first one decides. -/
theorem compareTokens_cons_cons (s t : Token) (a b : List Token) :
    compareTokens (s :: a) (t :: b) =
      (comparePosition (some s) (some t)).then (compareTokens a b) := by
  simp only [compareTokens, List.map_cons, List.cons_append, List.compareLex_cons_cons]

theorem compareTokens_nil_cons (t : Token) (b : List Token) :
    compareTokens [] (t :: b) = comparePosition none (some t) := by
  cases t <;> rfl

theorem compareTokens_cons_nil (s : Token) (a : List Token) :
    compareTokens (s :: a) [] = comparePosition (some s) none := by
  cases s <;> rfl

/-- What two lists begin with in common does not count. -/
theorem compareTokens_append (common a b : List Token) :
    compareTokens (common ++ a) (common ++ b) = compareTokens a b := by
  induction common with
  | nil => rfl
  | cons t common ih =>
    have ht : comparePosition (some t) (some t) = .eq := Std.ReflCmp.compare_self
    rw [List.cons_append, List.cons_append, compareTokens_cons_cons, ht, Ordering.eq_then, ih]

/-- Lists that differ in their first position are decided there. -/
theorem compareTokens_eq_of_head? {a b : List Token} (h : a.head? = b.head? → a = [] ∧ b = []) :
    compareTokens a b = comparePosition a.head? b.head? := by
  rcases a with _ | ⟨s, a⟩ <;> rcases b with _ | ⟨t, b⟩
  · rfl
  · exact compareTokens_nil_cons t b
  · exact compareTokens_cons_nil s a
  · have hne : comparePosition (some s) (some t) ≠ .eq := by
      intro he
      have := h (Std.LawfulEqCmp.eq_of_compare he)
      simp at this
    rw [compareTokens_cons_cons, List.head?_cons, List.head?_cons]
    cases hc : comparePosition (some s) (some t) with
    | lt => rfl
    | eq => exact absurd hc hne
    | gt => rfl

/-- Two lists have something in common, perhaps nothing, and then differ or end. -/
theorem exists_common (a b : List Token) :
    ∃ common x y, a = common ++ x ∧ b = common ++ y ∧ (x.head? = y.head? → x = [] ∧ y = []) := by
  induction a generalizing b with
  | nil => exact ⟨[], [], b, rfl, rfl, by cases b <;> simp⟩
  | cons s a ih =>
    by_cases h : b.head? = some s
    · obtain ⟨b, rfl⟩ := List.head?_eq_some_iff.mp h
      obtain ⟨common, x, y, rfl, rfl, hxy⟩ := ih b
      exact ⟨s :: common, x, y, rfl, rfl, hxy⟩
    · exact ⟨[], s :: a, b, rfl, rfl, fun he => absurd he.symm h⟩

theorem comparePosition_letters (r r' : List UInt8) :
    comparePosition (some (.letters r)) (some (.letters r')) = Ord.compare r r' := by
  change Ordering.eq.then ((Ord.compare r r').then .eq) = _
  rw [Ordering.eq_then, Ordering.then_eq]

theorem comparePosition_number (n n' : Nat) :
    comparePosition (some (.number n)) (some (.number n')) = Ord.compare n n' := rfl

/-! ### The walk, token by token -/

/-- What a turn comes to if the strings it leaves are compared by their tokens. -/
def Step.outcome : Step → Ordering
  | .decided o => o
  | .next a b => compareTokens (tokens a) (tokens b)

theorem outcome_afterRuns (o : Ordering) (a b : List UInt8) :
    (Step.afterRuns o a b).outcome = o.then (compareTokens (tokens a) (tokens b)) := by
  cases o <;> rfl

/-- A run of digits holds digits only. -/
theorem isDigit_of_mem_takeWhile (s : List UInt8) : ∀ x ∈ s.takeWhile isDigit, isDigit x = true :=
  List.all_eq_true.mp List.all_takeWhile

/-- A turn on strings without leading separators compares their first tokens, ends included. -/
theorem outcome_stepFront {a b : List UInt8} (ha : ∀ x ∈ a.head?, isSeparator x = false)
    (hb : ∀ x ∈ b.head?, isSeparator x = false) :
    (stepFront a b).outcome = compareTokens (tokens a) (tokens b) := by
  rw [tokens_eq_of_front ha, tokens_eq_of_front hb, stepFront]
  -- of the twenty-five pairs of fronts, those of different types are decided by their ranks
  cases front a <;> cases front b <;>
    simp only [compareTokens_cons_cons, compareTokens_nil_cons, compareTokens_cons_nil,
      outcome_afterRuns]
  case digits.digits =>
    rw [comparePosition_number,
      compareDigits_eq (isDigit_of_mem_takeWhile a) (isDigit_of_mem_takeWhile b)]
  case letters.letters => rw [comparePosition_letters]
  all_goals rfl

/-- A turn compares the first tokens of two strings. -/
theorem outcome_step (a b : List UInt8) :
    (step a b).outcome = compareTokens (tokens a) (tokens b) := by
  have ha := not_of_mem_head?_dropWhile isSeparator a
  have hb := not_of_mem_head?_dropWhile isSeparator b
  rw [step, outcome_stepFront ha hb, tokens_dropWhile_isSeparator, tokens_dropWhile_isSeparator]

/-- **The walk compares the tokens.** The induction is on the turns: each one hands its strings on
with the comparison of their tokens unchanged. -/
theorem compareBytes_eq (a b : List UInt8) :
    compareBytes a b = compareTokens (tokens a) (tokens b) := by
  fun_induction compareBytes a b with
  | case1 a b o h => rw [← outcome_step, h, Step.outcome]
  | case2 a b a' b' h ih => rw [ih, ← outcome_step a b, h, Step.outcome]

/-- The tokens of a version or a release. -/
def tokensOf (s : String) : List Token :=
  tokens s.toByteArray.data.toList

/-- The comparison of versions is that of their tokens, and the answer for equal strings fits in. -/
theorem compare_eq (a b : String) : compare a b = compareTokens (tokensOf a) (tokensOf b) := by
  rw [compare]
  split_ifs with h
  · rw [h]
    exact Std.ReflCmp.compare_self.symm
  · exact compareBytes_eq _ _

/-- **Versions are totally preordered.** -/
instance instTransCmpCompare : Std.TransCmp compare where
  eq_swap {a b} := by
    rw [compare_eq, compare_eq]
    exact Std.OrientedCmp.eq_swap
  isLE_trans {a b c} hab hbc := by
    rw [compare_eq] at hab hbc ⊢
    exact Std.TransCmp.isLE_trans hab hbc

/-- **Versions are compared by the first position at which their tokens differ**, where the end of a
list is a position of its own. So they compare equal exactly if they have the same tokens, and the
answer for equal strings is the one that the walk arrives at. -/
theorem compare_lexicographic (a b : String) :
    compare a b = compareTokens (tokensOf a) (tokensOf b) ∧
      (∃ common x y, tokensOf a = common ++ x ∧ tokensOf b = common ++ y ∧
        (x.head? = y.head? → x = [] ∧ y = []) ∧
        compare a b = comparePosition x.head? y.head?) ∧
      (compare a b = .eq ↔ tokensOf a = tokensOf b) ∧
      compare a b = compareBytes a.toByteArray.data.toList b.toByteArray.data.toList := by
  refine ⟨compare_eq a b, ?_, ?_, ?_⟩
  · obtain ⟨common, x, y, ha, hb, hxy⟩ := exists_common (tokensOf a) (tokensOf b)
    refine ⟨common, x, y, ha, hb, hxy, ?_⟩
    rw [compare_eq, ha, hb, compareTokens_append, compareTokens_eq_of_head? hxy]
  · rw [compare_eq]
    exact Std.LawfulEqCmp.compare_eq_iff_eq
  · rw [compare_eq, compareBytes_eq]
    rfl

example : compare "1.0~rc1" "1.0" = .lt ∧ compare "1.0^git1" "1.0.1" = .lt ∧
    compare "1.0^" "1.0-" = .gt ∧ compare "1.001é" "é1..1" = .eq := by decide +kernel

end Version

end AdvisoryTriage
