import AdvisoryTriage.Version.Order
import Mathlib.Data.Nat.Digits.Defs
import Mathlib.Order.Defs.LinearOrder
import Mathlib.Tactic.Ring

/-!
# The value of a run of digits

Two runs of digits are compared without ever being read as numbers: leading zeros go, the longer run
is the greater, and runs of one length are compared digit by digit. This file says what that comes
to. `Version.decimal` is the number that a run denotes, of whatever size, and
`Version.compareDigits_eq` says that the comparison of runs is the comparison of these numbers.

Two bounds carry the argument: a run of `n` digits denotes a number below `10 ^ n`
(`Version.decimal_lt`), and one that does not open with a zero denotes at least `10 ^ (n - 1)`
(`Version.le_decimal`). So the length decides first, and only runs of one length are left.

Reading from the front and adding up the places are the same (`Version.decimal_eq_ofDigits`), so the
numbers compared are those that the runs write in base ten
(`Version.compareDigits_eq_compare_ofDigits`).
-/

namespace AdvisoryTriage

namespace Version

/-- The number that a run of digits denotes in base ten. -/
def decimal (run : List UInt8) : Nat :=
  run.foldl (fun n b => 10 * n + (b.toNat - 0x30)) 0

@[simp] theorem decimal_nil : decimal [] = 0 := rfl

/-- Reading on from `n` shifts `n` by as many places as there are digits to come. -/
theorem foldl_decimal (run : List UInt8) :
    ∀ n, run.foldl (fun n b => 10 * n + (b.toNat - 0x30)) n =
      n * 10 ^ run.length + decimal run := by
  induction run with
  | nil => intro n; simp
  | cons b run ih =>
    intro n
    rw [decimal, List.foldl_cons, List.foldl_cons, ih, ih (10 * 0 + _), List.length_cons, pow_succ]
    ring

/-- The first digit counts for its place. -/
theorem decimal_cons (b : UInt8) (run : List UInt8) :
    decimal (b :: run) = (b.toNat - 0x30) * 10 ^ run.length + decimal run := by
  rw [decimal, List.foldl_cons, foldl_decimal, Nat.mul_zero, Nat.zero_add]

/-- The bounds of a digit, as a number. -/
theorem toNat_of_isDigit {b : UInt8} (h : isDigit b = true) : 0x30 ≤ b.toNat ∧ b.toNat ≤ 0x39 := by
  simpa [isDigit, UInt8.le_iff_toNat_le] using h

/-- A run of digits denotes less than one more digit would at least denote. -/
theorem decimal_lt {run : List UInt8} (h : ∀ b ∈ run, isDigit b = true) :
    decimal run < 10 ^ run.length := by
  induction run with
  | nil => simp
  | cons b run ih =>
    obtain ⟨-, hb⟩ := toNat_of_isDigit (h b List.mem_cons_self)
    have hrun := ih fun c hc => h c (List.mem_cons_of_mem b hc)
    have hd : (b.toNat - 0x30) * 10 ^ run.length ≤ 9 * 10 ^ run.length :=
      Nat.mul_le_mul_right _ (by omega)
    rw [decimal_cons, List.length_cons, pow_succ]
    omega

/-- A run that opens with another digit than zero uses its first place. -/
theorem le_decimal {b : UInt8} {run : List UInt8} (h : isDigit b = true) (hb : b ≠ 0x30) :
    10 ^ run.length ≤ decimal (b :: run) := by
  obtain ⟨hlo, -⟩ := toNat_of_isDigit h
  have hne : b.toNat ≠ 0x30 := fun he => hb (UInt8.toNat_inj.mp he)
  have hd : 1 * 10 ^ run.length ≤ (b.toNat - 0x30) * 10 ^ run.length :=
    Nat.mul_le_mul_right _ (by omega)
  rw [decimal_cons]
  omega

/-- Leading zeros do not count. -/
theorem decimal_dropWhile (run : List UInt8) :
    decimal (run.dropWhile (· == 0x30)) = decimal run := by
  induction run with
  | nil => rfl
  | cons b run ih =>
    by_cases hb : b = 0x30
    · rw [List.dropWhile_cons_of_pos (by simpa using hb), ih, decimal_cons, hb]
      simp
    · rw [List.dropWhile_cons_of_neg (by simpa using hb)]

/-- Of two runs of one length, the one with the greater first digit denotes the greater number:
what comes behind never makes up for it. -/
theorem decimal_cons_lt {x y : UInt8} {a b : List UInt8} (hx : isDigit x = true)
    (ha : ∀ z ∈ a, isDigit z = true) (hxy : x < y) (hl : a.length = b.length) :
    decimal (x :: a) < decimal (y :: b) := by
  obtain ⟨hlo, -⟩ := toNat_of_isDigit hx
  have hlt := UInt8.lt_iff_toNat_lt.mp hxy
  have hd : (x.toNat - 0x30 + 1) * 10 ^ a.length ≤ (y.toNat - 0x30) * 10 ^ a.length :=
    Nat.mul_le_mul_right _ (by omega)
  have hal := decimal_lt ha
  rw [add_mul, one_mul] at hd
  rw [decimal_cons, decimal_cons, ← hl]
  omega

/-- Between runs of one length, the first difference decides. -/
theorem compare_eq_of_length_eq {a : List UInt8} :
    ∀ {b : List UInt8}, (∀ x ∈ a, isDigit x = true) → (∀ x ∈ b, isDigit x = true) →
      a.length = b.length → Ord.compare a b = Ord.compare (decimal a) (decimal b) := by
  induction a with
  | nil =>
    intro b _ _ hl
    rw [List.eq_nil_of_length_eq_zero hl.symm]
    rfl
  | cons x a ih =>
    rintro (_ | ⟨y, b⟩) ha hb hl
    · simp at hl
    · have hl' : a.length = b.length := by simpa using hl
      have ha' : ∀ z ∈ a, isDigit z = true := fun z hz => ha z (List.mem_cons_of_mem x hz)
      have hb' : ∀ z ∈ b, isDigit z = true := fun z hz => hb z (List.mem_cons_of_mem y hz)
      rw [List.compare_cons_cons]
      cases hxy : Ord.compare x y with
      | lt =>
        have hlt := decimal_cons_lt (ha x List.mem_cons_self) ha' (Std.compare_eq_lt.mp hxy) hl'
        rw [Ordering.lt_then, compare_lt_iff_lt.mpr hlt]
      | eq =>
        obtain rfl : x = y := Std.LawfulEqOrd.eq_of_compare hxy
        rw [Ordering.eq_then, ih ha' hb' hl', decimal_cons, decimal_cons, ← hl']
        rcases lt_trichotomy (decimal a) (decimal b) with h | h | h
        · rw [compare_lt_iff_lt.mpr h, compare_lt_iff_lt.mpr (by omega)]
        · rw [compare_eq_iff_eq.mpr h, compare_eq_iff_eq.mpr (by omega)]
        · rw [compare_gt_iff_gt.mpr h, compare_gt_iff_gt.mpr (by omega)]
      | gt =>
        have hlt := decimal_cons_lt (hb y List.mem_cons_self) hb' (Std.compare_eq_gt.mp hxy)
          hl'.symm
        rw [Ordering.gt_then, compare_gt_iff_gt.mpr hlt]

/-- A run that is longer without leading zeros denotes the greater number. -/
theorem decimal_lt_of_length_lt {a b : List UInt8} (ha : ∀ x ∈ a, isDigit x = true)
    (hb : ∀ x ∈ b, isDigit x = true) (h0 : ∀ x ∈ b.head?, x ≠ 0x30) (h : a.length < b.length) :
    decimal a < decimal b := by
  cases b with
  | nil => simp at h
  | cons y b =>
    calc decimal a < 10 ^ a.length := decimal_lt ha
      _ ≤ 10 ^ b.length := Nat.pow_le_pow_right (by omega) (by simpa using Nat.le_of_lt_succ h)
      _ ≤ decimal (y :: b) := le_decimal (hb y List.mem_cons_self) (h0 y rfl)

/-- What is left of a run without its leading zeros does not open with one. -/
theorem head?_dropWhile_ne_zero (run : List UInt8) :
    ∀ x ∈ (run.dropWhile (· == 0x30)).head?, x ≠ 0x30 := by
  intro x hx
  simpa using not_of_mem_head?_dropWhile (· == 0x30) run x hx

/-- **Runs of digits are compared by value**, whatever their lengths and however many zeros they
open with. -/
theorem compareDigits_eq {a b : List UInt8} (ha : ∀ x ∈ a, isDigit x = true)
    (hb : ∀ x ∈ b, isDigit x = true) :
    compareDigits a b = Ord.compare (decimal a) (decimal b) := by
  have ha' : ∀ x ∈ a.dropWhile (· == 0x30), isDigit x = true := fun x hx =>
    ha x ((List.dropWhile_sublist _).subset hx)
  have hb' : ∀ x ∈ b.dropWhile (· == 0x30), isDigit x = true := fun x hx =>
    hb x ((List.dropWhile_sublist _).subset hx)
  rw [← decimal_dropWhile a, ← decimal_dropWhile b, compareDigits]
  rcases lt_trichotomy (a.dropWhile (· == 0x30)).length (b.dropWhile (· == 0x30)).length
    with h | h | h
  · have hlt := decimal_lt_of_length_lt ha' hb' (head?_dropWhile_ne_zero b) h
    rw [compare_lt_iff_lt.mpr h, compare_lt_iff_lt.mpr hlt, Ordering.lt_then]
  · rw [compare_eq_iff_eq.mpr h, Ordering.eq_then, compare_eq_of_length_eq ha' hb' h]
  · have hlt := decimal_lt_of_length_lt hb' ha' (head?_dropWhile_ne_zero a) h
    rw [compare_gt_iff_gt.mpr h, compare_gt_iff_gt.mpr hlt, Ordering.gt_then]

/-! ### Places -/

/-- The digits of a run as numbers, in the order of their places: the last digit counts once. -/
def places (run : List UInt8) : List Nat :=
  run.reverse.map fun b => b.toNat - 0x30

/-- Reading a run from its front comes to the sum over its places. -/
theorem decimal_eq_ofDigits (run : List UInt8) : decimal run = Nat.ofDigits 10 (places run) := by
  induction run with
  | nil => rfl
  | cons b run ih =>
    have hplaces : places (b :: run) = places run ++ [b.toNat - 0x30] := by
      simp only [places, List.reverse_cons, List.map_append, List.map_cons, List.map_nil]
    have hlength : (places run).length = run.length := by
      rw [places, List.length_map, List.length_reverse]
    rw [decimal_cons, ih, hplaces, Nat.ofDigits_append, Nat.ofDigits_singleton, hlength]
    ring

/-- **Runs of digits are compared as the numbers that they write in base ten**, however many digits
they have. Zeros in front write nothing, and neither does the empty run. -/
theorem compareDigits_eq_compare_ofDigits {a b : List UInt8} (ha : ∀ x ∈ a, isDigit x = true)
    (hb : ∀ x ∈ b, isDigit x = true) :
    compareDigits a b =
      Ord.compare (Nat.ofDigits 10 (places a)) (Nat.ofDigits 10 (places b)) := by
  rw [compareDigits_eq ha hb, decimal_eq_ofDigits, decimal_eq_ofDigits]

/-- Two runs past every machine word, of which the longer one writes the smaller number. -/
theorem compareDigits_longerButSmaller :
    (∀ x ∈ "000018446744073709551616".toByteArray.data.toList, isDigit x = true) ∧
      (∀ x ∈ "018446744073709551617".toByteArray.data.toList, isDigit x = true) ∧
      compareDigits "000018446744073709551616".toByteArray.data.toList
          "018446744073709551617".toByteArray.data.toList =
        Ord.compare 18446744073709551616 18446744073709551617 := by
  have ha : ∀ x ∈ "000018446744073709551616".toByteArray.data.toList, isDigit x = true := by
    decide +kernel
  have hb : ∀ x ∈ "018446744073709551617".toByteArray.data.toList, isDigit x = true := by
    decide +kernel
  refine ⟨ha, hb, ?_⟩
  rw [compareDigits_eq_compare_ofDigits ha hb]
  decide +kernel

end Version

end AdvisoryTriage
