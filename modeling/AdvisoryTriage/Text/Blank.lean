/-!
# Blank characters

Specifiers and fix states arrive with stray space around them, and a list of states written on one
line pads its items. This module says which characters count as space and removes them from both
ends of a text.

* `Text.isBlank` – the characters with the property `White_Space`: twenty-five of them, most outside
  ASCII.
* `Text.trim` – a text without the blanks at its two ends; blanks inside stay.
-/

namespace AdvisoryTriage

namespace Text

/-- Blank characters: the characters with the property `White_Space`. The zero-width characters and
the byte order mark are not among them. -/
def isBlank (c : Char) : Bool :=
  c == ' ' || ('\t' ≤ c && c ≤ '\r') || c == '\u0085' || c == '\u00a0' || c == '\u1680' ||
    ('\u2000' ≤ c && c ≤ '\u200a') || c == '\u2028' || c == '\u2029' || c == '\u202f' ||
    c == '\u205f' || c == '\u3000'

/-- Removes the blanks at both ends. -/
def trim (s : List Char) : List Char :=
  ((s.dropWhile isBlank).reverse.dropWhile isBlank).reverse

/-! ### Small facts -/

@[simp] theorem trim_nil : trim [] = [] := rfl

/-- A text that neither starts nor ends with a blank is its own trimming. -/
theorem trim_eq_self {s : List Char} (hs : ∀ c ∈ s.head?, isBlank c = false)
    (he : ∀ c ∈ s.getLast?, isBlank c = false) : trim s = s := by
  have key : ∀ t : List Char, (∀ c ∈ t.head?, isBlank c = false) → t.dropWhile isBlank = t := by
    intro t ht
    cases t with
    | nil => rfl
    | cons c t => simp [ht c (by simp)]
  rw [trim, key s hs, key s.reverse (by simpa using he), List.reverse_reverse]

/-- What is removed from a text is at its two ends and consists of blanks. -/
theorem exists_append_trim (s : List Char) :
    ∃ front back, s = front ++ trim s ++ back ∧ (∀ c ∈ front, isBlank c = true) ∧
      ∀ c ∈ back, isBlank c = true := by
  have hblank (t : List Char) : ∀ c ∈ t.takeWhile isBlank, isBlank c = true :=
    List.all_eq_true.mp List.all_takeWhile
  refine ⟨s.takeWhile isBlank, ((s.dropWhile isBlank).reverse.takeWhile isBlank).reverse, ?_,
    hblank s, fun c hc => hblank _ c (List.mem_reverse.mp hc)⟩
  rw [trim, List.append_assoc, ← List.reverse_append, List.takeWhile_append_dropWhile,
    List.reverse_reverse, List.takeWhile_append_dropWhile]

/-- Blanks put around a text are removed with its own. -/
theorem trim_append {front back : List Char} (hfront : ∀ c ∈ front, isBlank c = true)
    (hback : ∀ c ∈ back, isBlank c = true) (s : List Char) :
    trim (front ++ s ++ back) = trim s := by
  have hrest : (back ++ []).dropWhile isBlank = [] := List.dropWhile_append_of_pos hback
  have hturned : ∀ c ∈ back.reverse, isBlank c = true :=
    fun c hc => hback c (List.mem_reverse.mp hc)
  rw [trim, trim, List.append_assoc, List.dropWhile_append_of_pos hfront, List.dropWhile_append]
  split
  · next hs => rw [← List.append_nil back, hrest, List.isEmpty_iff.mp hs]
  · rw [List.reverse_append, List.dropWhile_append_of_pos hturned]

/-- A text from which nothing is removed stays as it is. -/
theorem trim_eq_self_of_length {s : List Char} (h : (trim s).length = s.length) : trim s = s := by
  obtain ⟨front, back, hs, -, -⟩ := exists_append_trim s
  have hlength := congrArg List.length hs
  rw [List.length_append, List.length_append] at hlength
  have hfront : front = [] := List.eq_nil_of_length_eq_zero (by omega)
  have hback : back = [] := List.eq_nil_of_length_eq_zero (by omega)
  rw [hfront, hback, List.nil_append, List.append_nil] at hs
  exact hs.symm

/-- What is left of a text without the blanks around it does not end in a blank. -/
theorem isBlank_of_mem_getLast?_trim (s : List Char) :
    ∀ c ∈ (trim s).getLast?, isBlank c = false := by
  intro c hc
  have hn := List.head?_dropWhile_not isBlank (s.dropWhile isBlank).reverse
  rw [trim, List.getLast?_reverse, Option.mem_def] at hc
  simpa [hc] using hn

/-- Nor does it start with one. -/
theorem isBlank_of_mem_head?_trim (s : List Char) :
    ∀ c ∈ (trim s).head?, isBlank c = false := by
  intro c hc
  obtain ⟨t, ht⟩ : trim s <+: s.dropWhile isBlank := by
    rw [trim, ← List.reverse_suffix, List.reverse_reverse]
    exact List.dropWhile_suffix _
  have hn := List.head?_dropWhile_not isBlank s
  rw [Option.mem_def] at hc
  rw [← ht, List.head?_append, hc, Option.some_or] at hn
  exact hn

@[simp] theorem trim_trim (s : List Char) : trim (trim s) = trim s :=
  trim_eq_self (isBlank_of_mem_head?_trim s) (isBlank_of_mem_getLast?_trim s)

end Text

end AdvisoryTriage
