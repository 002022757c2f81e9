/-!
# The order of version strings

Versions and releases of packages are ordered by what they are made of: runs of digits, runs of
letters, and the two marks `~` and `^`. Every other byte only separates. The comparison walks along
both strings at once; each turn skips the separators in front of them and then looks at what comes
next on either side.

* `~` sorts before everything, the end of the string included: it announces a pre-release.
* The end of the string sorts before everything but `~`.
* `^` sorts after the end and before any run: it announces something on top of a release.
* A run of letters sorts before a run of digits.
* Two runs of digits compare as numbers of any size, two runs of letters byte by byte.

The work is done on bytes. The bytes of a character outside ASCII are all separators, so nothing is
lost by not looking at characters.

* `Version.step` – one turn, which either decides or leaves a shorter pair of strings.
* `Version.compareBytes` and `Version.compare` – the turns in sequence.
* `Version.length_lt_of_step` – a turn that goes on shortens the first string.
-/

namespace AdvisoryTriage

namespace Version

/-! ### Classes of bytes -/

/-- The digits of ASCII. -/
def isDigit (b : UInt8) : Bool := 0x30 ≤ b && b ≤ 0x39

/-- The letters of ASCII, in both cases. -/
def isLetter (b : UInt8) : Bool := (0x41 ≤ b && b ≤ 0x5a) || (0x61 ≤ b && b ≤ 0x7a)

/-- The byte of `~`. -/
def tilde : UInt8 := 0x7e

/-- The byte of `^`. -/
def caret : UInt8 := 0x5e

/-- Every byte that is neither part of a run nor a mark. -/
def isSeparator (b : UInt8) : Bool :=
  !isDigit b && !isLetter b && b != tilde && b != caret

/-! ### One turn of the comparison -/

/-- What stands in front of a string whose leading separators are gone. -/
inductive Front where
  /-- Nothing: the string is used up. -/
  | ended
  /-- The mark `~`. -/
  | tilde
  /-- The mark `^`. -/
  | caret
  /-- A run of digits. -/
  | digits
  /-- A run of letters. -/
  | letters
deriving DecidableEq

/-- The front of a string without leading separators. -/
def front : List UInt8 → Front
  | [] => .ended
  | b :: _ =>
    if b = Version.tilde then .tilde
    else if b = Version.caret then .caret
    else if isDigit b then .digits
    else .letters

/-- Compares two runs of digits by value: without leading zeros the longer run is the greater
number, and runs of one length compare digit by digit. -/
def compareDigits (a b : List UInt8) : Ordering :=
  let a := a.dropWhile (· == 0x30)
  let b := b.dropWhile (· == 0x30)
  (compare a.length b.length).then (compare a b)

/-- The outcome of one turn. -/
inductive Step where
  /-- The strings differ here, or both are used up. -/
  | decided (o : Ordering)
  /-- So far they agree, and these strings are left. -/
  | next (a b : List UInt8)

/-- Goes on behind two runs if they compare equal. -/
def Step.afterRuns (o : Ordering) (a b : List UInt8) : Step :=
  if o = .eq then .next a b else .decided o

/-- One turn on strings whose leading separators are gone. -/
def stepFront (a b : List UInt8) : Step :=
  match front a, front b with
  | .tilde, .tilde => .next a.tail b.tail
  | .tilde, _ => .decided .lt
  | _, .tilde => .decided .gt
  | .ended, .ended => .decided .eq
  | .ended, _ => .decided .lt
  | _, .ended => .decided .gt
  | .caret, .caret => .next a.tail b.tail
  | .caret, _ => .decided .lt
  | _, .caret => .decided .gt
  | .letters, .digits => .decided .lt
  | .digits, .letters => .decided .gt
  | .letters, .letters =>
    .afterRuns (compare (a.takeWhile isLetter) (b.takeWhile isLetter))
      (a.dropWhile isLetter) (b.dropWhile isLetter)
  | .digits, .digits =>
    .afterRuns (compareDigits (a.takeWhile isDigit) (b.takeWhile isDigit))
      (a.dropWhile isDigit) (b.dropWhile isDigit)

/-- One turn: the separators in front are skipped on both sides first. -/
def step (a b : List UInt8) : Step :=
  stepFront (a.dropWhile isSeparator) (b.dropWhile isSeparator)

/-! ### A turn moves forward -/

/-- What is left of a string when a class of bytes is skipped does not open with one of them. -/
theorem not_of_mem_head?_dropWhile (p : UInt8 → Bool) (s : List UInt8) :
    ∀ x ∈ (s.dropWhile p).head?, p x = false := by
  intro x hx
  have hn := List.head?_dropWhile_not p s
  rw [Option.mem_def] at hx
  simpa [hx] using hn

/-- A front other than the end takes at least one byte off a string without leading separators. -/
theorem length_lt_of_stepFront {a b a' b' : List UInt8}
    (ha : ∀ x ∈ a.head?, isSeparator x = false) (h : stepFront a b = .next a' b') :
    a'.length < a.length := by
  cases a with
  | nil =>
    unfold stepFront at h
    split at h <;> simp_all [front]
  | cons x a =>
    have run : ∀ p : UInt8 → Bool, p x = true →
        ((x :: a).dropWhile p).length < (x :: a).length := by
      intro p hp
      rw [List.dropWhile_cons_of_pos hp, List.length_cons]
      have := (List.dropWhile_suffix (l := a) p).length_le
      omega
    have hx : isSeparator x = false := ha x rfl
    unfold stepFront Step.afterRuns at h
    split at h <;> (try split at h) <;> cases h
    · simp
    · simp
    · refine run isLetter ?_
      simp only [front] at *
      grind [isSeparator]
    · refine run isDigit ?_
      simp only [front] at *
      grind

/-- A turn that goes on shortens the first string. -/
theorem length_lt_of_step {a b a' b' : List UInt8} (h : step a b = .next a' b') :
    a'.length < a.length := by
  have hs := length_lt_of_stepFront (not_of_mem_head?_dropWhile isSeparator a) h
  exact Nat.lt_of_lt_of_le hs (List.dropWhile_suffix _).length_le

/-! ### The comparison -/

/-- Compares two strings of bytes turn by turn. -/
def compareBytes (a b : List UInt8) : Ordering :=
  match _ : step a b with
  | .decided o => o
  | .next a' b' => compareBytes a' b'
termination_by a.length
decreasing_by exact length_lt_of_step ‹_›

/-- Compares two versions or two releases. Equal strings need no walk. -/
def compare (a b : String) : Ordering :=
  if a = b then .eq else compareBytes a.toByteArray.data.toList b.toByteArray.data.toList

end Version

end AdvisoryTriage
