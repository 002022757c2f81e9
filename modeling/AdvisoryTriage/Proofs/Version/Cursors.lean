import AdvisoryTriage.Version.Order
import Mathlib.Data.Nat.Basic
import Mathlib.Logic.Relation

/-!
# Walking along two strings with cursors

The comparison of versions hands the rest of each string from turn to turn. The same walk can be
done in place: both strings stay as they are, and two cursors say how far each has been read. Then
there is something to go wrong. A byte may be looked at where none is, a slice may be cut that
begins behind its end or ends behind the string, and the loop may turn without moving. This file
takes the walk apart into single movements of the cursors, lets a movement fail if it looks at what
is not there (`Version.Walk.next?`), and shows that none does.

Two invariants carry this. Behind the separators of the left string its cursor is at the end or on a
byte that is no separator, and in front of two runs it is on a byte of one
(`Version.Walk.Sound`). So the run of the left string is never empty, and a turn that leads to
another one has moved the left cursor. The right run may well be empty; then the turn decides.

* `Version.Walk.next?` – one movement, which looks at bytes and cuts slices only where they are.
* `Version.Walk.Sound.possible` – from a sound place a movement is possible, it leads to a sound
  place, and it takes neither cursor back.
* `Version.stepFront_of_runs` – in front of two runs the comparison can be said by the class of the
  left one alone, as the walk has it.
* `Version.Walk.performs_turn` – the movements of a turn come to what `Version.step` says.
* `Version.walk_inBounds_and_answers` – so the walk stays within the strings, gets ahead with every
  turn, and arrives at the comparison of the strings.
-/

namespace AdvisoryTriage

namespace Version

/-! ### Slices -/

/-- The slice of a string between two places. There is one only if they are in this order and within
the string. -/
def slice? (s : List UInt8) (i j : Nat) : Option (List UInt8) :=
  if i ≤ j ∧ j ≤ s.length then some ((s.drop i).take (j - i)) else none

/-- Where the bytes of a class that stand at a place come to an end: at the first byte of another
class, or with the string. -/
def runEnd? (p : UInt8 → Bool) (s : List UInt8) (i : Nat) : Option Nat :=
  (slice? s i s.length).map fun rest => i + rest.findIdx fun b => !p b

theorem slice?_eq_some {s : List UInt8} {i j : Nat} (hij : i ≤ j) (hj : j ≤ s.length) :
    slice? s i j = some ((s.drop i).take (j - i)) :=
  if_pos ⟨hij, hj⟩

/-- **What the end of a run is**: it lies between the place and the end of the string, what stands
in between is the run, and behind it the string goes on without the run. -/
structure EndsRun (p : UInt8 → Bool) (s : List UInt8) (i j : Nat) : Prop where
  le : i ≤ j
  le_length : j ≤ s.length
  slice_eq : slice? s i j = some ((s.drop i).takeWhile p)
  drop_eq : s.drop j = (s.drop i).dropWhile p

theorem exists_runEnd? (p : UInt8 → Bool) {s : List UInt8} {i : Nat} (hi : i ≤ s.length) :
    ∃ j, runEnd? p s i = some j ∧ EndsRun p s i j := by
  have hrest : slice? s i s.length = some (s.drop i) := by
    rw [slice?_eq_some hi le_rfl, List.take_of_length_le (by rw [List.length_drop])]
  have hle : (s.drop i).findIdx (fun b => !p b) ≤ s.length - i := by
    rw [← List.length_drop]
    exact List.findIdx_le_length
  refine ⟨i + (s.drop i).findIdx fun b => !p b, ?_, Nat.le_add_right _ _, by omega, ?_, ?_⟩
  · rw [runEnd?, hrest, Option.map_some]
  · rw [slice?_eq_some (Nat.le_add_right _ _) (by omega), Nat.add_sub_cancel_left,
      List.takeWhile_eq_take_findIdx_not]
  · rw [List.dropWhile_eq_drop_findIdx_not, List.drop_drop]

/-- A run that ends where it begins is empty. -/
theorem EndsRun.eq_iff {p : UInt8 → Bool} {s : List UInt8} {i j : Nat} (h : EndsRun p s i j) :
    j = i ↔ (s.drop i).takeWhile p = [] := by
  have hrun : (s.drop i).take (j - i) = (s.drop i).takeWhile p :=
    Option.some.inj ((slice?_eq_some h.le h.le_length).symm.trans h.slice_eq)
  have hlen := congrArg List.length hrun
  rw [List.length_take, List.length_drop] at hlen
  have := h.le
  have := h.le_length
  rw [← List.length_eq_zero_iff]
  omega

/-! ### What is in front of a cursor -/

theorem getElem?_eq_tilde_iff {s : List UInt8} {i : Nat} :
    s[i]? = some tilde ↔ front (s.drop i) = .tilde := by
  rw [← List.head?_drop]
  cases s.drop i with
  | nil => simp [front]
  | cons c t =>
    rw [List.head?_cons, Option.some_inj, front]
    split_ifs <;> simp_all

theorem getElem?_eq_caret_iff {s : List UInt8} {i : Nat} :
    s[i]? = some caret ↔ front (s.drop i) = .caret := by
  rw [← List.head?_drop]
  cases s.drop i with
  | nil => simp [front]
  | cons c t =>
    rw [List.head?_cons, Option.some_inj, front]
    split_ifs <;> simp_all [tilde, caret]

theorem length_le_iff_front {s : List UInt8} {i : Nat} :
    s.length ≤ i ↔ front (s.drop i) = .ended := by
  rw [← List.drop_eq_nil_iff]
  cases s.drop i with
  | nil => simp [front]
  | cons c t =>
    rw [front]
    split_ifs <;> simp

theorem lt_length_of_front {s : List UInt8} {i : Nat} (h : front (s.drop i) ≠ .ended) :
    i < s.length :=
  Nat.lt_of_not_le fun hle => h (length_le_iff_front.mp hle)

theorem exists_cons_of_front_digits {s : List UInt8} (h : front s = .digits) :
    ∃ x t, s = x :: t ∧ isDigit x = true := by
  cases s with
  | nil => simp [front] at h
  | cons x t =>
    refine ⟨x, t, rfl, ?_⟩
    rw [front] at h
    split_ifs at h with ht hc hd
    exact hd

theorem exists_cons_of_front_letters {s : List UInt8} (h : front s = .letters)
    (hs : ∀ x ∈ s.head?, isSeparator x = false) :
    ∃ x t, s = x :: t ∧ isDigit x = false ∧ isLetter x = true := by
  cases s with
  | nil => simp [front] at h
  | cons x t =>
    have hx : isSeparator x = false := hs x rfl
    rw [front] at h
    split_ifs at h with ht hc hd
    exact ⟨x, t, rfl, by simpa using hd, by simpa [isSeparator, ht, hc, hd] using hx⟩

/-- A front that is neither a mark nor the end is a byte of a run. -/
theorem exists_run_byte {s : List UInt8} {i : Nat} (hs : ∀ x ∈ s[i]?, isSeparator x = false)
    (h : front (s.drop i) = .digits ∨ front (s.drop i) = .letters) :
    ∃ x, s[i]? = some x ∧ (isDigit x = true ∨ isLetter x = true) := by
  rw [← List.head?_drop] at hs ⊢
  rcases h with h | h
  · obtain ⟨x, t, hx, hd⟩ := exists_cons_of_front_digits h
    exact ⟨x, by rw [hx, List.head?_cons], .inl hd⟩
  · obtain ⟨x, t, hx, -, hl⟩ := exists_cons_of_front_letters h hs
    exact ⟨x, by rw [hx, List.head?_cons], .inr hl⟩

theorem isLetter_of_isDigit {x : UInt8} (h : isDigit x = true) : isLetter x = false := by
  simp only [isDigit, isLetter, Bool.and_eq_true, decide_eq_true_eq, UInt8.le_iff_toNat_le] at h ⊢
  grind

/-- The class of the run that a byte is part of. -/
def classOf (x : UInt8) : UInt8 → Bool :=
  if isDigit x then isDigit else isLetter

/-- Compares two runs of the class of a byte. -/
def compareRuns (x : UInt8) (run run' : List UInt8) : Ordering :=
  if isDigit x then compareDigits run run' else Ord.compare run run'

/-- A byte of a run is of its own class. -/
theorem classOf_self {x : UInt8} (hx : isDigit x = true ∨ isLetter x = true) :
    classOf x x = true := by
  by_cases hd : isDigit x = true
  · rw [classOf, if_pos hd, hd]
  · rw [classOf, if_neg hd]
    exact hx.resolve_left hd

/-- **In front of two runs** the comparison can be said by the class of the left one: the right
string is cut by that class too, and an empty run decides. -/
theorem stepFront_of_runs {x : UInt8} {s t : List UInt8} (hx : s.head? = some x)
    (hs : ∀ y ∈ s.head?, isSeparator y = false) (ht : ∀ y ∈ t.head?, isSeparator y = false)
    (hfronts : front s = .digits ∨ front s = .letters)
    (hfrontt : front t = .digits ∨ front t = .letters) :
    stepFront s t = if t.takeWhile (classOf x) = [] then .decided (if isDigit x then .gt else .lt)
      else .afterRuns (compareRuns x (s.takeWhile (classOf x)) (t.takeWhile (classOf x)))
        (s.dropWhile (classOf x)) (t.dropWhile (classOf x)) := by
  rw [stepFront]
  rcases hfronts with hfs | hfs
  · obtain ⟨x', s, rfl, hxd⟩ := exists_cons_of_front_digits hfs
    obtain rfl : x' = x := by simpa using hx
    rw [classOf, compareRuns, if_pos hxd, if_pos hxd, if_pos hxd, hfs]
    rcases hfrontt with hft | hft <;> rw [hft]
    · obtain ⟨y, t, rfl, hyd⟩ := exists_cons_of_front_digits hft
      rw [if_neg (by simp [hyd])]
    · obtain ⟨y, t, rfl, hyd, -⟩ := exists_cons_of_front_letters hft ht
      rw [if_pos (by simp [hyd])]
  · obtain ⟨x', s, rfl, hxd, -⟩ := exists_cons_of_front_letters hfs hs
    obtain rfl : x' = x := by simpa using hx
    have hnot : ¬ isDigit x' = true := by simp [hxd]
    rw [classOf, compareRuns, if_neg hnot, if_neg hnot, if_neg hnot, hfs]
    rcases hfrontt with hft | hft <;> rw [hft]
    · obtain ⟨y, t, rfl, hyd⟩ := exists_cons_of_front_digits hft
      rw [if_pos (by simp [isLetter_of_isDigit hyd])]
    · obtain ⟨y, t, rfl, -, hyl⟩ := exists_cons_of_front_letters hft ht
      rw [if_neg (by simp [hyl])]

/-! ### The movements -/

/-- The points of the loop between which the cursors move. -/
inductive Walk.Point where
  /-- At the condition of the loop. -/
  | turn
  /-- Among the separators of the left string. -/
  | leftSeparators
  /-- Among the separators of the right string. -/
  | rightSeparators
  /-- Behind the separators, where a mark or an end may stand. -/
  | marks
  /-- In front of two runs. -/
  | runs
  /-- Behind the loop. -/
  | ends
deriving DecidableEq

/-- A place of the walk: both cursors and the point of the loop. -/
structure Walk where
  left : Nat
  right : Nat
  point : Walk.Point
deriving DecidableEq

namespace Walk

/-- What a movement comes to. -/
inductive Move where
  /-- The walk goes on from another place. -/
  | goesOn (w : Walk)
  /-- The walk is over. -/
  | answers (o : Ordering)

/-- Goes on behind two runs if they compare equal. -/
def Move.afterRuns (o : Ordering) (w : Walk) : Move :=
  if o = .eq then .goesOn w else .answers o

/-- Both strings are read from their first bytes. -/
def start : Walk := ⟨0, 0, .turn⟩

/-- What is done at a place of a string where separators may stand: behind one the walk goes on
among them, and in front of anything else past them. -/
def skip? (s : List UInt8) (i : Nat) (among past : Walk) : Option Move :=
  if i < s.length then do
    if isSeparator (← s[i]?) then return .goesOn among else return .goesOn past
  else some (.goesOn past)

/-- What is done about marks and ends. A cursor at the end sees no mark. -/
def passMarks (a b : List UInt8) (w : Walk) : Move :=
  if a[w.left]? = some tilde ∨ b[w.right]? = some tilde then
    if a[w.left]? ≠ some tilde then .answers .gt
    else if b[w.right]? ≠ some tilde then .answers .lt
    else .goesOn ⟨w.left + 1, w.right + 1, .turn⟩
  else if a[w.left]? = some caret ∨ b[w.right]? = some caret then
    if a.length ≤ w.left then .answers .lt
    else if b.length ≤ w.right then .answers .gt
    else if a[w.left]? ≠ some caret then .answers .gt
    else if b[w.right]? ≠ some caret then .answers .lt
    else .goesOn ⟨w.left + 1, w.right + 1, .turn⟩
  else if a.length ≤ w.left ∨ b.length ≤ w.right then .goesOn { w with point := .ends }
  else .goesOn { w with point := .runs }

/-- What is done about two runs. The byte under the left cursor says which class both are cut by, so
the right run is empty if it is of the other class. -/
def passRuns? (a b : List UInt8) (w : Walk) : Option Move := do
  let x ← a[w.left]?
  let i ← runEnd? (classOf x) a w.left
  let j ← runEnd? (classOf x) b w.right
  if j = w.right then
    return .answers (if isDigit x then .gt else .lt)
  else
    let o := compareRuns x (← slice? a w.left i) (← slice? b w.right j)
    return .afterRuns o ⟨i, j, .turn⟩

/-- What the walk answers behind the loop: a string that is not used up is the greater one. -/
def answerAtEnds (a b : List UInt8) (w : Walk) : Ordering :=
  if a.length ≤ w.left then if b.length ≤ w.right then .eq else .lt else .gt

/-- **One movement.** There is none if a byte or a slice is asked for that the string does not
have. -/
def next? (a b : List UInt8) (w : Walk) : Option Move :=
  match w.point with
  | .turn =>
    if w.left < a.length ∨ w.right < b.length then
      some (.goesOn { w with point := .leftSeparators })
    else some (.goesOn { w with point := .ends })
  | .leftSeparators =>
    skip? a w.left { w with left := w.left + 1 } { w with point := .rightSeparators }
  | .rightSeparators =>
    skip? b w.right { w with right := w.right + 1 } { w with point := .marks }
  | .marks => some (passMarks a b w)
  | .runs => passRuns? a b w
  | .ends => some (.answers (answerAtEnds a b w))

variable {a b : List UInt8}

/-- From one place the walk goes on to another. -/
def Goes (a b : List UInt8) (w w' : Walk) : Prop :=
  next? a b w = some (.goesOn w')

/-- From the first place the walk comes to another. -/
def Reaches (a b : List UInt8) (w : Walk) : Prop :=
  Relation.ReflTransGen (Goes a b) start w

/-- From a place the walk comes to an answer. -/
def Answers (a b : List UInt8) (w : Walk) (o : Ordering) : Prop :=
  ∃ w', Relation.ReflTransGen (Goes a b) w w' ∧ next? a b w' = some (.answers o)

/-! ### Every movement is possible -/

/-- **The invariant of the walk**: the cursors are within the strings, behind the separators the
left one is on none, and in front of two runs it is on a byte of one. -/
structure Sound (a b : List UInt8) (w : Walk) : Prop where
  left_le : w.left ≤ a.length
  right_le : w.right ≤ b.length
  passed : w.point = .rightSeparators ∨ w.point = .marks →
    ∀ x ∈ a[w.left]?, isSeparator x = false
  onRun : w.point = .runs → ∃ x, a[w.left]? = some x ∧ (isDigit x = true ∨ isLetter x = true)

theorem sound_start (a b : List UInt8) : Sound a b start :=
  ⟨Nat.zero_le _, Nat.zero_le _, by simp [start], by simp [start]⟩

/-- What a movement may do: it keeps the invariant, it takes no cursor back, and it begins a turn
only if it has moved the left cursor. -/
structure Advances (a b : List UInt8) (w w' : Walk) : Prop where
  sound : Sound a b w'
  left_le : w.left ≤ w'.left
  right_le : w.right ≤ w'.right
  left_lt : w'.point = .turn → w.left < w'.left

/-- A movement that is possible and, if the walk goes on with it, advances. -/
inductive Possible (a b : List UInt8) (w : Walk) : Option Move → Prop
  | answers (o : Ordering) : Possible a b w (some (.answers o))
  | goesOn {w' : Walk} (h : Advances a b w w') : Possible a b w (some (.goesOn w'))

theorem Possible.exists_move {w : Walk} {move : Option Move} (h : Possible a b w move) :
    ∃ m, move = some m := by
  cases h <;> exact ⟨_, rfl⟩

/-- A movement that leaves the cursors where they are. -/
theorem Sound.stays {w : Walk} (h : Sound a b w) {point : Point} (hturn : point ≠ .turn)
    (hpassed : point = .rightSeparators ∨ point = .marks → ∀ x ∈ a[w.left]?, isSeparator x = false)
    (hruns : point = .runs → ∃ x, a[w.left]? = some x ∧ (isDigit x = true ∨ isLetter x = true)) :
    Advances a b w { w with point } :=
  ⟨⟨h.left_le, h.right_le, hpassed, hruns⟩, le_rfl, le_rfl, fun he => absurd he hturn⟩

theorem skip?_cases (s : List UInt8) (i : Nat) (among past : Walk) :
    (i < s.length ∧ (∃ x ∈ s[i]?, isSeparator x = true) ∧
        skip? s i among past = some (.goesOn among)) ∨
      (∀ x ∈ s[i]?, isSeparator x = false) ∧ skip? s i among past = some (.goesOn past) := by
  rw [skip?]
  by_cases hi : i < s.length
  · rw [if_pos hi, List.getElem?_eq_getElem hi]
    by_cases hsep : isSeparator s[i] = true
    · exact .inl ⟨hi, ⟨_, rfl, hsep⟩, by simp [hsep]⟩
    · exact .inr ⟨by simpa using hsep, by simp [hsep]⟩
  · rw [if_neg hi]
    exact .inr ⟨by simp [hi], rfl⟩

/-- A movement behind two marks or two runs, with which a turn is over. -/
theorem advances_turn {w : Walk} {i j : Nat} (hi : w.left < i) (hia : i ≤ a.length)
    (hj : w.right ≤ j) (hjb : j ≤ b.length) : Advances a b w ⟨i, j, .turn⟩ :=
  ⟨⟨hia, hjb, by simp, by simp⟩, Nat.le_of_lt hi, hj, fun _ => hi⟩

/-- **What can be done about marks and ends**, beside what the comparison says of the two fronts: it
is answered, two marks are passed, the walk goes behind the loop, or it goes on in front of runs. -/
theorem passMarks_cases (a b : List UInt8) (w : Walk) :
    (∃ o, passMarks a b w = .answers o ∧
        stepFront (a.drop w.left) (b.drop w.right) = .decided o) ∨
      (passMarks a b w = .goesOn ⟨w.left + 1, w.right + 1, .turn⟩ ∧
        stepFront (a.drop w.left) (b.drop w.right) =
          .next (a.drop w.left).tail (b.drop w.right).tail ∧
        front (a.drop w.left) ≠ .ended ∧ front (b.drop w.right) ≠ .ended) ∨
      (passMarks a b w = .goesOn { w with point := .ends } ∧
        stepFront (a.drop w.left) (b.drop w.right) = .decided (answerAtEnds a b w)) ∨
      (passMarks a b w = .goesOn { w with point := .runs } ∧
        (front (a.drop w.left) = .digits ∨ front (a.drop w.left) = .letters) ∧
        (front (b.drop w.right) = .digits ∨ front (b.drop w.right) = .letters)) := by
  simp only [passMarks, answerAtEnds, stepFront, getElem?_eq_tilde_iff, getElem?_eq_caret_iff,
    length_le_iff_front, ne_eq]
  cases front (a.drop w.left) <;> cases front (b.drop w.right) <;> simp

theorem Sound.possible_passMarks {w : Walk} (h : Sound a b w) (hw : w.point = .marks) :
    Possible a b w (some (passMarks a b w)) := by
  rcases passMarks_cases a b w with ⟨o, ho, -⟩ | ⟨hturn, -, ha, hb⟩ | ⟨hends, -⟩ | ⟨hruns, ha, -⟩
  · rw [ho]
    exact .answers o
  · rw [hturn]
    exact .goesOn (advances_turn (Nat.lt_succ_self _) (lt_length_of_front ha) (Nat.le_succ _)
      (lt_length_of_front hb))
  · rw [hends]
    exact .goesOn (h.stays (by simp) (by simp) (by simp))
  · rw [hruns]
    exact .goesOn (h.stays (by simp) (by simp) fun _ => exists_run_byte (h.passed (.inr hw)) ha)

/-- **Two runs** are cut within the strings, and the left one is not empty. An empty right run
decides the turn; otherwise the runs are compared. -/
theorem Sound.passRuns?_eq {w : Walk} (h : Sound a b w) (hw : w.point = .runs) :
    ∃ x i j, a[w.left]? = some x ∧ w.left < i ∧
      EndsRun (classOf x) a w.left i ∧ EndsRun (classOf x) b w.right j ∧
      (j = w.right → passRuns? a b w = some (.answers (if isDigit x then .gt else .lt))) ∧
      (j ≠ w.right → passRuns? a b w = some (.afterRuns
        (compareRuns x ((a.drop w.left).takeWhile (classOf x))
          ((b.drop w.right).takeWhile (classOf x))) ⟨i, j, .turn⟩)) := by
  obtain ⟨x, hx, hclass⟩ := h.onRun hw
  obtain ⟨i, hi, hendi⟩ := exists_runEnd? (classOf x) h.left_le
  obtain ⟨j, hj, hendj⟩ := exists_runEnd? (classOf x) h.right_le
  have hlt : w.left < i := by
    refine Nat.lt_of_le_of_ne hendi.le fun he => ?_
    have hnil := hendi.eq_iff.mp he.symm
    rw [← List.head?_drop] at hx
    obtain ⟨t, ht⟩ := List.head?_eq_some_iff.mp hx
    rw [ht, List.takeWhile_cons_of_pos (classOf_self hclass)] at hnil
    exact List.cons_ne_nil _ _ hnil
  refine ⟨x, i, j, hx, hlt, hendi, hendj, fun hempty => ?_, fun hne => ?_⟩
  · simp only [passRuns?, hx, hi, hj, Option.bind_eq_bind, Option.bind_some]
    rw [if_pos hempty]
    rfl
  · simp only [passRuns?, hx, hi, hj, hendi.slice_eq, hendj.slice_eq, Option.bind_eq_bind,
      Option.bind_some]
    rw [if_neg hne]
    rfl

theorem Sound.possible_passRuns? {w : Walk} (h : Sound a b w) (hw : w.point = .runs) :
    Possible a b w (passRuns? a b w) := by
  obtain ⟨x, i, j, -, hlt, hendi, hendj, hempty, hcompared⟩ := h.passRuns?_eq hw
  by_cases hj : j = w.right
  · rw [hempty hj]
    exact .answers _
  · rw [hcompared hj, Move.afterRuns]
    split_ifs
    · exact .goesOn (advances_turn hlt hendi.le_length hendj.le hendj.le_length)
    · exact .answers _

/-- **From a sound place a movement is possible**, and if the walk goes on with it, it advances. -/
theorem Sound.possible {w : Walk} (h : Sound a b w) : Possible a b w (next? a b w) := by
  unfold next?
  split
  case h_1 hw =>
    split_ifs
    · exact .goesOn (h.stays (by simp) (by simp) (by simp))
    · exact .goesOn (h.stays (by simp) (by simp) (by simp))
  case h_2 hw =>
    rcases skip?_cases a w.left { w with left := w.left + 1 } { w with point := .rightSeparators }
      with ⟨hlt, -, hskip⟩ | ⟨hpassed, hskip⟩ <;> rw [hskip]
    · exact .goesOn ⟨⟨hlt, h.right_le, by simp [hw], by simp [hw]⟩, Nat.le_succ _, le_rfl,
        by simp [hw]⟩
    · exact .goesOn (h.stays (by simp) (fun _ => hpassed) (by simp))
  case h_3 hw =>
    have hpassed := h.passed (.inl hw)
    rcases skip?_cases b w.right { w with right := w.right + 1 } { w with point := .marks }
      with ⟨hlt, -, hskip⟩ | ⟨-, hskip⟩ <;> rw [hskip]
    · exact .goesOn ⟨⟨h.left_le, hlt, fun _ => hpassed, by simp [hw]⟩, le_rfl, Nat.le_succ _,
        by simp [hw]⟩
    · exact .goesOn (h.stays (by simp) (fun _ => hpassed) (by simp))
  case h_4 hw => exact h.possible_passMarks hw
  case h_5 hw => exact h.possible_passRuns? hw
  case h_6 hw => exact .answers _

theorem Sound.advances_of_goes {w w' : Walk} (h : Sound a b w) (hgoes : Goes a b w w') :
    Advances a b w w' := by
  have hpossible := h.possible
  rw [hgoes] at hpossible
  cases hpossible with
  | goesOn hadv => exact hadv

/-- **However far the walk goes on**, it advances. -/
theorem Sound.advances {w w' : Walk} (h : Sound a b w)
    (hgoes : Relation.TransGen (Goes a b) w w') : Advances a b w w' := by
  induction hgoes with
  | single hgoes => exact h.advances_of_goes hgoes
  | @tail v w' _ hgoes ih =>
    have hlast := ih.sound.advances_of_goes hgoes
    exact ⟨hlast.sound, Nat.le_trans ih.left_le hlast.left_le,
      Nat.le_trans ih.right_le hlast.right_le,
      fun hturn => Nat.lt_of_le_of_lt ih.left_le (hlast.left_lt hturn)⟩

/-- **Every place that is reached is sound.** -/
theorem Reaches.sound {w : Walk} (h : Reaches a b w) : Sound a b w := by
  rcases Relation.reflTransGen_iff_eq_or_transGen.mp h with rfl | hgoes
  · exact sound_start a b
  · exact ((sound_start a b).advances hgoes).sound

/-! ### A turn of the walk is a turn of the comparison -/

/-- From a place the walk does what a turn comes to: it arrives at the answer, or at the next turn
with the cursors in front of what is left. -/
def Performs (a b : List UInt8) (w : Walk) : Step → Prop
  | .decided o => Answers a b w o
  | .next x y => ∃ i j, i ≤ a.length ∧ j ≤ b.length ∧ x = a.drop i ∧ y = b.drop j ∧
      Relation.ReflTransGen (Goes a b) w ⟨i, j, .turn⟩

theorem Performs.of_reflTransGen {w w' : Walk} {s : Step} (h : Performs a b w' s)
    (hgoes : Relation.ReflTransGen (Goes a b) w w') : Performs a b w s := by
  cases s with
  | decided o =>
    obtain ⟨v, hv, ho⟩ := h
    exact ⟨v, hgoes.trans hv, ho⟩
  | next x y =>
    obtain ⟨i, j, hi, hj, hx, hy, hturn⟩ := h
    exact ⟨i, j, hi, hj, hx, hy, hgoes.trans hturn⟩

/-- The separators in front of a cursor are passed one by one. -/
theorem reaches_past {s : List UInt8} (among past : Nat → Walk)
    (h : ∀ i, next? a b (among i) = skip? s i (among (i + 1)) (past i)) {i : Nat}
    (hi : i ≤ s.length) :
    ∃ j, j ≤ s.length ∧ s.drop j = (s.drop i).dropWhile isSeparator ∧
      Relation.ReflTransGen (Goes a b) (among i) (past j) := by
  induction hs : s.drop i generalizing i with
  | nil =>
    rcases skip?_cases s i (among (i + 1)) (past i) with ⟨hlt, -, -⟩ | ⟨-, hskip⟩
    · exact absurd (List.drop_eq_nil_iff.mp hs) (Nat.not_le_of_lt hlt)
    · exact ⟨i, hi, hs, .single ((h i).trans hskip)⟩
  | cons x t ih =>
    have hx : s[i]? = some x := by rw [← List.head?_drop, hs, List.head?_cons]
    have ht : s.drop (i + 1) = t := by rw [← List.tail_drop, hs, List.tail_cons]
    rcases skip?_cases s i (among (i + 1)) (past i) with ⟨hlt, hsep, hskip⟩ | ⟨hsep, hskip⟩
    · obtain ⟨j, hj, hdrop, hgoes⟩ := ih hlt ht
      have hsep : isSeparator x = true := by simpa [hx] using hsep
      refine ⟨j, hj, ?_, .head ((h i).trans hskip) hgoes⟩
      rw [hdrop, List.dropWhile_cons_of_pos hsep]
    · have hsep : ¬ isSeparator x = true := by simpa [hx] using hsep
      refine ⟨i, hi, ?_, .single ((h i).trans hskip)⟩
      rw [hs, List.dropWhile_cons_of_neg hsep]

/-- **Two runs** are passed as the comparison passes them. -/
theorem Sound.performs_runs {w : Walk} (h : Sound a b w) (hw : w.point = .runs)
    (ha : ∀ x ∈ (a.drop w.left).head?, isSeparator x = false)
    (hb : ∀ x ∈ (b.drop w.right).head?, isSeparator x = false)
    (hfronta : front (a.drop w.left) = .digits ∨ front (a.drop w.left) = .letters)
    (hfrontb : front (b.drop w.right) = .digits ∨ front (b.drop w.right) = .letters) :
    Performs a b w (stepFront (a.drop w.left) (b.drop w.right)) := by
  obtain ⟨x, i, j, hx, -, hendi, hendj, hempty, hcompared⟩ := h.passRuns?_eq hw
  have hnext : next? a b w = passRuns? a b w := by rw [next?, hw]
  rw [← List.head?_drop] at hx
  rw [stepFront_of_runs hx ha hb hfronta hfrontb]
  by_cases hj : j = w.right
  · rw [if_pos (hendj.eq_iff.mp hj)]
    exact ⟨w, .refl, hnext.trans (hempty hj)⟩
  · have hgoes := hnext.trans (hcompared hj)
    rw [Move.afterRuns] at hgoes
    rw [if_neg (hendj.eq_iff.not.mp hj), Step.afterRuns]
    split_ifs at hgoes ⊢
    · exact ⟨i, j, hendi.le_length, hendj.le_length, hendi.drop_eq.symm, hendj.drop_eq.symm,
        .single hgoes⟩
    · exact ⟨w, .refl, hgoes⟩

/-- **Marks and ends** are passed as the comparison passes them. -/
theorem Sound.performs_marks {w : Walk} (h : Sound a b w) (hw : w.point = .marks)
    (hb : ∀ x ∈ (b.drop w.right).head?, isSeparator x = false) :
    Performs a b w (stepFront (a.drop w.left) (b.drop w.right)) := by
  have ha : ∀ x ∈ (a.drop w.left).head?, isSeparator x = false := by
    rw [List.head?_drop]
    exact h.passed (.inr hw)
  have hnext : next? a b w = some (passMarks a b w) := by rw [next?, hw]
  rcases passMarks_cases a b w with ⟨o, ho, hstep⟩ | ⟨hturn, hstep, hfa, hfb⟩ | ⟨hends, hstep⟩ |
      ⟨hruns, hfa, hfb⟩
  · rw [ho] at hnext
    rw [hstep]
    exact ⟨w, .refl, hnext⟩
  · rw [hturn] at hnext
    rw [hstep, List.tail_drop, List.tail_drop]
    exact ⟨_, _, lt_length_of_front hfa, lt_length_of_front hfb, rfl, rfl, .single hnext⟩
  · rw [hends] at hnext
    rw [hstep]
    exact ⟨{ w with point := .ends }, .single hnext, rfl⟩
  · rw [hruns] at hnext
    have hsound : Sound a b { w with point := .runs } := (h.advances_of_goes hnext).sound
    exact (hsound.performs_runs rfl ha hb hfa hfb).of_reflTransGen (.single hnext)

/-- **A turn of the walk** comes to what a turn of the comparison comes to. -/
theorem performs_turn {i j : Nat} (hi : i ≤ a.length) (hj : j ≤ b.length) :
    Performs a b ⟨i, j, .turn⟩ (step (a.drop i) (b.drop j)) := by
  have hsound : Sound a b ⟨i, j, .turn⟩ := ⟨hi, hj, by simp, by simp⟩
  by_cases hin : i < a.length ∨ j < b.length
  · obtain ⟨i', hi', hdropi, hleft⟩ := reaches_past (a := a) (b := b)
      (fun i => ⟨i, j, .leftSeparators⟩) (fun i => ⟨i, j, .rightSeparators⟩) (fun _ => rfl) hi
    obtain ⟨j', hj', hdropj, hright⟩ := reaches_past (a := a) (b := b)
      (fun j => ⟨i', j, .rightSeparators⟩) (fun j => ⟨i', j, .marks⟩) (fun _ => rfl) hj
    have hgoes : Relation.TransGen (Goes a b) ⟨i, j, .turn⟩ ⟨i', j', .marks⟩ :=
      .head' (by rw [Goes, next?, if_pos hin]) (hleft.trans hright)
    have hmarks := (hsound.advances hgoes).sound.performs_marks rfl (by
      rw [hdropj]
      exact not_of_mem_head?_dropWhile isSeparator _)
    rw [step, ← hdropi, ← hdropj]
    exact hmarks.of_reflTransGen hgoes.to_reflTransGen
  · -- both strings are used up, and the loop is not entered
    obtain ⟨hia, hjb⟩ := not_or.mp hin
    rw [List.drop_eq_nil_of_le (Nat.le_of_not_lt hia),
      List.drop_eq_nil_of_le (Nat.le_of_not_lt hjb)]
    refine ⟨⟨i, j, .ends⟩, .single (by rw [Goes, next?, if_neg hin]), ?_⟩
    rw [next?, answerAtEnds, if_pos (Nat.le_of_not_lt hia), if_pos (Nat.le_of_not_lt hjb)]

/-- From wherever a turn begins, the walk arrives at the comparison of what is left. The induction
is on the turns of the comparison. -/
theorem answers_turn {i j : Nat} (hi : i ≤ a.length) (hj : j ≤ b.length) :
    Answers a b ⟨i, j, .turn⟩ (compareBytes (a.drop i) (b.drop j)) := by
  have hturn := performs_turn hi hj
  generalize hx : a.drop i = x at *
  generalize hy : b.drop j = y at *
  fun_induction compareBytes x y generalizing i j with
  | case1 x y o hstep => rwa [hstep] at hturn
  | case2 x y x' y' hstep ih =>
    rw [hstep] at hturn
    obtain ⟨i', j', hi', hj', rfl, rfl, hgoes⟩ := hturn
    obtain ⟨w, hw, ho⟩ := ih hi' hj' rfl rfl (performs_turn hi' hj')
    exact ⟨w, hgoes.trans hw, ho⟩

/-- **From every place that is reached the walk arrives at the answer**: the movements leave no
choice, so the way from the beginning to the answer leads through it. -/
theorem Reaches.answers {w : Walk} (h : Reaches a b w) : Answers a b w (compareBytes a b) := by
  obtain ⟨v, hv, ho⟩ := answers_turn (a := a) (b := b) (Nat.zero_le _) (Nat.zero_le _)
  have hunique : Relator.RightUnique (Goes a b) := by
    intro w w' w'' hw' hw''
    rw [Goes] at hw' hw''
    rw [hw'] at hw''
    cases hw''
    rfl
  rcases Relation.ReflTransGen.total_of_right_unique hunique h hv with hgoes | hgoes
  · exact ⟨v, hgoes, ho⟩
  · rcases Relation.ReflTransGen.cases_head hgoes with rfl | ⟨v', hv', -⟩
    · exact ⟨_, .refl, ho⟩
    · rw [Goes, ho] at hv'
      cases hv'

end Walk

open Walk in
/-- **The walk stays within the strings, gets ahead and arrives.** Wherever it comes, the cursors
are within the strings and everything that is looked at is there; with every later turn fewer bytes
are left to be read; and it arrives at the comparison of the strings. -/
theorem walk_inBounds_and_answers (a b : List UInt8) :
    (∀ w, Reaches a b w → w.left ≤ a.length ∧ w.right ≤ b.length ∧ ∃ m, next? a b w = some m) ∧
      (∀ w w', Reaches a b w → Relation.TransGen (Goes a b) w w' → w'.point = .turn →
        a.length - w'.left + (b.length - w'.right) < a.length - w.left + (b.length - w.right)) ∧
      ∀ w, Reaches a b w → Answers a b w (compareBytes a b) := by
  refine ⟨fun w hw => ?_, fun w w' hw hgoes hturn => ?_, fun w hw => hw.answers⟩
  · exact ⟨hw.sound.left_le, hw.sound.right_le, hw.sound.possible.exists_move⟩
  · have hadv := hw.sound.advances hgoes
    have hlt := hadv.left_lt hturn
    have hright := hadv.right_le
    have hle := hadv.sound.left_le
    omega

open Walk in
/-- A walk of two turns: behind the common run the right string is used up, and the left one still
has its mark. -/
theorem walk_inBounds_twoTurns :
    Reaches [0x31, 0x7e] [0x31] start ∧
      Relation.TransGen (Goes [0x31, 0x7e] [0x31]) start ⟨1, 1, .turn⟩ ∧
      (2 - 1) + (1 - 1) < (2 - 0) + (1 - 0) ∧ Answers [0x31, 0x7e] [0x31] start .lt := by
  have hstart : Reaches [0x31, 0x7e] [0x31] start := .refl
  have hleft : Goes [0x31, 0x7e] [0x31] start ⟨0, 0, .leftSeparators⟩ := rfl
  have hright : Goes [0x31, 0x7e] [0x31] ⟨0, 0, .leftSeparators⟩ ⟨0, 0, .rightSeparators⟩ := rfl
  have hmarks : Goes [0x31, 0x7e] [0x31] ⟨0, 0, .rightSeparators⟩ ⟨0, 0, .marks⟩ := rfl
  have hruns : Goes [0x31, 0x7e] [0x31] ⟨0, 0, .marks⟩ ⟨0, 0, .runs⟩ := rfl
  have hback : Goes [0x31, 0x7e] [0x31] ⟨0, 0, .runs⟩ ⟨1, 1, .turn⟩ := rfl
  have hturn : Relation.TransGen (Goes [0x31, 0x7e] [0x31]) start ⟨1, 1, .turn⟩ :=
    .head hleft (.head hright (.head hmarks (.head hruns (.single hback))))
  obtain ⟨-, hless, hanswers⟩ := walk_inBounds_and_answers [0x31, 0x7e] [0x31]
  have hlt : compareBytes [0x31, 0x7e] [0x31] = .lt := by decide +kernel
  exact ⟨hstart, hturn, hless _ _ hstart hturn rfl, hlt ▸ hanswers _ hstart⟩

end Version

end AdvisoryTriage
