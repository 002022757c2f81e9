/-!
# Blanks, line ends and comments in TOML

Within a line spaces and tabs are blanks; a line ends with a line feed, perhaps behind a carriage
return, or with the document. A comment runs to the end of its line and holds no control characters
other than tabs. Inside an array all of them may stand between items.
-/

namespace AdvisoryTriage

namespace Toml

/-- Spaces and tabs. -/
def isBlank (c : Char) : Bool := c == ' ' || c == '\t'

/-- Characters that may stand in comments and strings: all but the control characters of ASCII, and
the tab. -/
def isPlain (c : Char) : Bool := c == '\t' || (' ' ≤ c && c != '\x7f')

/-- Skips blanks. -/
def skipBlanks (s : List Char) : List Char := s.dropWhile isBlank

/-- The rest behind a line feed, perhaps behind a carriage return. -/
def newline? : List Char → Option (List Char)
  | '\n' :: s => some s
  | '\r' :: '\n' :: s => some s
  | _ => none

/-- Skips a comment, if there is one, up to the end of its line. -/
def skipComment : List Char → List Char
  | '#' :: s => s.dropWhile isPlain
  | s => s

/-- The rest behind the end of a line, where blanks and a comment may stand before the end. -/
def lineEnd? (s : List Char) : Option (List Char) :=
  match skipComment (skipBlanks s) with
  | [] => some []
  | rest => newline? rest

theorem length_lt_of_newline? {s rest : List Char} (h : newline? s = some rest) :
    rest.length < s.length := by
  unfold newline? at h
  split at h <;> cases h
  · exact Nat.lt_succ_self _
  · exact Nat.lt_succ_of_lt (Nat.lt_succ_self _)

/-- Skips blanks and line ends. -/
def skipEmptyLines (s : List Char) : List Char :=
  match s with
  | [] => []
  | c :: t =>
    if isBlank c then skipEmptyLines t
    else
      match _ : newline? (c :: t) with
      | some rest => skipEmptyLines rest
      | none => c :: t
termination_by s.length
decreasing_by
  · exact Nat.lt_succ_self _
  · exact length_lt_of_newline? ‹_›

theorem length_skipEmptyLines_le (s : List Char) : (skipEmptyLines s).length ≤ s.length := by
  fun_induction skipEmptyLines s with
  | case1 => exact Nat.le_refl _
  | case2 c t _ ih => exact Nat.le_succ_of_le ih
  | case3 c t _ rest h ih => exact Nat.le_trans ih (Nat.le_of_lt (length_lt_of_newline? h))
  | case4 => exact Nat.le_refl _

/-- Skips blanks, line ends and comments. -/
def skipLines (s : List Char) : List Char :=
  match s with
  | [] => []
  | c :: t =>
    if isBlank c then skipLines t
    else if c = '#' then skipLines (t.dropWhile isPlain)
    else
      match _ : newline? (c :: t) with
      | some rest => skipLines rest
      | none => c :: t
termination_by s.length
decreasing_by
  · exact Nat.lt_succ_self _
  · exact Nat.lt_succ_of_le (List.dropWhile_suffix _).length_le
  · exact length_lt_of_newline? ‹_›

end Toml

end AdvisoryTriage
