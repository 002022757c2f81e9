import AdvisoryTriage.Toml.Blank

/-!
# Strings in TOML

A string is written in one of four ways: between double quotes, where a backslash escapes, or
between single quotes, where nothing does; and either on one line, or between three quotes over any
number of lines. A line feed right behind three opening quotes does not count, and line ends within
are read as line feeds.

* `Toml.basicString?`, `Toml.literalString?` – what stands between single or double quotes.
* `Toml.multilineString?` – what stands between three quotes of either kind. Up to two quotes may
  stand right before the closing three.
-/

namespace AdvisoryTriage

namespace Toml

/-! ### Escapes -/

/-- The value of a hexadecimal digit. -/
def hexValue? (c : Char) : Option Nat :=
  if '0' ≤ c ∧ c ≤ '9' then some (c.toNat - '0'.toNat)
  else if 'a' ≤ c ∧ c ≤ 'f' then some (c.toNat - 'a'.toNat + 10)
  else if 'A' ≤ c ∧ c ≤ 'F' then some (c.toNat - 'A'.toNat + 10)
  else none

/-- The character whose code point is written with the next `n` digits. -/
def numberedChar? (n : Nat) (s : List Char) : Option (Char × List Char) := do
  let digits ← (s.take n).mapM hexValue?
  let code := digits.foldl (fun v d => 16 * v + d) 0
  if digits.length = n ∧ code.isValidChar then some (Char.ofNat code, s.drop n) else none

/-- The character of an escape, behind its backslash. -/
def escape? : List Char → Option (Char × List Char)
  | 'b' :: s => some ('\x08', s)
  | 't' :: s => some ('\t', s)
  | 'n' :: s => some ('\n', s)
  | 'f' :: s => some ('\x0c', s)
  | 'r' :: s => some ('\r', s)
  | '"' :: s => some ('"', s)
  | '\\' :: s => some ('\\', s)
  | 'u' :: s => numberedChar? 4 s
  | 'U' :: s => numberedChar? 8 s
  | _ => none

theorem length_le_of_numberedChar? {n : Nat} {s rest : List Char} {c : Char}
    (h : numberedChar? n s = some (c, rest)) : rest.length ≤ s.length := by
  simp only [numberedChar?, bind, Option.bind_eq_some_iff] at h
  obtain ⟨_, -, h⟩ := h
  split at h <;> cases h
  simp

theorem length_lt_of_escape? {s rest : List Char} {c : Char} (h : escape? s = some (c, rest)) :
    rest.length < s.length := by
  unfold escape? at h
  split at h <;> first
    | exact Nat.lt_succ_of_le (length_le_of_numberedChar? h)
    | cases h <;> exact Nat.lt_succ_self _

/-! ### Strings on one line -/

/-- The text up to a closing double quote, and what is left. -/
def basicString? (s : List Char) : Option (List Char × List Char) :=
  match s with
  | [] => none
  | '"' :: s => some ([], s)
  | '\\' :: s =>
    match _ : escape? s with
    | some (c, rest) => (basicString? rest).map fun (text, rest) => (c :: text, rest)
    | none => none
  | c :: s =>
    if isPlain c then (basicString? s).map fun (text, rest) => (c :: text, rest) else none
termination_by s.length
decreasing_by
  · exact Nat.lt_succ_of_lt (length_lt_of_escape? ‹_›)
  · exact Nat.lt_succ_self _

/-- The text up to a closing single quote, and what is left. -/
def literalString? : List Char → Option (List Char × List Char)
  | [] => none
  | '\'' :: s => some ([], s)
  | c :: s =>
    if isPlain c then (literalString? s).map fun (text, rest) => (c :: text, rest) else none

/-! ### Strings over several lines -/

/-- The rest behind a backslash that takes the end of its line along, and all blanks and line ends
that follow. -/
def foldedLine? (s : List Char) : Option (List Char) :=
  (newline? (skipBlanks s)).map skipEmptyLines

theorem length_le_of_foldedLine? {s rest : List Char} (h : foldedLine? s = some rest) :
    rest.length ≤ s.length := by
  simp only [foldedLine?, Option.map_eq_some_iff] at h
  obtain ⟨t, ht, rfl⟩ := h
  exact Nat.le_trans (length_skipEmptyLines_le t)
    (Nat.le_trans (Nat.le_of_lt (length_lt_of_newline? ht)) (List.dropWhile_suffix _).length_le)

/-- The text up to three closing quotes, and what is left. Whether a backslash escapes depends on
the kind of quote. -/
def multilineString? (quote : Char) (s : List Char) : Option (List Char × List Char) :=
  match s with
  | [] => none
  | c :: t =>
    if c = quote then
      let more := (t.takeWhile (· = quote)).length
      -- one quote or two are text; three close the string, and up to two before them are text
      if more < 2 then
        (multilineString? quote (t.drop more)).map fun (text, rest) =>
          (List.replicate (more + 1) quote ++ text, rest)
      else if more ≤ 4 then some (List.replicate (more - 2) quote, t.drop more)
      else none
    else if c = '\\' ∧ quote = '"' then
      match _ : foldedLine? t with
      | some rest => multilineString? quote rest
      | none =>
        match _ : escape? t with
        | some (c, rest) => (multilineString? quote rest).map fun (text, rest) => (c :: text, rest)
        | none => none
    else if isPlain c then (multilineString? quote t).map fun (text, rest) => (c :: text, rest)
    else
      match _ : newline? (c :: t) with
      | some rest => (multilineString? quote rest).map fun (text, rest) => ('\n' :: text, rest)
      | none => none
termination_by s.length
decreasing_by
  · exact Nat.lt_succ_of_le (List.drop_suffix _ _).length_le
  · exact Nat.lt_succ_of_le (length_le_of_foldedLine? ‹_›)
  · exact Nat.lt_succ_of_lt (length_lt_of_escape? ‹_›)
  · exact Nat.lt_succ_self _
  · exact length_lt_of_newline? ‹_›

/-- Skips a line end right behind opening quotes. -/
def skipFirstLineEnd (s : List Char) : List Char :=
  (newline? s).getD s

/-- A string of any kind, from its opening quote on. -/
def string? : List Char → Option (String × List Char)
  | '"' :: '"' :: '"' :: s => finish (multilineString? '"' (skipFirstLineEnd s))
  | '"' :: s => finish (basicString? s)
  | '\'' :: '\'' :: '\'' :: s => finish (multilineString? '\'' (skipFirstLineEnd s))
  | '\'' :: s => finish (literalString? s)
  | _ => none
where
  /-- The text of a string as a value. -/
  finish (read : Option (List Char × List Char)) : Option (String × List Char) :=
    read.map fun (text, rest) => (String.ofList text, rest)

end Toml

end AdvisoryTriage
