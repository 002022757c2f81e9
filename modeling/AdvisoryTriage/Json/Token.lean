import AdvisoryTriage.Text.Utf8

/-!
# Tokens of a JSON document

A document is read as symbols, so that bytes which are no text can be passed over inside a string
that nobody keeps. The lexer cuts the next token off the front; blanks between tokens are skipped
by its caller.

* `Json.Token` – the tokens. The text of a string is kept if the string denotes one: a string may be
  well formed and yet hold half of a surrogate pair, or bytes that are no text.
* `Json.Token.next?` – the next token and what is left.
* `Json.Token.length_lt_of_next?` – something was taken off.
-/

namespace AdvisoryTriage

namespace Json

open Text (Symbol)

/-- A token of a document. -/
inductive Token where
  /-- An opening bracket. -/
  | openArray
  /-- A closing bracket. -/
  | closeArray
  /-- An opening brace. -/
  | openObject
  /-- A closing brace. -/
  | closeObject
  /-- A comma. -/
  | comma
  /-- A colon. -/
  | colon
  /-- The literal `null`. -/
  | null
  /-- The literals `true` and `false`. -/
  | bool (b : Bool)
  /-- A number, as it is spelled. -/
  | number (spelling : String)
  /-- A string, with its text if it denotes one. -/
  | string (text : Option String)
deriving DecidableEq

/-! ### Strings -/

/-- What one element of a string contributes. -/
inductive Piece where
  /-- A character. -/
  | char (c : Char)
  /-- A code unit of UTF-16, from an escape by number. -/
  | unit (n : Nat)
  /-- Input that stands for no character. -/
  | malformed
deriving DecidableEq

/-- The value of a hexadecimal digit. -/
def hexValue? (c : Char) : Option Nat :=
  if '0' ≤ c ∧ c ≤ '9' then some (c.toNat - '0'.toNat)
  else if 'a' ≤ c ∧ c ≤ 'f' then some (c.toNat - 'a'.toNat + 10)
  else if 'A' ≤ c ∧ c ≤ 'F' then some (c.toNat - 'A'.toNat + 10)
  else none

/-- The code unit of four hexadecimal digits. -/
def codeUnit? (a b c d : Symbol) : Option Nat := do
  let a ← a >>= hexValue?
  let b ← b >>= hexValue?
  let c ← c >>= hexValue?
  let d ← d >>= hexValue?
  return ((a * 16 + b) * 16 + c) * 16 + d

/-- The character of a short escape. -/
def shortEscape? : Char → Option Char
  | '"' => some '"'
  | '\\' => some '\\'
  | '/' => some '/'
  | 'b' => some '\x08'
  | 'f' => some '\x0c'
  | 'n' => some '\n'
  | 'r' => some '\r'
  | 't' => some '\t'
  | _ => none

/-- The pieces of a string up to its closing quote, last piece first behind those read before, and
what is left. Control characters and unknown escapes are refused. -/
def stringPieces? (read : List Piece) : List Symbol → Option (List Piece × List Symbol)
  | [] => none
  | some '"' :: s => some (read, s)
  | some '\\' :: some 'u' :: a :: b :: c :: d :: s =>
    match codeUnit? a b c d with
    | some n => stringPieces? (.unit n :: read) s
    | none => none
  | some '\\' :: some c :: s =>
    match shortEscape? c with
    | some c => stringPieces? (.char c :: read) s
    | none => none
  | some c :: s =>
    if c = '\\' ∨ c < ' ' then none else stringPieces? (.char c :: read) s
  | none :: s => stringPieces? (.malformed :: read) s

/-- The text that pieces make up, if there is one: a leading surrogate has to be followed by a
trailing one, and together they are one character. -/
def textOfPieces? : List Piece → Option (List Char)
  | [] => some []
  | .char c :: s => (textOfPieces? s).map (c :: ·)
  | .unit h :: .unit l :: s =>
    if 0xd800 ≤ h ∧ h < 0xdc00 ∧ 0xdc00 ≤ l ∧ l < 0xe000 then
      (textOfPieces? s).map (Char.ofNat (0x10000 + (h - 0xd800) * 0x400 + (l - 0xdc00)) :: ·)
    else if h.isValidChar then
      (textOfPieces? (.unit l :: s)).map (Char.ofNat h :: ·)
    else none
  | .unit n :: s => if n.isValidChar then (textOfPieces? s).map (Char.ofNat n :: ·) else none
  | .malformed :: _ => none

/-! ### Numbers -/

/-- The leading digits, and what is left. -/
def digits : List Symbol → List Char × List Symbol
  | some c :: s =>
    if '0' ≤ c ∧ c ≤ '9' then
      let (ds, rest) := digits s
      (c :: ds, rest)
    else ([], some c :: s)
  | s => ([], s)

/-- At least one leading digit, behind a spelling read before. -/
def digitsAfter? (before : List Char) (s : List Symbol) : Option (List Char × List Symbol) :=
  if (digits s).1 = [] then none else some (before ++ (digits s).1, (digits s).2)

/-- A fraction, if a point comes next. -/
def fraction? (s : List Symbol) : Option (List Char × List Symbol) :=
  match s with
  | some '.' :: s => digitsAfter? ['.'] s
  | s => some ([], s)

/-- An exponent, if its letter comes next. -/
def exponent? (s : List Symbol) : Option (List Char × List Symbol) :=
  match s with
  | some c :: s =>
    if c = 'e' ∨ c = 'E' then
      match s with
      | some '+' :: s => digitsAfter? [c, '+'] s
      | some '-' :: s => digitsAfter? [c, '-'] s
      | s => digitsAfter? [c] s
    else some ([], some c :: s)
  | s => some ([], s)

/-- The whole part of a number without its sign: a zero alone, or digits that start with another. -/
def wholePart? (s : List Symbol) : Option (List Char × List Symbol) :=
  match s with
  | some '0' :: s => some (['0'], s)
  | s => digitsAfter? [] s

/-- A number without its sign. -/
def unsigned? (s : List Symbol) : Option (List Char × List Symbol) := do
  let (whole, s) ← wholePart? s
  let (fraction, s) ← fraction? s
  let (exponent, s) ← exponent? s
  return (whole ++ fraction ++ exponent, s)

/-! ### Tokens -/

/-- The rest of an input that begins with a given word. -/
def afterWord? : (word : List Char) → List Symbol → Option (List Symbol)
  | [], s => some s
  | w :: word, some c :: s => if w = c then afterWord? word s else none
  | _ :: _, _ => none

/-- The token that begins with a character, and what is left behind it. -/
def Token.startingWith? (c : Char) (s : List Symbol) : Option (Token × List Symbol) :=
  match c with
  | '[' => some (.openArray, s)
  | ']' => some (.closeArray, s)
  | '\x7b' => some (.openObject, s)
  | '\x7d' => some (.closeObject, s)
  | ',' => some (.comma, s)
  | ':' => some (.colon, s)
  | 'n' => (afterWord? "ull".toList s).map (.null, ·)
  | 't' => (afterWord? "rue".toList s).map (.bool true, ·)
  | 'f' => (afterWord? "alse".toList s).map (.bool false, ·)
  | '"' => (stringPieces? [] s).map fun (pieces, rest) =>
      (.string ((textOfPieces? pieces.reverse).map String.ofList), rest)
  | '-' => (unsigned? s).map fun (spelling, rest) =>
      (.number (String.ofList ('-' :: spelling)), rest)
  | c =>
    if '0' ≤ c ∧ c ≤ '9' then
      (unsigned? (some c :: s)).map fun (spelling, rest) => (.number (String.ofList spelling), rest)
    else none

/-- The next token of an input without leading blanks, and what is left. -/
def Token.next? : List Symbol → Option (Token × List Symbol)
  | some c :: s => startingWith? c s
  | _ => none

/-! ### Every token takes something off -/

/-- No symbol is lost between the leading digits and the rest. -/
theorem digits_append (s : List Symbol) : (digits s).1.map some ++ (digits s).2 = s := by
  fun_induction digits s <;> simp_all

theorem length_lt_of_digitsAfter? {before ds : List Char} {s rest : List Symbol}
    (h : digitsAfter? before s = some (ds, rest)) : rest.length < s.length := by
  have hs := congrArg List.length (digits_append s)
  unfold digitsAfter? at h
  split at h
  · cases h
  · next hne =>
    cases h
    have := List.length_pos_iff.2 hne
    simp only [List.length_append, List.length_map] at hs
    omega

theorem length_le_of_fraction? {ds : List Char} {s rest : List Symbol}
    (h : fraction? s = some (ds, rest)) : rest.length ≤ s.length := by
  unfold fraction? at h
  split at h
  · exact Nat.le_succ_of_le (Nat.le_of_lt (length_lt_of_digitsAfter? h))
  · cases h
    exact Nat.le_refl _

theorem length_le_of_exponent? {ds : List Char} {s rest : List Symbol}
    (h : exponent? s = some (ds, rest)) : rest.length ≤ s.length := by
  unfold exponent? at h
  split at h
  · split at h
    · split at h <;> have hl := length_lt_of_digitsAfter? h <;> simp at hl ⊢ <;> omega
    · cases h
      exact Nat.le_refl _
  · cases h
    exact Nat.le_refl _

theorem length_lt_of_wholePart? {ds : List Char} {s rest : List Symbol}
    (h : wholePart? s = some (ds, rest)) : rest.length < s.length := by
  unfold wholePart? at h
  split at h
  · cases h
    exact Nat.lt_succ_self _
  · exact length_lt_of_digitsAfter? h

theorem length_lt_of_unsigned? {ds : List Char} {s rest : List Symbol}
    (h : unsigned? s = some (ds, rest)) : rest.length < s.length := by
  simp only [unsigned?, bind, Option.bind_eq_some_iff, pure, Option.some.injEq, Prod.mk.injEq,
    Prod.exists] at h
  obtain ⟨_, _, hw, _, _, hf, _, _, he, _, rfl⟩ := h
  exact Nat.lt_of_le_of_lt (Nat.le_trans (length_le_of_exponent? he) (length_le_of_fraction? hf))
    (length_lt_of_wholePart? hw)

theorem length_lt_of_stringPieces? {read pieces : List Piece} {s rest : List Symbol}
    (h : stringPieces? read s = some (pieces, rest)) : rest.length < s.length := by
  fun_induction stringPieces? read s with
  | case1 => cases h
  | case2 => cases h; simp
  | case3 read a b c d s n hn ih => have := ih h; simp only [List.length_cons]; omega
  | case4 => cases h
  | case5 read c s _ d hd ih => have := ih h; simp only [List.length_cons]; omega
  | case6 => cases h
  | case7 => cases h
  | case8 read c s _ _ _ hc ih => have := ih h; simp only [List.length_cons]; omega
  | case9 read s ih => have := ih h; simp only [List.length_cons]; omega

theorem length_le_of_afterWord? {word : List Char} {s rest : List Symbol}
    (h : afterWord? word s = some rest) : rest.length ≤ s.length := by
  fun_induction afterWord? word s with
  | case1 s => cases h; exact Nat.le_refl _
  | case2 word c s ih => exact Nat.le_succ_of_le (ih h)
  | case3 => cases h
  | case4 => cases h

theorem Token.length_le_of_startingWith? {c : Char} {t : Token} {s rest : List Symbol}
    (h : startingWith? c s = some (t, rest)) : rest.length ≤ s.length := by
  unfold startingWith? at h
  split at h
  all_goals try
    simp only [Option.some.injEq, Prod.mk.injEq] at h
    exact Nat.le_of_eq (congrArg List.length h.2.symm)
  all_goals try
    simp only [Option.map_eq_some_iff, Prod.mk.injEq] at h
    obtain ⟨r, hr, -, rfl⟩ := h
    exact length_le_of_afterWord? hr
  · simp only [Option.map_eq_some_iff, Prod.mk.injEq, Prod.exists] at h
    obtain ⟨_, r, hr, -, rfl⟩ := h
    exact Nat.le_of_lt (length_lt_of_stringPieces? hr)
  · simp only [Option.map_eq_some_iff, Prod.mk.injEq, Prod.exists] at h
    obtain ⟨_, r, hr, -, rfl⟩ := h
    exact Nat.le_of_lt (length_lt_of_unsigned? hr)
  · split at h
    · simp only [Option.map_eq_some_iff, Prod.mk.injEq, Prod.exists] at h
      obtain ⟨_, r, hr, -, rfl⟩ := h
      exact Nat.le_of_lt_succ (length_lt_of_unsigned? hr)
    · cases h

/-- A token takes at least one symbol. -/
theorem Token.length_lt_of_next? {t : Token} {s rest : List Symbol}
    (h : next? s = some (t, rest)) : rest.length < s.length := by
  unfold next? at h
  split at h
  · exact Nat.lt_succ_of_le (length_le_of_startingWith? h)
  · cases h

end Json

end AdvisoryTriage
