import AdvisoryTriage.Json.Fields
import AdvisoryTriage.Json.Writer
import Mathlib.Data.List.Basic

/-!
# The grammar of JSON documents

Which texts are documents of which values, said without a reader. Two levels are kept apart. A value
is a row of tokens, in one way only (`Json.Value.tokens`); a row of tokens is spelled by many texts
(`Json.Spells`), since blanks may stand around every token and strings and numbers have several
spellings (`Json.Token.SpelledBy`). A document of a value is a text that spells its tokens
(`Json.Value.WrittenAs`).

A string is spelled piece by piece (`Json.Body`): characters as they are or behind a backslash, and
code units of UTF-16 by number. What text the pieces denote is a question of its own
(`Json.Denotes`). They may denote none, since half of a surrogate pair is no character; such a
string is well formed all the same and may stand where nobody looks.

Every value whose texts and numbers can be spelled has a document without blanks (`Json.compact`).
-/

namespace AdvisoryTriage

namespace Json

/-! ### Strings -/

/-- A hexadecimal digit of a value, in either case. -/
def IsHexDigit (c : Char) (n : Nat) : Prop :=
  "0123456789abcdef".toList[n]? = some c ∨ "0123456789ABCDEF".toList[n]? = some c

/-- **What stands between the quotes of a string**, piece by piece. -/
inductive Body : List Piece → List Char → Prop
  /-- The empty string. -/
  | nil : Body [] []
  /-- A character as it is: no quote, no backslash, no control character. -/
  | plain {c : Char} {pieces : List Piece} {s : List Char} (hquote : c ≠ '"')
      (hbackslash : c ≠ '\\') (hcontrol : ' ' ≤ c) (hrest : Body pieces s) :
      Body (.char c :: pieces) (c :: s)
  /-- A character by a short escape. -/
  | short {e c : Char} {pieces : List Piece} {s : List Char} (hescape : (e, c) ∈ shortEscapes)
      (hrest : Body pieces s) : Body (.char c :: pieces) ('\\' :: e :: s)
  /-- A code unit by four hexadecimal digits. -/
  | unit {a b c d : Char} {i j k l : Nat} {pieces : List Piece} {s : List Char}
      (ha : IsHexDigit a i) (hb : IsHexDigit b j) (hc : IsHexDigit c k) (hd : IsHexDigit d l)
      (hrest : Body pieces s) :
      Body (.unit (((i * 16 + j) * 16 + k) * 16 + l) :: pieces)
        ('\\' :: 'u' :: a :: b :: c :: d :: s)

/-- **The text that pieces denote**, if they denote one. -/
inductive Denotes : List Piece → List Char → Prop
  /-- No piece, no character. -/
  | nil : Denotes [] []
  /-- A character stands for itself. -/
  | char {c : Char} {pieces : List Piece} {s : List Char} (hrest : Denotes pieces s) :
      Denotes (.char c :: pieces) (c :: s)
  /-- A code unit stands for the character of that number. -/
  | unit {c : Char} {n : Nat} {pieces : List Piece} {s : List Char} (hnumber : c.toNat = n)
      (hrest : Denotes pieces s) : Denotes (.unit n :: pieces) (c :: s)
  /-- A leading and a trailing surrogate stand for one character together. -/
  | pair {c : Char} {h l : Nat} {pieces : List Piece} {s : List Char}
      (hleading : 0xd800 ≤ h ∧ h < 0xdc00) (htrailing : 0xdc00 ≤ l ∧ l < 0xe000)
      (hnumber : c.toNat = 0x10000 + (h - 0xd800) * 0x400 + (l - 0xdc00))
      (hrest : Denotes pieces s) : Denotes (.unit h :: .unit l :: pieces) (c :: s)

/-! ### Numbers -/

/-- A decimal digit. -/
abbrev IsDigit (c : Char) : Prop :=
  '0' ≤ c ∧ c ≤ '9'

/-- At least one digit. -/
def IsDigits (s : List Char) : Prop :=
  s ≠ [] ∧ ∀ c ∈ s, IsDigit c

/-- The whole part of a number: a zero alone, or digits that start with another. -/
inductive IsWhole : List Char → Prop
  /-- A zero. -/
  | zero : IsWhole ['0']
  /-- Digits. -/
  | digits {c : Char} {s : List Char} (hfirst : IsDigit c) (hzero : c ≠ '0')
      (hrest : ∀ d ∈ s, IsDigit d) : IsWhole (c :: s)

/-- The fraction of a number, which may be absent. -/
inductive IsFraction : List Char → Prop
  /-- No fraction. -/
  | absent : IsFraction []
  /-- A point and digits. -/
  | digits {s : List Char} (hdigits : IsDigits s) : IsFraction ('.' :: s)

/-- The exponent of a number, which may be absent. -/
inductive IsExponent : List Char → Prop
  /-- No exponent. -/
  | absent : IsExponent []
  /-- The letter, perhaps a sign, and digits. -/
  | digits {e : Char} {sign s : List Char} (hletter : e = 'e' ∨ e = 'E')
      (hsign : sign = [] ∨ sign = ['+'] ∨ sign = ['-']) (hdigits : IsDigits s) :
      IsExponent (e :: (sign ++ s))

/-- **The spelling of a number.** -/
inductive IsNumber : List Char → Prop
  | intro {sign whole fraction exponent : List Char} (hsign : sign = [] ∨ sign = ['-'])
      (hwhole : IsWhole whole) (hfraction : IsFraction fraction) (hexponent : IsExponent exponent) :
      IsNumber (sign ++ (whole ++ fraction ++ exponent))

/-! ### Tokens -/

/-- **A spelling of a token.** -/
inductive Token.SpelledBy : Token → List Char → Prop
  | openArray : SpelledBy .openArray ['[']
  | closeArray : SpelledBy .closeArray [']']
  | openObject : SpelledBy .openObject ['\x7b']
  | closeObject : SpelledBy .closeObject ['\x7d']
  | comma : SpelledBy .comma [',']
  | colon : SpelledBy .colon [':']
  | null : SpelledBy .null ['n', 'u', 'l', 'l']
  | true : SpelledBy (.bool true) ['t', 'r', 'u', 'e']
  | false : SpelledBy (.bool false) ['f', 'a', 'l', 's', 'e']
  | number {s : List Char} (h : IsNumber s) : SpelledBy (.number (String.ofList s)) s
  /-- A string that denotes a text. -/
  | text {pieces : List Piece} {t s : List Char} (hbody : Body pieces s)
      (htext : Denotes pieces t) :
      SpelledBy (.string (some (String.ofList t))) ('"' :: (s ++ ['"']))
  /-- A string that denotes none. -/
  | noText {pieces : List Piece} {s : List Char} (hbody : Body pieces s)
      (hnone : ∀ t, ¬ Denotes pieces t) : SpelledBy (.string none) ('"' :: (s ++ ['"']))

/-- The blanks that may stand around tokens. -/
def blanks : List Char :=
  [' ', '\t', '\n', '\r']

/-- **A text spells tokens** if it spells one after the other, with blanks around them. -/
inductive Spells : List Token → List Char → Prop
  /-- Behind the last token there are blanks. -/
  | done {blank : List Char} (hblank : ∀ c ∈ blank, c ∈ blanks) : Spells [] blank
  /-- In front of a token there are blanks. -/
  | token {t : Token} {ts : List Token} {blank w s : List Char} (hblank : ∀ c ∈ blank, c ∈ blanks)
      (hspelled : t.SpelledBy w) (hrest : Spells ts s) : Spells (t :: ts) (blank ++ w ++ s)

/-! ### Values -/

/-- **A document of a value.** -/
def Value.WrittenAs (v : Value) (text : String) : Prop :=
  Spells v.tokens text.toList

/-! ### Documents without blanks -/

theorem isHexDigit_hexDigit {n : Nat} (h : n < 16) : IsHexDigit (hexDigit n) n := by
  have hall : ∀ n < 16, "0123456789abcdef".toList[n]? = some (hexDigit n) := by decide
  exact .inl (hall n h)

/-- Every character can be written, and denotes itself. -/
theorem exists_body_quoteChar (c : Char) : ∃ piece : Piece,
    (∀ {pieces : List Piece} {s : List Char}, Body pieces s →
      Body (piece :: pieces) (quoteChar c ++ s)) ∧
    ∀ {pieces : List Piece} {t : List Char}, Denotes pieces t →
      Denotes (piece :: pieces) (c :: t) := by
  by_cases hslash : c = '/'
  · -- it has a short escape, and is written as it is all the same
    subst hslash
    exact ⟨.char '/', .plain (by decide) (by decide) (by decide), .char⟩
  rw [quoteChar, if_neg hslash]
  split
  · next e d hfind =>
    obtain rfl : d = c := by simpa using List.find?_some hfind
    exact ⟨.char d, .short (List.mem_of_find?_eq_some hfind), .char⟩
  · next hfind =>
    have hnone (e : Char) : (e, c) ∉ shortEscapes := fun he =>
      List.find?_eq_none.mp hfind _ he (decide_eq_true rfl)
    by_cases hcontrol : c < ' '
    · have hlt : c.toNat < 0x20 := UInt32.lt_iff_toNat_lt.mp hcontrol
      have hzero : IsHexDigit '0' 0 := .inl rfl
      rw [if_pos hcontrol]
      exact ⟨_, .unit hzero hzero (isHexDigit_hexDigit (by omega))
        (isHexDigit_hexDigit (by omega)), .unit (by omega)⟩
    · have hquote : c ≠ '"' := by
        rintro rfl
        exact hnone '"' (by decide)
      have hbackslash : c ≠ '\\' := by
        rintro rfl
        exact hnone '\\' (by decide)
      rw [if_neg hcontrol]
      exact ⟨.char c, .plain hquote hbackslash (Char.not_lt.mp hcontrol), .char⟩

theorem exists_body_flatMap_quoteChar (t : List Char) :
    ∃ pieces, Body pieces (t.flatMap quoteChar) ∧ Denotes pieces t := by
  induction t with
  | nil => exact ⟨[], .nil, .nil⟩
  | cons c t ih =>
    obtain ⟨pieces, hbody, hdenotes⟩ := ih
    obtain ⟨piece, hpiece, hchar⟩ := exists_body_quoteChar c
    exact ⟨piece :: pieces, hpiece hbody, hchar hdenotes⟩

/-- Every text can be written. -/
theorem spelledBy_compact_text (text : String) :
    (Token.string (some text)).SpelledBy (Token.string (some text)).compact := by
  obtain ⟨pieces, hbody, hdenotes⟩ := exists_body_flatMap_quoteChar text.toList
  have hspelled := Token.SpelledBy.text hbody hdenotes
  rwa [String.ofList_toList] at hspelled

theorem spells_flatMap_compact {ts : List Token} (h : ∀ t ∈ ts, t.SpelledBy t.compact) :
    Spells ts (ts.flatMap Token.compact) := by
  induction ts with
  | nil => exact .done (List.forall_mem_nil _)
  | cons t ts ih =>
    obtain ⟨ht, hts⟩ := List.forall_mem_cons.mp h
    exact .token (List.forall_mem_nil _) ht (ih hts)

/-- What stands between the commas, with the first one in front of the others. -/
theorem intercalate_cons {α : Type} (sep : α) (x : List α) (xs : List (List α)) :
    [sep].intercalate (x :: xs) = x ++ xs.flatMap (sep :: ·) := by
  induction xs generalizing x with
  | nil => simp
  | cons y xs ih =>
    rw [List.intercalate_cons_cons, ih, List.flatMap_cons, List.append_assoc]
    rfl

theorem mem_intercalate {α : Type} {sep x : α} {xs : List (List α)}
    (h : x ∈ [sep].intercalate xs) : x = sep ∨ ∃ y ∈ xs, x ∈ y := by
  cases xs with
  | nil => cases h
  | cons y ys =>
    rw [intercalate_cons, List.mem_append, List.mem_flatMap] at h
    rcases h with h | ⟨z, hz, h⟩
    · exact .inr ⟨y, List.mem_cons_self, h⟩
    · exact (List.mem_cons.mp h).imp_right fun h => ⟨z, List.mem_cons_of_mem y hz, h⟩

namespace Value

theorem tokensOfItems_eq_map (items : List Value) : tokensOfItems items = items.map tokens := by
  induction items with
  | nil => rw [tokensOfItems, List.map_nil]
  | cons v items ih => rw [tokensOfItems, List.map_cons, ih]

theorem tokensOfMembers_eq_map (members : List (Option String × Value)) :
    tokensOfMembers members =
      members.map fun (name, v) => .string name :: .colon :: tokens v := by
  induction members with
  | nil => rw [tokensOfMembers, List.map_nil]
  | cons member members ih => rw [tokensOfMembers, List.map_cons, ih]

/-- A value can be written if all its tokens can: its strings are texts, and its numbers are
spelled as numbers are. -/
def Writable (v : Value) : Prop :=
  ∀ t ∈ v.tokens, t.SpelledBy t.compact

/-- A text that may be absent can be written. -/
theorem writable_ofText (text : Option String) : (ofText text).Writable := by
  cases text with
  | none => exact List.forall_mem_singleton.mpr .null
  | some text => exact List.forall_mem_singleton.mpr (spelledBy_compact_text text)

theorem writable_array {items : List Value} (h : ∀ v ∈ items, v.Writable) :
    (array items).Writable := by
  intro t ht
  rw [tokens, tokensOfItems_eq_map, List.mem_cons, List.mem_append, List.mem_singleton] at ht
  rcases ht with rfl | ht | rfl
  · exact .openArray
  · rcases mem_intercalate ht with rfl | ⟨ts, hts, ht⟩
    · exact .comma
    · obtain ⟨v, hv, rfl⟩ := List.mem_map.mp hts
      exact h v hv t ht
  · exact .closeArray

theorem writable_membersOf {given : List (String × Value)} (h : ∀ p ∈ given, p.2.Writable) :
    (object (membersOf given)).Writable := by
  intro t ht
  rw [tokens, tokensOfMembers_eq_map, List.mem_cons, List.mem_append, List.mem_singleton] at ht
  rcases ht with rfl | ht | rfl
  · exact .openObject
  · rcases mem_intercalate ht with rfl | ⟨ts, hts, ht⟩
    · exact .comma
    · rw [membersOf, List.map_map] at hts
      obtain ⟨p, hp, rfl⟩ := List.mem_map.mp hts
      rcases List.mem_cons.mp ht with rfl | ht
      · exact spelledBy_compact_text p.1
      · rcases List.mem_cons.mp ht with rfl | ht
        · exact .colon
        · exact h p hp t ht
  · exact .closeObject

/-- What can be written is a document of the value. -/
theorem Writable.writtenAs_compact {v : Value} (h : v.Writable) : v.WrittenAs v.compact := by
  rw [WrittenAs, compact, String.toList_ofList]
  exact spells_flatMap_compact h

end Value

end Json

end AdvisoryTriage
