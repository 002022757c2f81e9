import AdvisoryTriage.Text.Replace

/-!
# Components of a written platform name

The written forms of a platform name are lists of components with a colon between them. A backslash
takes the character behind it out of play, so a quoted colon belongs to its component. Once the
components are apart, quoted and percent-encoded characters are replaced by what they stand for.

* `Cpe.splitComponents` and `Cpe.joinComponents` – from a text to its components and back.
* `Cpe.unescape` – the text that a component stands for. The sixteen spellings are replaced one
  after the other over the whole component, in the order of `Cpe.escapes`, so what one replacement
  writes can become part of a spelling that is replaced later.
-/

namespace AdvisoryTriage

namespace Cpe

/-! ### Cutting at unquoted colons -/

/-- Writes a text in front of the first of some components. -/
def extendFirst (s : List Char) : List (List Char) → List (List Char)
  | [] => [s]
  | c :: cs => (s ++ c) :: cs

/-- The components of a text: it is cut at every colon that no backslash quotes. A backslash at the
very end quotes nothing. -/
def splitComponents : List Char → List (List Char)
  | [] => [[]]
  | ':' :: s => [] :: splitComponents s
  | '\\' :: c :: s => extendFirst ['\\', c] (splitComponents s)
  | c :: s => extendFirst [c] (splitComponents s)

/-- Joins components by colons. -/
def joinComponents (components : List (List Char)) : List Char :=
  [':'].intercalate components

theorem splitComponents_ne_nil (s : List Char) : splitComponents s ≠ [] := by
  fun_cases splitComponents s <;> simp [extendFirst] <;> split <;> simp

/-! ### Quoted and encoded characters -/

/-- The spellings of quoted and percent-encoded characters, in the order of replacement. -/
def escapes : List (String × Char) :=
  [("\\:", ':'), ("\\*", '*'), ("\\?", '?'), ("%21", '!'), ("%22", '"'), ("%23", '#'), ("%24", '$'),
    ("%25", '%'), ("%26", '&'), ("%27", '\''), ("%28", '('), ("%29", ')'), ("%2a", '*'),
    ("%2b", '+'), ("%2c", ','), ("%2f", '/')]

/-- The text that a component stands for. -/
def unescape (component : List Char) : List Char :=
  escapes.foldl (fun s (spelling, c) => Text.replaceAll spelling.toList c s) component

end Cpe

end AdvisoryTriage
