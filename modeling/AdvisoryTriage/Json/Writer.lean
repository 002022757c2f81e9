import AdvisoryTriage.Json.Token
import AdvisoryTriage.Json.Value

/-!
# Writing JSON documents

A value is a row of tokens (`Json.Value.tokens`), which are written one after the other without
blanks (`Json.Value.compact`). In a string only what has to be escaped is: quotes, backslashes and
control characters, the latter by a short escape where there is one.
-/

namespace AdvisoryTriage

namespace Json

/-! ### The tokens of a value -/

namespace Value

mutual

/-- The tokens of a value. -/
def tokens : Value → List Token
  | .null => [.null]
  | .bool b => [.bool b]
  | .number spelling => [.number spelling]
  | .string text => [.string text]
  | .array items => .openArray :: ([.comma].intercalate (tokensOfItems items) ++ [.closeArray])
  | .object members =>
    .openObject :: ([.comma].intercalate (tokensOfMembers members) ++ [.closeObject])

/-- The tokens of each item of an array. -/
def tokensOfItems : List Value → List (List Token)
  | [] => []
  | v :: items => tokens v :: tokensOfItems items

/-- The tokens of each member of an object. -/
def tokensOfMembers : List (Option String × Value) → List (List Token)
  | [] => []
  | (name, v) :: members => (.string name :: .colon :: tokens v) :: tokensOfMembers members

end

end Value

/-! ### Their text -/

/-- The short escapes: what stands behind the backslash, and the character it stands for. -/
def shortEscapes : List (Char × Char) :=
  [('"', '"'), ('\\', '\\'), ('/', '/'), ('b', '\x08'), ('f', '\x0c'), ('n', '\n'), ('r', '\r'),
    ('t', '\t')]

/-- The small hexadecimal digit of a value. -/
def hexDigit (n : Nat) : Char :=
  "0123456789abcdef".toList.getD n '0'

/-- A character as it is written in a string: by its short escape if it has to be escaped and has
one, by number if it is another control character. -/
def quoteChar (c : Char) : List Char :=
  if c = '/' then [c]
  else match shortEscapes.find? (·.2 = c) with
    | some (e, _) => ['\\', e]
    | none =>
      if c < ' ' then ['\\', 'u', '0', '0', hexDigit (c.toNat / 16), hexDigit (c.toNat % 16)]
      else [c]

/-- A token without anything that could be left out. A string that denotes no text is written like
an empty one. -/
def Token.compact : Token → List Char
  | .openArray => ['[']
  | .closeArray => [']']
  | .openObject => ['\x7b']
  | .closeObject => ['\x7d']
  | .comma => [',']
  | .colon => [':']
  | .null => ['n', 'u', 'l', 'l']
  | .bool true => ['t', 'r', 'u', 'e']
  | .bool false => ['f', 'a', 'l', 's', 'e']
  | .number spelling => spelling.toList
  | .string text => '"' :: ((text.getD "").toList.flatMap quoteChar ++ ['"'])

/-- **A value written without blanks.** -/
def Value.compact (v : Value) : String :=
  String.ofList (v.tokens.flatMap Token.compact)

end Json

end AdvisoryTriage
