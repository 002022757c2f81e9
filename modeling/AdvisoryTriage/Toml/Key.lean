import AdvisoryTriage.Toml.Text

/-!
# Keys in TOML

A key is a bare word, or a string in quotes on one line; a dotted key joins several by points, with
blanks around the points if wanted. Its length is limited, as is the nesting of values.
-/

namespace AdvisoryTriage

namespace Toml

/-- One more than the greatest depth that keys and values may have. -/
def depthLimit : Nat := 80

/-- Characters of bare keys. -/
def isBareKeyChar (c : Char) : Bool :=
  c.isAlphanum || c == '-' || c == '_'

/-- A key without points. -/
def simpleKey? : List Char → Option (String × List Char)
  | '"' :: s => (basicString? s).map fun (text, rest) => (String.ofList text, rest)
  | '\'' :: s => (literalString? s).map fun (text, rest) => (String.ofList text, rest)
  | s =>
    match s.takeWhile isBareKeyChar with
    | [] => none
    | word => some (String.ofList word, s.dropWhile isBareKeyChar)

/-- A key, with the blanks around it. A part that takes nothing off ends the key. -/
def keyParts? (s : List Char) : Option (List String × List Char) :=
  match simpleKey? (skipBlanks s) with
  | none => none
  | some (part, rest) =>
    match skipBlanks rest with
    | '.' :: rest =>
      if _ : rest.length < s.length then
        (keyParts? rest).map fun (parts, rest) => (part :: parts, rest)
      else none
    | rest => some ([part], rest)
termination_by s.length

/-- A key of at most the length allowed. -/
def key? (s : List Char) : Option (List String × List Char) :=
  (keyParts? s).filter fun (parts, _) => parts.length < depthLimit

end Toml

end AdvisoryTriage
