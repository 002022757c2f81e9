import AdvisoryTriage.Toml.DateTime
import AdvisoryTriage.Toml.Key
import AdvisoryTriage.Toml.Value

/-!
# Reading a TOML document

A document is a list of lines: a header, a key with its value, a comment or nothing. A value may
itself run over several lines. Reading goes from the front; a reader of something takes it off and
returns what is left, and where a reader takes nothing off the loop around it ends.

* `Toml.value?` – a value, nested no deeper than a given limit.
* `Toml.parse?` – the entries of a whole document, or nothing if a rule is broken anywhere.
-/

namespace AdvisoryTriage

namespace Toml

/-! ### Values -/

/-- The items of an array behind its opening bracket, up to its closing bracket. Items are separated
by commas, and the last may be followed by one; blanks, line ends and comments may stand between. -/
def arrayItems? (item? : List Char → Option (Value × List Char)) (s : List Char) :
    Option (List Value × List Char) :=
  match skipLines s with
  | ']' :: rest => some ([], rest)
  | t =>
    match item? t with
    | none => none
    | some (v, rest) =>
      match skipLines rest with
      | ']' :: rest => some ([v], rest)
      | ',' :: rest =>
        if _ : rest.length < s.length then
          (arrayItems? item? rest).map fun (vs, rest) => (v :: vs, rest)
        else none
      | _ => none
termination_by s.length

/-- A key with its value. -/
def keyValue? (value? : List Char → Option (Value × List Char)) (s : List Char) :
    Option ((List String × Value) × List Char) := do
  let (key, s) ← key? s
  let s ← after? '=' s
  let (v, s) ← value? (skipBlanks s)
  return ((key, v), s)

/-- The entries of a table between braces behind its opening brace and the entries read before.
Entries are separated by commas, all on one line. -/
def inlineEntries? (value? : List Char → Option (Value × List Char)) (before : Entries)
    (s : List Char) : Option (Entries × List Char) :=
  match keyValue? value? s with
  | none => none
  | some ((key, v), rest) =>
    match insert? key v before, skipBlanks rest with
    | some es, '\x7d' :: rest => some (es, rest)
    | some es, ',' :: rest =>
      if _ : rest.length < s.length then inlineEntries? value? es rest else none
    | _, _ => none
termination_by s.length

/-- A table between braces behind its opening brace. -/
def inlineTable? (value? : List Char → Option (Value × List Char)) (s : List Char) :
    Option (Entries × List Char) :=
  match skipBlanks s with
  | '\x7d' :: rest => some ([], rest)
  | _ => inlineEntries? value? [] s

/-- The part of a text in front of what is left of it. -/
def spelling (s rest : List Char) : String :=
  String.ofList (s.take (s.length - rest.length))

/-- A date, a time or a number. -/
def dateTimeOrNumber? (s : List Char) : Option (Value × List Char) :=
  match dateTime? s with
  | .found rest => some (.dateTime (spelling s rest), rest)
  | .faulty => none
  | .notOne =>
    match number? s with
    | some (.integer n, rest) => some (.integer n, rest)
    | some (.float, rest) => some (.float (spelling s rest), rest)
    | none => none

/-- A value that holds arrays and tables nested at most `depth` deep. -/
def value? (depth : Nat) (s : List Char) : Option (Value × List Char) :=
  match s, depth with
  | '[' :: t, depth + 1 => (arrayItems? (value? depth) t).map fun (vs, rest) => (.array vs, rest)
  | '\x7b' :: t, depth + 1 =>
    (inlineTable? (value? depth) t).map fun (es, rest) => (.table .inline es, rest)
  | '"' :: _, _ => (string? s).map fun (text, rest) => (.string text, rest)
  | '\'' :: _, _ => (string? s).map fun (text, rest) => (.string text, rest)
  | 't' :: t, _ => (afterWord? "rue".toList t).map fun rest => (.boolean true, rest)
  | 'f' :: t, _ => (afterWord? "alse".toList t).map fun rest => (.boolean false, rest)
  | _, _ => dateTimeOrNumber? s

/-! ### Lines -/

/-- A document read so far: its entries, and the header that the coming keys belong to. -/
structure Document where
  /-- The entries. -/
  entries : Entries := []
  /-- The path of the last header. -/
  header : List String := []

/-- Takes in the header of a table. -/
def Document.openTable? (d : Document) (path : List String) : Option Document :=
  match path.getLast? with
  | none => none
  | some key => do
    return { entries := ← atPath? path.dropLast (defineTable? key) d.entries, header := path }

/-- Takes in the header of one more table of an array of tables. -/
def Document.openElement? (d : Document) (path : List String) : Option Document :=
  match path.getLast? with
  | none => none
  | some key => do
    return { entries := ← atPath? path.dropLast (appendTable? key) d.entries, header := path }

/-- Takes in a key with its value. -/
def Document.insert? (d : Document) (key : List String) (v : Value) : Option Document := do
  return { d with entries := ← atPath? d.header (Toml.insert? key v) d.entries }

/-- Takes in the next line, which begins with neither blanks nor a line end, and is not empty. -/
def Document.line? (d : Document) (s : List Char) : Option (Document × List Char) :=
  match s with
  | '#' :: _ => do return (d, ← lineEnd? s)
  | '[' :: '[' :: t => do
    let (path, t) ← key? t
    let t ← after? ']' t >>= after? ']'
    return (← d.openElement? path, ← lineEnd? t)
  | '[' :: t => do
    let (path, t) ← key? t
    let t ← after? ']' t
    return (← d.openTable? path, ← lineEnd? t)
  | s => do
    let ((key, v), t) ← keyValue? (value? (depthLimit - 1)) s
    return (← d.insert? key v, ← lineEnd? t)

/-- Takes in all lines. -/
def Document.lines? (d : Document) (s : List Char) : Option Document :=
  match skipBlanks s with
  | [] => some d
  | t =>
    match newline? t with
    | some rest => if _ : rest.length < s.length then d.lines? rest else none
    | none =>
      match d.line? t with
      | some (d, rest) => if _ : rest.length < s.length then d.lines? rest else none
      | none => none
termination_by s.length

/-- The entries of a document. A byte order mark in front of it does not count. -/
def parse? (s : List Char) : Option Entries :=
  let s := match s with
    | '\ufeff' :: t => t
    | s => s
  (Document.lines? { } s).map Document.entries

end Toml

end AdvisoryTriage
