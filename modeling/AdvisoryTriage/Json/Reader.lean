import AdvisoryTriage.Json.Token
import AdvisoryTriage.Json.Value

/-!
# Reading a JSON document

The reader is a machine that takes one token at a time. Between two tokens it stands somewhere in
the value being read, and remembers the arrays and objects that are still open, innermost first.
Nesting therefore costs it a longer list and nothing else, and there is no limit to it.

* `Json.State` – where the machine stands.
* `Json.State.step?` – one token; a token that has no place there is refused.
* `Json.run?` and `Json.parse?` – a whole document: one value, with blanks around its tokens, and
  nothing behind it.
-/

namespace AdvisoryTriage

namespace Json

open Text (Symbol)

/-! ### The machine -/

/-- An array or object that is still open, with what it holds so far, last item first. -/
inductive Frame where
  /-- An array. -/
  | array (before : List Value)
  /-- An object, and the name of the member whose value is being read. -/
  | object (before : List (Option String × Value)) (name : Option String)

/-- Where the machine stands between two tokens. -/
inductive State where
  /-- A value has to come. -/
  | value (stack : List Frame)
  /-- An array was just opened: a value or the closing bracket comes. -/
  | firstItem (stack : List Frame)
  /-- An object was just opened: a name or the closing brace comes. -/
  | firstMember (stack : List Frame)
  /-- A name has to come, behind a comma in an object. -/
  | member (before : List (Option String × Value)) (stack : List Frame)
  /-- A colon has to come, behind a name. -/
  | colon (before : List (Option String × Value)) (name : Option String) (stack : List Frame)
  /-- A value is complete. -/
  | complete (v : Value) (stack : List Frame)

/-- The start of a value. -/
def startValue? (stack : List Frame) : Token → Option State
  | .null => some (.complete .null stack)
  | .bool b => some (.complete (.bool b) stack)
  | .number spelling => some (.complete (.number spelling) stack)
  | .string text => some (.complete (.string text) stack)
  | .openArray => some (.firstItem stack)
  | .openObject => some (.firstMember stack)
  | _ => none

/-- What may follow a complete value, by the innermost array or object. -/
def afterValue? (v : Value) : List Frame → Token → Option State
  | .array before :: stack, .comma => some (.value (.array (v :: before) :: stack))
  | .array before :: stack, .closeArray => some (.complete (.array (v :: before).reverse) stack)
  | .object before name :: stack, .comma => some (.member ((name, v) :: before) stack)
  | .object before name :: stack, .closeObject =>
    some (.complete (.object ((name, v) :: before).reverse) stack)
  | _, _ => none

/-- One token. -/
def State.step? : State → Token → Option State
  | .value stack, t => startValue? stack t
  | .firstItem stack, .closeArray => some (.complete (.array []) stack)
  | .firstItem stack, t => startValue? (.array [] :: stack) t
  | .firstMember stack, .closeObject => some (.complete (.object []) stack)
  | .firstMember stack, .string name => some (.colon [] name stack)
  | .firstMember _, _ => none
  | .member before stack, .string name => some (.colon before name stack)
  | .member _ _, _ => none
  | .colon before name stack, .colon => some (.value (.object before name :: stack))
  | .colon _ _ _, _ => none
  | .complete v stack, t => afterValue? v stack t

/-- The value read, once everything is closed. -/
def State.result? : State → Option Value
  | .complete v [] => some v
  | _ => none

/-! ### Documents -/

/-- The blanks that may stand between tokens. -/
def isBlank (s : Symbol) : Bool :=
  s == some ' ' || s == some '\t' || s == some '\n' || s == some '\r'

/-- Reads the rest of a document. -/
def run? (state : State) (s : List Symbol) : Option Value :=
  if s.dropWhile isBlank = [] then state.result?
  else
    match _ : Token.next? (s.dropWhile isBlank) with
    | none => none
    | some (t, rest) =>
      match state.step? t with
      | none => none
      | some state => run? state rest
termination_by s.length
decreasing_by
  exact Nat.lt_of_lt_of_le (Token.length_lt_of_next? ‹_›) (List.dropWhile_suffix _).length_le

/-- The value of a document. -/
def parse? (s : List Symbol) : Option Value :=
  run? (.value []) s

end Json

end AdvisoryTriage
