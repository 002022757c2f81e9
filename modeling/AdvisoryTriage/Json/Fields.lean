import AdvisoryTriage.Json.Value

/-!
# Records in JSON

A record with named fields is written as an object, whose members may come in any order, or as an
array of the values of its fields in their declared order. `Json.Value.fields?` reads either form
and leaves the meaning of the single values to the record.

* In an object members with other names are ignored, however often they occur, but a field may not
  be given twice, and every name has to be text.
* In an array the leading fields that have no default must be there, and there must be no more
  values than fields.

The readers of single values take the value of a field, or nothing where it is not given. A
record is written as the object that gives every field a value, in the declared order
(`Json.Value.membersOf`).
-/

namespace AdvisoryTriage

namespace Json

namespace Value

/-- The value that an object gives to a field: nothing if no member has its name, and a failure if
two have. -/
def member? (name : String) (members : List (Option String × Value)) : Option (Option Value) :=
  match members.filter (·.1 == some name) with
  | [] => some none
  | [(_, v)] => some (some v)
  | _ => none

/-- The values of the fields of a record, of which the first `least` have no default. -/
def fields? (names : List String) (least : Nat) : Value → Option (List (Option Value))
  | .object members =>
    if members.all (·.1.isSome) then names.mapM (member? · members) else none
  | .array items =>
    if least ≤ items.length ∧ items.length ≤ names.length then
      some (items.map some ++ List.replicate (names.length - items.length) none)
    else none
  | _ => none

/-- A text that has to be given. -/
def text? : Option Value → Option String
  | some (.string text) => text
  | _ => none

/-- A text that may be absent or null. -/
def optionalText? : Option Value → Option (Option String)
  | none => some none
  | some .null => some none
  | some (.string (some text)) => some (some text)
  | _ => none

/-- A list that is empty unless it is given, each item read by `item?`. -/
def list? {α : Type} (item? : Value → Option α) : Option Value → Option (List α)
  | none => some []
  | some (.array items) => items.mapM item?
  | _ => none

/-- The value of a text that may be absent. -/
def ofText : Option String → Value
  | none => .null
  | some text => .string (some text)

/-- The members that give values to fields, in order. -/
def membersOf (given : List (String × Value)) : List (Option String × Value) :=
  given.map fun (name, v) => (some name, v)

end Value

end Json

end AdvisoryTriage
