/-!
# JSON values

The values a document can hold. A number keeps its spelling, since nothing is computed with it but
an epoch. A string, and the name of a member, keeps its text if it denotes one. An object keeps its
members in the order of the document, repeated names included: whether a repetition matters is for
the reader of the object to say.
-/

namespace AdvisoryTriage

namespace Json

/-- A JSON value. -/
inductive Value where
  /-- The literal `null`. -/
  | null
  /-- A truth value. -/
  | bool (b : Bool)
  /-- A number, as it is spelled. -/
  | number (spelling : String)
  /-- A string, with its text if it denotes one. -/
  | string (text : Option String)
  /-- An array. -/
  | array (items : List Value)
  /-- An object: names and values of its members. -/
  | object (members : List (Option String × Value))

end Json

end AdvisoryTriage
