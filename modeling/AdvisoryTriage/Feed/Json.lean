import AdvisoryTriage.Feed.Basic
import AdvisoryTriage.Json.Fields
import AdvisoryTriage.Json.Reader
import AdvisoryTriage.Json.Writer

/-!
# Feeds in JSON

A feed is an array of advisories. The names of the fields are those of the vendor's security data,
so that its documents can be read as they are: whatever else they hold is ignored. Only the name of
an advisory is needed; lists are empty unless they are given, and texts of entries may be absent or
null. Every field is written, absent texts as null.
-/

namespace AdvisoryTriage

open Json (Value)

/-- A fix from its JSON value. -/
def Fix.ofJson? (v : Value) : Option Fix :=
  match v.fields? ["package", "product_name", "advisory", "cpe"] 0 with
  | some [specifier, product, erratum, cpe] => do
    return {
      specifier := ← Value.optionalText? specifier
      product := ← Value.optionalText? product
      erratum := ← Value.optionalText? erratum
      cpe := ← Value.optionalText? cpe }
  | _ => none

/-- A statement about a package from its JSON value. -/
def PackageState.ofJson? (v : Value) : Option PackageState :=
  match v.fields? ["package_name", "product_name", "fix_state", "cpe"] 0 with
  | some [package, product, fixState, cpe] => do
    return {
      package := ← Value.optionalText? package
      product := ← Value.optionalText? product
      fixState := ← Value.optionalText? fixState
      cpe := ← Value.optionalText? cpe }
  | _ => none

/-- An advisory from its JSON value. -/
def Advisory.ofJson? (v : Value) : Option Advisory :=
  match v.fields? ["name", "affected_release", "package_state"] 1 with
  | some [name, fixes, states] => do
    return {
      name := ← Value.text? name
      fixes := ← Value.list? Fix.ofJson? fixes
      states := ← Value.list? PackageState.ofJson? states }
  | _ => none

/-- The fields of a fix and their values. -/
def Fix.fields (fix : Fix) : List (String × Value) :=
  [("package", .ofText fix.specifier), ("product_name", .ofText fix.product),
    ("advisory", .ofText fix.erratum), ("cpe", .ofText fix.cpe)]

/-- The JSON value of a fix. -/
def Fix.toJson (fix : Fix) : Value :=
  .object (Value.membersOf fix.fields)

/-- The fields of a statement about a package and their values. -/
def PackageState.fields (state : PackageState) : List (String × Value) :=
  [("package_name", .ofText state.package), ("product_name", .ofText state.product),
    ("fix_state", .ofText state.fixState), ("cpe", .ofText state.cpe)]

/-- The JSON value of a statement about a package. -/
def PackageState.toJson (state : PackageState) : Value :=
  .object (Value.membersOf state.fields)

/-- The fields of an advisory and their values, from the values of its entries. -/
def Advisory.fields (name : String) (fixes states : List Value) : List (String × Value) :=
  [("name", .string (some name)), ("affected_release", .array fixes),
    ("package_state", .array states)]

/-- The JSON value of an advisory. -/
def Advisory.toJson (a : Advisory) : Value :=
  .object (Value.membersOf
    (Advisory.fields a.name (a.fixes.map Fix.toJson) (a.states.map PackageState.toJson)))

namespace Feed

/-- A feed from its JSON value. -/
def ofJson? : Value → Option Feed
  | .array items => (items.mapM Advisory.ofJson?).map Feed.mk
  | _ => none

/-- A feed from a JSON document. -/
def ofJsonText? (text : String) : Option Feed :=
  Json.parse? (text.toList.map some) >>= ofJson?

/-- A feed from the bytes of a JSON document. -/
def ofJsonBytes? (bytes : List UInt8) : Option Feed :=
  Json.parse? (Text.symbols bytes) >>= ofJson?

/-- The JSON value of a feed. -/
def toJson (feed : Feed) : Value :=
  .array (feed.advisories.map Advisory.toJson)

/-- The JSON document of a feed. -/
def toJsonText (feed : Feed) : String :=
  feed.toJson.compact

end Feed

end AdvisoryTriage
