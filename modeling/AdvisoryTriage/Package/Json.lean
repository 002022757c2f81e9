import AdvisoryTriage.Json.Fields
import AdvisoryTriage.Json.Reader
import AdvisoryTriage.Package.Specifier

/-!
# Packages in JSON

A package is a record of five fields: `name`, `epoch`, `version`, `release` and `arch`. In an object
the epoch and the architecture may be absent or null; in an array every field has its place.
-/

namespace AdvisoryTriage

namespace Package

open Json (Value)

/-- The number that a spelling without sign, fraction and exponent denotes, if it is an epoch. -/
def epochOfSpelling? (spelling : String) : Option UInt32 :=
  if spelling.toList.all isDigit then epoch? spelling.toList else none

/-- An epoch that may be absent or null. -/
def epochField? : Option Value → Option (Option UInt32)
  | none => some none
  | some .null => some none
  | some (.number spelling) => (epochOfSpelling? spelling).map some
  | _ => none

/-- A package from its JSON value. -/
def ofJson? (v : Value) : Option Package :=
  match v.fields? ["name", "epoch", "version", "release", "arch"] 5 with
  | some [name, epoch, version, release, arch] => do
    return {
      name := ← Value.text? name
      epoch := ← epochField? epoch
      version := ← Value.text? version
      release := ← Value.text? release
      arch := ← Value.optionalText? arch }
  | _ => none

/-- A package from a JSON document. -/
def ofJsonText? (text : String) : Option Package :=
  Json.parse? (text.toList.map some) >>= ofJson?

end Package

end AdvisoryTriage
