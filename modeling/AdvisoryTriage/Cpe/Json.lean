import AdvisoryTriage.Cpe.Basic
import AdvisoryTriage.Json.Fields
import AdvisoryTriage.Json.Reader

/-!
# Platform names in JSON

A platform name is a record of eleven fields, none of which may be left out. The part is written by
its name, or as an object whose only member has that name and the value null.
-/

namespace AdvisoryTriage

namespace Cpe

open Json (Value)

/-- A part by its name in JSON. -/
def Part.ofName? : String → Option Part
  | "Application" => some .application
  | "OperatingSystem" => some .operatingSystem
  | "Hardware" => some .hardware
  | "Any" => some .any
  | _ => none

/-- A part that has to be given. -/
def Part.field? : Option Value → Option Part
  | some (.string (some name)) => Part.ofName? name
  | some (.object [(some name, .null)]) => Part.ofName? name
  | _ => none

/-- A platform name from its JSON value. -/
def ofJson? (v : Value) : Option Cpe :=
  match v.fields? ["part", "vendor", "product", "version", "update", "edition", "language",
      "sw_edition", "target_sw", "target_hw", "other"] 11 with
  | some [part, vendor, product, version, update, edition, language, swEdition, targetSw, targetHw,
      other] => do
    return {
      part := ← Part.field? part
      vendor := ← Value.text? vendor
      product := ← Value.text? product
      version := ← Value.text? version
      update := ← Value.text? update
      edition := ← Value.text? edition
      language := ← Value.text? language
      swEdition := ← Value.text? swEdition
      targetSw := ← Value.text? targetSw
      targetHw := ← Value.text? targetHw
      other := ← Value.text? other }
  | _ => none

/-- A platform name from a JSON document. -/
def ofJsonText? (text : String) : Option Cpe :=
  Json.parse? (text.toList.map some) >>= ofJson?

end Cpe

end AdvisoryTriage
