/-!
# Platform names

A platform – a distribution, a product, a device – is named in the scheme of the Common Platform
Enumeration by a part and ten text fields. In every field `*` says that nothing is said, and in a
field that is compared `-` says that the field does not apply.

* `Cpe` and `Cpe.any` – a platform name, and the one that says nothing.
* `Cpe.print` – the formatted string: the prefix `cpe:2.3`, the part and the fields, joined by
  colons. The fields are written as they are.
-/

namespace AdvisoryTriage

/-- What kind of platform a name stands for. -/
inductive Cpe.Part where
  /-- An application. -/
  | application
  /-- An operating system. -/
  | operatingSystem
  /-- A device. -/
  | hardware
  /-- Nothing is said. -/
  | any
deriving DecidableEq

/-- A platform name. Every text field is `*` unless it is given. -/
structure Cpe where
  /-- The kind of platform. -/
  part : Cpe.Part := .any
  /-- The vendor. -/
  vendor : String := "*"
  /-- The product. -/
  product : String := "*"
  /-- The version of the product. -/
  version : String := "*"
  /-- The update of the version. -/
  update : String := "*"
  /-- The edition, a field kept for older names. -/
  edition : String := "*"
  /-- The language of the user interface. -/
  language : String := "*"
  /-- The edition of the software. -/
  swEdition : String := "*"
  /-- The software the product runs on. -/
  targetSw : String := "*"
  /-- The hardware the product runs on. -/
  targetHw : String := "*"
  /-- Anything else. -/
  other : String := "*"
deriving DecidableEq

namespace Cpe

/-- The platform name that says nothing. -/
def any : Cpe := { }

/-- The letter of a part in a formatted string. -/
def Part.letter : Part → String
  | .application => "a"
  | .operatingSystem => "o"
  | .hardware => "h"
  | .any => "*"

/-- The ten text fields, in the order of the formatted string. -/
def fields (c : Cpe) : List String :=
  [c.vendor, c.product, c.version, c.update, c.edition, c.language, c.swEdition, c.targetSw,
    c.targetHw, c.other]

/-- The formatted string of a platform name. -/
def print (c : Cpe) : String :=
  ":".intercalate ("cpe:2.3" :: c.part.letter :: c.fields)

end Cpe

end AdvisoryTriage
