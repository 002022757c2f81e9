import AdvisoryTriage.Package.Basic
import AdvisoryTriage.Text.Blank
import AdvisoryTriage.Text.Split

/-!
# Package specifiers

A specifier is what a package manager reports and what security data quotes: `name-version-release`,
with an epoch either in front of the version or in front of the whole, and perhaps an architecture
at the end.

The text is taken apart from its right end, since a name may hold dashes and dots of its own:

1. blanks around the text go;
2. what follows the last dot is the architecture, if it is one of `Package.architectures`;
3. what follows the last dash is the release, what follows the dash before that is the version;
4. an epoch ends at the first colon of the version or, if there is none, of the name.

* `Package.parse` – the package that a specifier denotes, or what is wrong with it.
* `Package.ParseError.message` – the wording.
-/

namespace AdvisoryTriage

namespace Package

/-! ### Errors -/

/-- What can be wrong with a specifier. -/
inductive ParseError where
  /-- Nothing but blanks. -/
  | empty
  /-- The component of that name is absent or empty. -/
  | missing (component : String)
  /-- Nothing stands in front of the version. -/
  | emptyName
  /-- The text in front of a colon is no epoch, or it is a second one. -/
  | invalidEpoch (text : String)
deriving DecidableEq

/-- The wording of an error. -/
def ParseError.message : ParseError → String
  | .empty => "empty package specifier"
  | .missing component => "missing " ++ component ++ " component"
  | .emptyName => "empty package name"
  | .invalidEpoch text => "invalid epoch: " ++ text

/-! ### Epochs -/

/-- The digits of ASCII. -/
def isDigit (c : Char) : Bool := '0' ≤ c && c ≤ '9'

/-- The number that a list of decimal digits denotes. -/
def decimalValue (digits : List Char) : Nat :=
  digits.foldl (fun n c => 10 * n + (c.toNat - '0'.toNat)) 0

/-- The number is the one that core reads from the digits in base ten. -/
theorem decimalValue_eq_ofDigitChars (digits : List Char) :
    decimalValue digits = Nat.ofDigitChars 10 digits 0 :=
  rfl

/-- Reads an epoch: at least one digit, perhaps behind a plus sign, of a value below 2³². -/
def epoch? (s : List Char) : Option UInt32 :=
  let digits := match s with
    | '+' :: t => t
    | t => t
  if digits ≠ [] ∧ digits.all isDigit ∧ decimalValue digits < UInt32.size then
    some (UInt32.ofNat (decimalValue digits))
  else
    none

/-- Reads an epoch that has to be there. -/
def parseEpoch (s : List Char) : Except ParseError UInt32 :=
  match epoch? s with
  | some e => .ok e
  | none => .error (.invalidEpoch (String.ofList s))

/-! ### Specifiers -/

/-- The architectures that a specifier may end in. -/
def architectures : List String :=
  ["x86_64", "i386", "i486", "i586", "i686", "noarch", "aarch64", "ppc", "ppc64", "ppc64le",
    "ppc64p7", "s390", "s390x", "armv7hl", "src", "nosrc"]

/-- Takes off an architecture that stands behind the last dot. -/
def splitArchitecture (s : List Char) : List Char × Option String :=
  match Text.splitLast? '.' s with
  | some (rest, arch) =>
    if String.ofList arch ∈ architectures then (rest, some (String.ofList arch)) else (s, none)
  | none => (s, none)

/-- Takes off a non-empty release behind the last dash. -/
def splitRelease (s : List Char) : Except ParseError (List Char × List Char) :=
  match Text.splitLast? '-' s with
  | some (rest, release) =>
    if release = [] then .error (.missing "release") else .ok (rest, release)
  | none => .error (.missing "release")

/-- Separates the name from the version, epochs still in place. -/
def splitVersion (s : List Char) : Except ParseError (List Char × List Char) :=
  match Text.splitLast? '-' s with
  | some (name, version) => .ok (name, version)
  | none => .error (.missing "version")

/-- Takes off an epoch in front of the version. -/
def splitVersionEpoch (version : List Char) :
    Except ParseError (Option UInt32 × List Char) :=
  match Text.splitFirst? ':' version with
  | some (epoch, rest) => do return (some (← parseEpoch epoch), rest)
  | none => .ok (none, version)

/-- Takes off an epoch in front of the name, where the version may have had one already. -/
def splitNameEpoch (known : Option UInt32) (name : List Char) :
    Except ParseError (Option UInt32 × List Char) :=
  match Text.splitFirst? ':' name, known with
  | some (epoch, rest), none => do return (some (← parseEpoch epoch), rest)
  | some (epoch, _), some _ => .error (.invalidEpoch (String.ofList epoch))
  | none, _ => .ok (known, name)

/-- Reads a specifier without blanks around it. -/
def parseTrimmed (s : List Char) : Except ParseError Package := do
  if s = [] then throw .empty
  let (rest, arch) := splitArchitecture s
  let (rest, release) ← splitRelease rest
  let (name, version) ← splitVersion rest
  -- an epoch is looked at before the text behind it, and the version before the name
  let (epoch, version) ← splitVersionEpoch version
  if version = [] then throw (.missing "version")
  let (epoch, name) ← splitNameEpoch epoch name
  if name = [] then throw .emptyName
  return {
    name := String.ofList name
    epoch := epoch
    version := String.ofList version
    release := String.ofList release
    arch := arch }

/-- Reads a specifier. -/
def parse (spec : String) : Except ParseError Package :=
  parseTrimmed (Text.trim spec.toList)

end Package

end AdvisoryTriage
