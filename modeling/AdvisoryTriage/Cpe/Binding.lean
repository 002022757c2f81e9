import AdvisoryTriage.Cpe.Basic
import AdvisoryTriage.Cpe.Component
import AdvisoryTriage.Text.LowerCase

/-!
# Written forms of a platform name

Two forms are in use. A *formatted string* opens with `cpe:2.3:` and lists the part and up to ten
fields. A *URI* opens with `cpe:/`; it leaves skipped components empty and drops trailing ones. A
URI is read by way of the formatted string it corresponds to, which writes `*` for each empty
component and goes on with `*` up to the eleventh.

* `Cpe.formattedOfUri` – that formatted string, without its opening.
* `Cpe.parse` – the platform name that a text denotes, or what is wrong with it.
-/

namespace AdvisoryTriage

namespace Cpe

/-! ### Errors -/

/-- What can be wrong with a written platform name. -/
inductive ParseError where
  /-- The text opens like neither form. -/
  | unknownForm
  /-- The part, the vendor or the product is not written. -/
  | tooFewComponents
  /-- The first component names no part. -/
  | invalidPart (text : String)
deriving DecidableEq

/-- The wording of an error. -/
def ParseError.message : ParseError → String
  | .unknownForm => "CPE must start with 'cpe:2.3:' or 'cpe:/'"
  | .tooFewComponents => "CPE has too few components"
  | .invalidPart text => "Invalid CPE part: " ++ text

/-! ### Reading -/

/-- Reads the part: one of three letters in either case, or `*` or nothing for any part. -/
def parsePart (s : List Char) : Except ParseError Part :=
  match Text.lowerCase s with
  | ['a'] => .ok .application
  | ['o'] => .ok .operatingSystem
  | ['h'] => .ok .hardware
  | ['*'] => .ok .any
  | [] => .ok .any
  | _ => .error (.invalidPart (String.ofList s))

/-- The text field at a position of a list of components; a field that is not written is `*`. -/
def field (components : List (List Char)) (i : Nat) : String :=
  String.ofList (unescape (components[i]?.getD ['*']))

/-- Reads a formatted string behind its opening. What follows the eleventh component is ignored. -/
def ofFormatted (s : List Char) : Except ParseError Cpe :=
  match splitComponents s with
  | part :: vendor :: product :: rest => do
    return {
      part := ← parsePart part
      vendor := String.ofList (unescape vendor)
      product := String.ofList (unescape product)
      version := field rest 0
      update := field rest 1
      edition := field rest 2
      language := field rest 3
      swEdition := field rest 4
      targetSw := field rest 5
      targetHw := field rest 6
      other := field rest 7 }
  | _ => .error .tooFewComponents

/-- The formatted string, behind its opening, of a URI behind its opening. -/
def formattedOfUri (s : List Char) : Except ParseError (List Char) :=
  let components := splitComponents s
  if components.length < 3 then
    .error .tooFewComponents
  else
    .ok (joinComponents (components.map (fun c => if c = [] then ['*'] else c) ++
      List.replicate (11 - components.length) ['*']))

/-- Removes an opening from a text that has it. -/
def stripOpening? : (opening s : List Char) → Option (List Char)
  | [], s => some s
  | _ :: _, [] => none
  | o :: opening, c :: s => if o = c then stripOpening? opening s else none

theorem stripOpening?_eq_some_iff {opening s t : List Char} :
    stripOpening? opening s = some t ↔ s = opening ++ t := by
  fun_induction stripOpening? opening s with
  | case1 s => simp
  | case2 o opening => simp
  | case3 o opening s ih => simpa using ih
  | case4 o opening c s h => simp [Ne.symm h]

/-- Reads a platform name in either form. -/
def parse (text : String) : Except ParseError Cpe :=
  match stripOpening? "cpe:2.3:".toList text.toList with
  | some s => ofFormatted s
  | none =>
    match stripOpening? "cpe:/".toList text.toList with
    | some s => formattedOfUri s >>= ofFormatted
    | none => .error .unknownForm

end Cpe

end AdvisoryTriage
