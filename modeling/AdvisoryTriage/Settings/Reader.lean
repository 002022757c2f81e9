import AdvisoryTriage.Settings.Basic
import AdvisoryTriage.Text.Utf8
import AdvisoryTriage.Toml.Reader

/-!
# Settings from a file

Settings are kept in a TOML document with two tables, `logging` and `checker`. A setting that is not
given has its default, and whatever else the document holds is ignored, though it has to be well
formed. Each of the two groups may also be written as an array of the values of its settings in
their declared order; there too what is missing has its default and what is left over is ignored.
A date in place of a group gives none of its settings.

* `Settings.ofToml` – settings from a document.
* `Settings.ofFile` – settings from what a file holds, if there is one.
-/

namespace AdvisoryTriage

namespace Settings

open Toml (Value Entries)

/-- The values that a group gives to its settings. -/
def groupFields? (names : List String) : Value → Option (List (Option Value))
  | .table _ entries => some (names.map fun name => Keyed.get? entries name)
  | .array items => some (positional items)
  | .tables elements => some (positional (elements.map (.table .header)))
  | .dateTime _ => some (names.map fun _ => none)
  | _ => none
where
  /-- Values by position. -/
  positional (items : List Value) : List (Option Value) :=
    (List.range names.length).map (items[·]?)

/-- A text, or its default where it is not given. -/
def textOr? (default : String) : Option Value → Option String
  | none => some default
  | some (.string text) => some text
  | some _ => none

/-- A text of an array. -/
def text? : Value → Option String
  | .string text => some text
  | _ => none

/-- A list of texts, or its default where it is not given. -/
def textsOr? (default : List String) : Option Value → Option (List String)
  | none => some default
  | some (.array items) => items.mapM text?
  | some _ => none

/-- The settings about logging, or their defaults where the group is not given. -/
def loggingOf? : Option Value → Option Settings.Logging
  | none => some { }
  | some group =>
    match groupFields? ["level", "format"] group with
    | some [level, format] => do
      let defaults : Settings.Logging := { }
      return {
        level := ← textOr? defaults.level level
        format := ← textOr? defaults.format format }
    | _ => none

/-- The settings of the checker, or their defaults where the group is not given. -/
def checkerOf? : Option Value → Option Settings.Checker
  | none => some { }
  | some group =>
    match groupFields? ["inapplicable_states"] group with
    | some [states] => do
      let defaults : Settings.Checker := { }
      return { inapplicableStates := ← textsOr? defaults.inapplicableStates states }
    | _ => none

/-- Settings from the entries of a document. -/
def ofEntries? (entries : Entries) : Option Settings := do
  return {
    logging := ← loggingOf? (entries.get? "logging")
    checker := ← checkerOf? (entries.get? "checker") }

/-- Settings from a document. -/
def ofChars (s : List Char) : Except Error Settings :=
  match Toml.parse? s >>= ofEntries? with
  | some settings => .ok settings
  | none => .error (.configuration "Failed to parse config")

/-- Settings from a document. -/
def ofToml (text : String) : Except Error Settings :=
  ofChars text.toList

/-- Settings from the bytes of a file; none if the file does not exist. -/
def ofFile (contents : Option (List UInt8)) : Except Error Settings :=
  match contents with
  | none => .error (.io "No such file or directory (os error 2)")
  | some bytes =>
    match Text.ofUtf8? bytes with
    | some s => ofChars s
    | none => .error (.io "stream did not contain valid UTF-8")

end Settings

end AdvisoryTriage
