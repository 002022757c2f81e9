import AdvisoryTriage.Error
import AdvisoryTriage.Logging.Setup
import AdvisoryTriage.Text.Blank

/-!
# Settings

Two groups of settings: how to log, and which statements of a vendor mean that an advisory does not
apply. They start from defaults, and come from a file, from single changes, or from the variables
of the environment, which replace what was there.

* `Settings` – the settings, with their defaults.
* `Settings.Checker.isInapplicable` – whether a statement is one of the configured ones, where
  letter case in ASCII and blanks around the statement do not count. A configured state is taken as
  it is.
* `Settings.withEnvironment` – the environment on top of other settings.
* `Settings.logSetup` – the logging setup they describe.
-/

namespace AdvisoryTriage

/-- How to log. -/
structure Settings.Logging where
  /-- The word for the threshold. -/
  level : String := "info"
  /-- The name of the format. -/
  format : String := "pretty"
deriving DecidableEq

/-- What the checker of released fixes goes by. -/
structure Settings.Checker where
  /-- The statements that mark an advisory as not applicable. -/
  inapplicableStates : List String := ["Not affected"]
deriving DecidableEq

/-- All settings. -/
structure Settings where
  /-- How to log. -/
  logging : Settings.Logging := { }
  /-- What the checker goes by. -/
  checker : Settings.Checker := { }
deriving DecidableEq

namespace Settings

/-! ### Statements that mean "not applicable" -/

/-- Whether two texts differ at most in the case of ASCII letters. -/
def sameUpToCase (s t : List Char) : Bool :=
  s.map Char.toLower == t.map Char.toLower

/-- Whether a statement is one of the configured ones. -/
def Checker.isInapplicable (settings : Checker) (state : String) : Bool :=
  settings.inapplicableStates.any fun s => sameUpToCase s.toList (Text.trim state.toList)

/-! ### Single changes -/

/-- Changes the word for the threshold. -/
def withLogLevel (s : Settings) (level : String) : Settings :=
  { s with logging := { s.logging with level := level } }

/-- Changes the name of the format. -/
def withLogFormat (s : Settings) (format : String) : Settings :=
  { s with logging := { s.logging with format := format } }

/-- Replaces the statements that mark an advisory as not applicable. -/
def withInapplicableStates (s : Settings) (states : List String) : Settings :=
  { s with checker := { s.checker with inapplicableStates := states } }

/-- Adds a statement that marks an advisory as not applicable. -/
def addInapplicableState (s : Settings) (state : String) : Settings :=
  s.withInapplicableStates (s.checker.inapplicableStates ++ [state])

/-! ### The environment -/

/-- The variables that settings are taken from. -/
inductive Variable where
  /-- The word for the threshold. -/
  | logLevel
  /-- The name of the format. -/
  | logFormat
  /-- The statements that mark an advisory as not applicable. -/
  | inapplicableStates
deriving DecidableEq

/-- The name under which a variable is looked up. -/
def Variable.name : Variable → String
  | .logLevel => "FIXCHECK_LOG_LEVEL"
  | .logFormat => "FIXCHECK_LOG_FORMAT"
  | .inapplicableStates => "FIXCHECK_INAPPLICABLE_STATES"

/-- The values of the variables that are set. -/
abbrev Environment := Variable → Option String

/-- The variables as they are found by name. -/
def Environment.ofNames (lookup : String → Option String) : Environment :=
  fun v => lookup v.name

/-- The items of a list written with commas. Blanks around an item do not count, and neither do
items of blanks only. -/
def itemsOf (value : String) : List String :=
  (((value.toList.splitOn ',').map Text.trim).filter (· ≠ [])).map String.ofList

/-- Settings with the variables that are set in place of what was there. -/
def withEnvironment (s : Settings) (env : Environment) : Settings :=
  { logging :=
      { level := (env .logLevel).getD s.logging.level
        format := (env .logFormat).getD s.logging.format }
    checker :=
      { inapplicableStates :=
          ((env .inapplicableStates).map itemsOf).getD s.checker.inapplicableStates } }

/-! ### Logging -/

/-- The logging setup that the settings describe. -/
def logSetup (s : Settings) : Except Error AdvisoryTriage.Logging.Setup :=
  match AdvisoryTriage.Logging.Format.ofName s.logging.format with
  | .ok format => .ok { level := s.logging.level, format := format }
  | .error e => .error (.configuration e.message)

end Settings

end AdvisoryTriage
