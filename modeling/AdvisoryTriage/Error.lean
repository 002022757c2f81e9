import AdvisoryTriage.Cpe.Binding
import AdvisoryTriage.Package.Specifier
import AdvisoryTriage.Text.Quoted

/-!
# Errors

What can go wrong between a question and its answer, by cause: the caller's text cannot be read, the
feed cannot be judged, the settings make no sense, a file cannot be read, a feed is no JSON document
of the right shape. `Error.message` has the wording and `Error.code` a short mark for logs.
-/

namespace AdvisoryTriage

/-- An error, by its cause. -/
inductive Error where
  /-- A text of the caller cannot be read as what it should name, for the reason given. -/
  | parse (subject input reason : String)
  /-- The oracle cannot be built over the feed. -/
  | construction (reason : String)
  /-- The settings cannot be read or used. -/
  | configuration (reason : String)
  /-- A file cannot be read. -/
  | io (reason : String)
  /-- A document is not JSON, or not of the right shape. -/
  | json (reason : String)
deriving DecidableEq

namespace Error

/-- The caller's platform cannot be read. -/
def platform (input : String) (e : Cpe.ParseError) : Error :=
  .parse "distro cpe" input e.message

/-- The caller's package cannot be read. -/
def package (input : String) (e : Package.ParseError) : Error :=
  .parse "package name" input e.message

/-- A feed is not a JSON array of advisories. -/
def feed : Error :=
  .json "not an array of advisories"

/-- The wording of an error. -/
def message : Error → String
  | .parse subject input reason =>
    "Parse error: can't parse " ++ subject ++ " " ++ Text.quote input ++ ": " ++ reason
  | .construction reason => "Oracle construction failed: " ++ reason
  | .configuration reason => "Configuration error: " ++ reason
  | .io reason => "IO error: " ++ reason
  | .json reason => "JSON error: " ++ reason

/-- A short mark of the cause. -/
def code : Error → String
  | .parse .. => "PARSE_ERROR"
  | .construction _ => "CONSTRUCTION_ERROR"
  | .configuration _ => "CONFIG_ERROR"
  | .io _ => "IO_ERROR"
  | .json _ => "JSON_ERROR"

/-- Whether the caller's text is at fault. -/
def isParse : Error → Bool
  | .parse .. => true
  | _ => false

/-- An error met while an oracle is built: what is not about its construction is reported as a
reason why that failed. -/
def asConstruction : Error → Error
  | .construction reason => .construction reason
  | e => .construction e.message

end Error

end AdvisoryTriage
