import TraceRelay.Journal
import TraceRelay.Settings.Decode
import TraceRelay.Settings.Directory
import TraceRelay.Text.Utf8
import TraceRelay.Toml.Document

/-!
# Loading the settings

The settings come from a file of the working directory; without one the defaults hold.
-/

namespace TraceRelay.Settings

/-- A text that holds no settings: where it stands, and what is said against it. -/
structure Refused where
  path : String
  fault : String
deriving DecidableEq, Repr

/-- Why the settings could not be loaded. -/
inductive LoadError
  | read (path : String) (cause : OsError)
  | parse (refused : Refused)
deriving DecidableEq, Repr

/-- The text of a failure. -/
def LoadError.message : LoadError → String
  | .read path cause => "failed to read config " ++ path ++ ": " ++ cause.message
  | .parse refused => "failed to parse config " ++ refused.path ++ ": " ++ refused.fault

/-- The texts of what lies behind a failure, the nearest first. -/
def LoadError.sources : LoadError → List String
  | .read _ cause => [cause.message]
  | .parse refused => [refused.fault]

/-- The settings of a text. -/
def ofText? (cs : List Char) : Option Settings :=
  (Toml.parse? cs).bind ofDocument?

/-- The settings that the bytes of a file hold. -/
def ofBytes (path fault : String) (bytes : List UInt8) : Except LoadError Settings :=
  match Text.decodeStrict? bytes with
  | none => .error (.read path .invalidText)
  | some cs =>
    match ofText? cs with
    | none => .error (.parse ⟨path, fault⟩)
    | some settings => .ok settings

/-- The settings at a path of the working directory. -/
def load (dir : WorkingDirectory) (path : String) : Journaled (Except LoadError Settings) :=
  match dir.read path with
  | .error .notFound => do
    Journaled.log (.configMissing path)
    return .ok {}
  | .error cause => return .error (.read path cause)
  | .ok bytes => return ofBytes path dir.fault bytes

end TraceRelay.Settings
