import PagePreview.Config.Format
import PagePreview.Config.Validation
import PagePreview.Disk.Basic
import PagePreview.Toml.Parser

/-!
# Configuration files

A configuration file is a TOML document. It has to be readable, its settings have to be of the right
kinds, and the configuration must have no fault.
-/

namespace PagePreview

/-- Why there is no configuration. -/
inductive ConfigError where
  /-- The file cannot be read. -/
  | io (e : DiskError)
  /-- The document is not well formed, or a setting is of the wrong kind. -/
  | parse
  /-- The configuration has faults. -/
  | validation (faults : List ConfigFault)
  deriving DecidableEq, Repr

/-- The wording of an error. -/
def ConfigError.message : ConfigError → String
  | .io e => "IO error: " ++ e.message
  | .parse => "Parse error"
  | .validation faults =>
    "Validation failed: " ++ String.intercalate ", " (faults.map ConfigFault.message)

namespace Config

/-- The configuration in a text. -/
def parse (text : String) : Except ConfigError Config :=
  match (Toml.parse? text).bind fun members => ConfigFormat.toml.config? (.table members) with
  | none => .error .parse
  | some c => if c.faults.isEmpty then .ok c else .error (.validation c.faults)

/-- The configuration in a file. -/
def load (disk : Disk) (path : String) : Except ConfigError Config :=
  match disk.readText path with
  | .error e => .error (.io e)
  | .ok text => parse text

end Config

end PagePreview
