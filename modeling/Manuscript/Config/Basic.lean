import Manuscript.Press.Settings
import Manuscript.Storage.FileSystem

/-!
# Configurations

What a configuration file sets, the faults that it can have, and the values that callers put over
those of the file.
-/

namespace Manuscript

/-- Why a configuration cannot be loaded. -/
inductive ConfigError where
  | notFound (path : Path)
  | io (error : IoError)
  | parse
  /-- The resolution of figures is out of range. -/
  | dpi (dpi : Nat)
  | emptyStem
  | stemWithDirectory
  /-- A setting names an environment variable that is not set. -/
  | unsetVariable (field name : String)
  deriving DecidableEq, Repr

namespace ConfigError

/-- The name of the setting for the resolution. -/
def dpiField : String := "images.dpi"

/-- The name of the setting for the directory. -/
def directoryField : String := "output.directory"

/-- The name of the setting for the base name. -/
def stemField : String := "output.file_stem"

/-- The wording of an error. -/
def message : ConfigError → String
  | notFound path => "Configuration file not found: " ++ path.text
  | io error => error.name
  | parse => "TOML parse error"
  | dpi found => "Configuration error: " ++ dpiField ++ " " ++ Settings.dpiMessage found
  | emptyStem => "Configuration error: " ++ stemField ++ " cannot be empty"
  | stemWithDirectory =>
    "Configuration error: " ++ stemField ++ " must be a file name without directories"
  | unsetVariable field name =>
    "Environment variable error in " ++ field ++ ": $\x7b" ++ name ++ "\x7d not set"

end ConfigError

/-- A loaded configuration. -/
structure Config where
  dpi : Nat := 96
  format : ImageFormat := .png
  model : ColorModel := .rgb
  directory : Path
  stem : String := "index"
  humanReadable : Bool := true
  /-- The file that the values come from. -/
  source : Option Path := none
  deriving DecidableEq, Repr

/-- Values that take the place of those in the file. -/
structure Overrides where
  dpi : Option Nat := none
  format : Option ImageFormat := none
  model : Option ColorModel := none
  directory : Option Path := none
  stem : Option String := none
  humanReadable : Option Bool := none
  deriving DecidableEq, Repr

namespace Config

/-- The directory that is written into unless another is named. -/
def defaultDirectory : String := "out"

/-- The configuration without a file, seen from a directory. -/
def byDefault (base : Path) : Config := { directory := base.join defaultDirectory }

/-- Whether a base name has no directory in it and is none. -/
def isBareName (stem : String) : Bool :=
  !stem.toList.any (fun c ↦ c == '/' || c == '\\') && stem != "." && stem != ".."

/-- Check the resolution, then the base name. -/
def validate (config : Config) : Except ConfigError Config :=
  if !Settings.dpiInRange config.dpi then .error (.dpi config.dpi)
  else if config.stem = "" then .error .emptyStem
  else if !isBareName config.stem then .error .stemWithDirectory
  else .ok config

/-- Put values over those of the configuration. -/
def override (config : Config) (values : Overrides) : Config :=
  { config with
    dpi := values.dpi.getD config.dpi
    format := values.format.getD config.format
    model := values.model.getD config.model
    directory := values.directory.getD config.directory
    stem := values.stem.getD config.stem
    humanReadable := values.humanReadable.getD config.humanReadable }

/-- The settings of documents under the configuration. -/
def settings (config : Config) : Settings :=
  { dpi := config.dpi
    format := config.format
    model := config.model
    humanReadable := config.humanReadable }

end Config

end Manuscript
