import Manuscript.Config.Expansion
import Manuscript.Config.File

/-!
# Loading configurations

A configuration comes from the file that is named, or from the nearest one in the working directory
and the directories above it, or from the defaults. Its directory is seen from where the file lies.
-/

namespace Manuscript

namespace Config

/-- Replace the variables in a setting, if it is there. -/
def expandSetting (environment : Environment) (field : String) (setting : Option String) :
    Except ConfigError (Option String) :=
  match setting with
  | none => .ok none
  | some text =>
    match Expansion.expand environment text with
    | .ok expanded => .ok (some expanded)
    | .error name => .error (.unsetVariable field name)

/-- The configuration that a file sets, seen from a directory, once its variables are replaced. -/
def resolve (file : ConfigFile) (base : Path) (directory stem : Option String) : Config :=
  let default := byDefault base
  { dpi := file.dpi.getD default.dpi
    format := file.format.getD default.format
    model := file.model.getD default.model
    directory := base.join (directory.getD defaultDirectory)
    stem := stem.getD default.stem
    humanReadable := file.humanReadable.getD default.humanReadable }

/-- The configuration in a text, seen from a directory. -/
def ofText (environment : Environment) (text : String) (base : Path) :
    Except ConfigError Config := do
  let file ← ConfigFile.parse text
  let directory ← expandSetting environment ConfigError.directoryField file.directory
  let stem ← expandSetting environment ConfigError.stemField file.stem
  (resolve file base directory stem).validate

/-- The configuration in a file. -/
def ofPath (files : FileSystem) (environment : Environment) (path : Path) :
    Except ConfigError Config :=
  match files.read path with
  | .error error => .error (.io error)
  | .ok text =>
    (ofText environment text (path.parent?.getD ⟨"."⟩)).map ({ · with source := some path })

/-- The name of the file that is looked for. -/
def fileName : String := "quill.toml"

/-- The directories from a location up to the root, the location first. -/
def upward (place : Location) : List Location :=
  (List.range (place.length + 1)).reverse.map place.take

/-- The path of a location, from the root. -/
def absolutePath (place : Location) : Path := ⟨"/" ++ "/".intercalate place⟩

/-- The path of the nearest configuration file in the working directory and above it. -/
def discover (files : FileSystem) : Option Path :=
  ((upward files.current).map fun place ↦ (absolutePath place).join fileName).find? files.has

/-- The configuration without overrides. -/
def loadFile (files : FileSystem) (environment : Environment) (path : Option Path) :
    Except ConfigError Config :=
  match path with
  | some path =>
    if files.has path then ofPath files environment path else .error (.notFound path)
  | none =>
    match discover files with
    | some path => ofPath files environment path
    | none => .ok (byDefault (absolutePath files.current))

/-- The configuration with overrides, which are checked like the values of a file. -/
def load (files : FileSystem) (environment : Environment) (path : Option Path)
    (overrides : Option Overrides) : Except ConfigError Config := do
  let config ← loadFile files environment path
  match overrides with
  | none => return config
  | some values => (config.override values).validate

end Config

end Manuscript
