import Manuscript.Config.Basic
import Manuscript.Press.Context

/-!
# Drivers

A driver holds the settings for the contexts that it makes from now on. They are always valid: ones
that are not are refused, and the driver keeps those it has.
-/

namespace Manuscript

/-- The settings for new contexts. -/
structure Driver where
  settings : Settings := {}
  deriving DecidableEq, Repr

namespace Driver

/-- Why settings cannot be used, if they cannot. -/
def settingsError (settings : Settings) : Option DocumentError :=
  if settings.isValid then none else some (.invalidSettings settings.dpi)

/-- The driver with other settings. -/
def configure (_ : Driver) (settings : Settings) : Except DocumentError Driver :=
  match settingsError settings with
  | some error => .error error
  | none => .ok { settings }

/-- A driver with the settings of a configuration. -/
def ofConfig (config : Config) : Except DocumentError Driver :=
  ({} : Driver).configure config.settings

/-- Make a context that writes into a directory, which is made if it is not there. -/
def createContext (driver : Driver) (directory : Path) (files : FileSystem) :
    Except DocumentError Context × FileSystem :=
  match files.makeDirectories directory with
  | (.error error, made) => (.error (.io error), made)
  | (.ok (), made) =>
    (.ok { directory, stem := Context.defaultStem, settings := driver.settings }, made)

/-- Make a context for the directory and the base name of a configuration. -/
def createContextFor (driver : Driver) (config : Config) (files : FileSystem) :
    Except DocumentError Context × FileSystem :=
  let (context, made) := driver.createContext config.directory files
  (context.map (·.withStem config.stem), made)

end Driver

end Manuscript
