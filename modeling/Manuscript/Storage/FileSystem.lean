import Manuscript.Drawing.Picture
import Manuscript.Storage.Path

/-!
# File systems

A file system is a value: what lies at each location, and the working directory from which relative
paths start. Operations give back the changed file system or the reason why they failed.
-/

namespace Manuscript

/-- Why an operation on files failed. -/
inductive IoError where
  | alreadyExists
  | notFound
  | isADirectory
  | notADirectory
  | invalidData
  | invalidInput
  | invalidFilename
  deriving DecidableEq, Repr

namespace IoError

/-- The name of the reason. -/
def name : IoError → String
  | alreadyExists => "AlreadyExists"
  | notFound => "NotFound"
  | isADirectory => "IsADirectory"
  | notADirectory => "NotADirectory"
  | invalidData => "InvalidData"
  | invalidInput => "InvalidInput"
  | invalidFilename => "InvalidFilename"

end IoError

/-- The names on the way from the root. -/
abbrev Location := List String

/-- What lies at a location. -/
inductive Node where
  | directory
  | text (content : String)
  | picture (picture : Picture)
  deriving DecidableEq, Repr

/-- What lies where, and the working directory. The root is always a directory. -/
structure FileSystem where
  entries : List (Location × Node) := []
  current : Location := []
  deriving DecidableEq, Repr

namespace FileSystem

/-- What lies at a location, if anything does. -/
def node? (files : FileSystem) (place : Location) : Option Node :=
  if place = [] then some .directory
  else (files.entries.find? (·.1 = place)).map Prod.snd

/-- Put something at a location, in place of what was there. -/
def put (files : FileSystem) (place : Location) (node : Node) : FileSystem :=
  { files with entries := (place, node) :: files.entries.filter (·.1 ≠ place) }

/-- The location one step away. -/
def move (place : Location) (step : String) : Location :=
  if Path.isIdle step then place
  else if step = ".." then place.dropLast
  else place ++ [step]

/-- How many bytes a name may have. -/
def maxNameLength : Nat := 255

/-- How many bytes a path may have. -/
def maxPathLength : Nat := 4095

/-- Follow steps; each must start from a directory. -/
def follow (files : FileSystem) (place : Location) : List String → Except IoError Location
  | [] => .ok place
  | step :: rest =>
    match files.node? place with
    | some .directory =>
      if maxNameLength < step.utf8ByteSize then .error .invalidFilename
      else files.follow (move place step) rest
    | some _ => .error .notADirectory
    | none => .error .notFound

/-- Where the steps of a path start. -/
def origin (files : FileSystem) (path : Path) : Location :=
  if path.isAbsolute then [] else files.current

/-- The location that a path with certain steps names. Something need not lie there yet. -/
def locateBy (steps : List String) (files : FileSystem) (path : Path) : Except IoError Location :=
  if path.text.toList.contains '\x00' then .error .invalidInput
  else if maxPathLength < path.text.utf8ByteSize then .error .invalidFilename
  else if path.text = "" then .error .notFound
  else files.follow (files.origin path) steps

/-- The location that a path names. -/
def locate (files : FileSystem) (path : Path) : Except IoError Location :=
  locateBy path.steps files path

/-- What a path names. -/
def look (files : FileSystem) (path : Path) : Except IoError Node := do
  let place ← files.locate path
  match files.node? place with
  | some node => return node
  | none => throw .notFound

/-- Whether a path names something. -/
def has (files : FileSystem) (path : Path) : Bool := (files.look path).isOk

/-- The text of a file. -/
def read (files : FileSystem) (path : Path) : Except IoError String := do
  match ← files.look path with
  | .directory => throw .isADirectory
  | .text content => return content
  | .picture _ => throw .invalidData

/-- Make a file that is not there yet; gives its location as well. -/
def create (files : FileSystem) (path : Path) (node : Node) :
    Except IoError (Location × FileSystem) := do
  let place ← files.locate path
  match files.node? place with
  | some _ => throw .alreadyExists
  | none => return (place, files.put place node)

/-- Make a text file, or replace what a file holds. -/
def write (files : FileSystem) (path : Path) (content : String) : Except IoError FileSystem := do
  let place ← files.locate path
  match files.node? place with
  | some .directory => throw .isADirectory
  | _ => return files.put place (.text content)

/-- Whether a path names a directory. -/
def isDirectory (files : FileSystem) (path : Path) : Bool :=
  match files.look path with
  | .ok .directory => true
  | _ => false

/-- Make one directory, in one that is there. Slashes at the end of the path do not count. -/
def makeDirectory (files : FileSystem) (path : Path) : Except IoError FileSystem := do
  let steps := (path.steps.reverse.dropWhile (· = "")).reverse
  let place ← locateBy steps files path
  match files.node? place with
  | some _ => throw .alreadyExists
  | none => return files.put place .directory

/-- Make a directory unless it is there. -/
def ensureDirectory (files : FileSystem) (path : Path) : Except IoError FileSystem :=
  match files.makeDirectory path with
  | .ok made => .ok made
  | .error error => if files.isDirectory path then .ok files else .error error

/-- Make the directory that a path names, and before it those that its parents name as far as they
are not there. Directories that were made stay when a later one cannot be made. -/
def makeWay (files : FileSystem) : (fuel : Nat) → Path → Except IoError Unit × FileSystem
  | 0, _ => (.ok (), files)
  | fuel + 1, path =>
    match files.ensureDirectory path, path.parent? with
    | .ok made, _ => (.ok (), made)
    | .error .notFound, some parent =>
      match files.makeWay fuel parent with
      | (.ok (), made) =>
        match made.ensureDirectory path with
        | .ok final => (.ok (), final)
        | .error error => (.error error, made)
      | failed => failed
    | .error error, _ => (.error error, files)

/-- Make the directory that a path names and all directories on the way. Every parent has a shorter
path, and the empty path needs nothing. -/
def makeDirectories (files : FileSystem) (path : Path) : Except IoError Unit × FileSystem :=
  files.makeWay path.text.length path

/-- The files below a location with the paths that lead to them from there, in the order of the
paths. -/
def filesBelow (files : FileSystem) (place : Location) : List (String × Node) :=
  (files.entries.filterMap fun (there, node) ↦
    if node ≠ .directory ∧ place.isPrefixOf there then
      some ("/".intercalate (there.drop place.length), node)
    else none).mergeSort (·.1 ≤ ·.1)

end FileSystem

end Manuscript
