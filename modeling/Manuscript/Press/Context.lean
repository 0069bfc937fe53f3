import Manuscript.Document.Close

/-!
# Contexts

A context is one run of a driver: a directory, the base name of the files, and the settings at the
time when it was made. It makes one document.
-/

namespace Manuscript

/-- A directory that holds one document. -/
structure Context where
  directory : Path
  stem : String
  settings : Settings
  created : Bool := false
  deriving DecidableEq, Repr

namespace Context

/-- The base name of a document that was given no other. -/
def defaultStem : String := "index"

/-- The context with another base name. -/
def withStem (context : Context) (stem : String) : Context := { context with stem }

/-- The path of the output file. -/
def documentPath (context : Context) (backend : Backend) : Path :=
  context.directory.join (context.stem ++ "." ++ backend.extension)

/-- The document that writes into the file at `path`, which lies at `place`. -/
def document (context : Context) (path : Path) (place : Location) (serial : Nat) : Document where
  settings := context.settings
  directory := context.directory
  stem := context.stem
  path
  place
  labels := { owner := serial }

/-- Make the output file and the document that writes into it. Labels of documents with different
serials do not mix. A file that cannot be made leaves the context as it was. -/
def createDocument (context : Context) (backend : Backend) (serial : Nat) (files : FileSystem) :
    Except DocumentError (Session × Context) :=
  if context.created then .error .alreadyCreated
  else
    let path := context.documentPath backend
    match files.create path (.text "") with
    | .error error => .error (.io error)
    | .ok (place, made) =>
      .ok (⟨context.document path place serial, made⟩, { context with created := true })

/-- Copy the style sheets of a backend into the directory. -/
def install (context : Context) (backend : Backend) (files : FileSystem) :
    Except DocumentError (List Path) × FileSystem :=
  match installResources context.directory backend.resources files with
  | (.error error, failed) => (.error (.io error), failed)
  | (.ok paths, final) => (.ok paths, final)

end Context

end Manuscript
