import Manuscript.Document.State
import Manuscript.Storage.Stylesheet

/-!
# Closing documents

A document can be closed when its body has been ended and nothing is open. Closing writes the rest
of the output and installs the style sheets of the backend. A document that is dropped instead
leaves what has been streamed.
-/

namespace Manuscript

/-- Copy style sheets into a directory, one after the other until one fails; gives their paths. -/
def installResources (directory : Path) (resources : List Resource) (files : FileSystem) :
    Except IoError (List Path) × FileSystem :=
  match resources with
  | [] => (.ok [], files)
  | resource :: others =>
    match Stylesheet.text? resource.name with
    | none => (.error .notFound, files)
    | some content =>
      let path := directory.join resource.name
      match files.write path content with
      | .error error => (.error error, files)
      | .ok written =>
        match installResources directory others written with
        | (.error error, failed) => (.error error, failed)
        | (.ok paths, final) => (.ok (path :: paths), final)

/-- What a closed document has produced. -/
structure Summary where
  path : Path
  images : List Path
  resources : List Path
  sections : Nat
  figures : Nat
  tables : Nat
  equations : Nat
  citations : Nat
  deriving DecidableEq, Repr

namespace Document

/-- Why the document cannot be closed, if it cannot. -/
def closeFault (d : Document) : Option LifecycleFault :=
  match d.innermost with
  | some kind => some (.stillOpen d.frames.length kind)
  | none =>
    if d.phase ≠ .done then some .bodyMissing
    else if d.output.captures.isEmpty then none
    else some (.capturesOpen d.output.captures.length)

/-- What the document has produced, with the style sheets beside it. -/
def summary (d : Document) (resources : List Path) : Summary :=
  { path := d.path
    images := d.images
    resources
    sections := d.sections
    figures := d.figures
    tables := d.tables
    equations := d.equations
    citations := d.bibliography.works.length }

end Document

namespace Session

/-- Close the document; gives its summary and what lies in the file system afterwards. -/
def close (backend : Backend) (s : Session) : Except DocumentError Summary × FileSystem :=
  match s.document.closeFault with
  | some fault => (.error (.lifecycle fault), s.settle)
  | none =>
    let drained := s.modifyDocument fun d ↦ { d with output := d.output.drain }
    match installResources s.document.directory backend.resources drained.settle with
    | (.error error, files) => (.error (.io error), files)
    | (.ok resources, files) => (.ok (s.document.summary resources), files)

end Session

end Manuscript
