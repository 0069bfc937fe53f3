import Manuscript.Document.Call
import Manuscript.Press.Driver

/-!
# Presses

A press is a driver with the contexts and documents that it made and the files that they write.
Whatever is asked of it is a list of orders. Each order is answered and gives the next press, also
when it is refused. A context is known by its position, a document by its serial.
-/

namespace Manuscript

/-- A driver at work. -/
structure Press where
  driver : Driver := {}
  contexts : List Context := []
  /-- The documents that are open. -/
  documents : List Document := []
  /-- The number of documents made so far, which is the serial of the next one. -/
  made : Nat := 0
  files : FileSystem := {}
  deriving DecidableEq, Repr

/-- What a press is asked for. -/
inductive Order where
  | configure (settings : Settings)
  /-- Put a driver with the default settings in place of the driver. -/
  | reset
  /-- Put a driver with the settings of a configuration in place of the driver. -/
  | resetTo (config : Config)
  | openContext (directory : Path)
  | openContextFor (config : Config)
  | rename (context : Nat) (stem : String)
  | createDocument (context : Nat)
  | install (context : Nat)
  | call (document : Nat) (call : Call)
  | close (document : Nat)
  /-- Give a document up; what has been streamed stays. -/
  | drop (document : Nat)

/-- The answer to an order that was accepted. -/
inductive Product where
  | done
  | context (context : Context)
  | document (serial : Nat) (path : Path)
  | resources (paths : List Path)
  | reply (reply : Reply)
  | summary (summary : Summary)
  /-- There is no such context or open document. -/
  | missing
  deriving DecidableEq, Repr

namespace Press

/-- The open document with a serial. -/
def document? (press : Press) (serial : Nat) : Option Document :=
  press.documents.find? (·.serial = serial)

/-- Take another driver if there is one. -/
def takeDriver (press : Press) (driver : Except DocumentError Driver) :
    Except DocumentError Product × Press :=
  match driver with
  | .ok driver => (.ok .done, { press with driver })
  | .error error => (.error error, press)

/-- Add a context if there is one, and take the files that are left either way. -/
def addContext (press : Press) (made : Except DocumentError Context × FileSystem) :
    Except DocumentError Product × Press :=
  match made with
  | (.ok context, files) =>
    (.ok (.context context), { press with contexts := press.contexts ++ [context], files })
  | (.error error, files) => (.error error, { press with files })

/-- Do something with a context. -/
def withContext (press : Press) (context : Nat)
    (act : Context → Except DocumentError Product × Press) :
    Except DocumentError Product × Press :=
  match press.contexts[context]? with
  | some found => act found
  | none => (.ok .missing, press)

/-- Do something with a document and the files. -/
def withDocument (press : Press) (document : Nat)
    (act : Session → Except DocumentError Product × Press) :
    Except DocumentError Product × Press :=
  match press.document? document with
  | some found => act ⟨found, press.files⟩
  | none => (.ok .missing, press)

/-- The press after a change of an open document. -/
def keep (press : Press) (session : Session) : Press :=
  { press with
    documents := press.documents.map fun document ↦
      if document.serial = session.document.serial then session.document else document
    files := session.files }

/-- The press without a document, and with the files that it leaves. -/
def release (press : Press) (document : Nat) (files : FileSystem) : Press :=
  { press with documents := press.documents.filter (·.serial ≠ document), files }

/-- Answer an order. -/
def perform (backend : Backend) (order : Order) (press : Press) :
    Except DocumentError Product × Press :=
  match order with
  | .configure settings => press.takeDriver (press.driver.configure settings)
  | .reset => press.takeDriver (.ok {})
  | .resetTo config => press.takeDriver (Driver.ofConfig config)
  | .openContext directory => press.addContext (press.driver.createContext directory press.files)
  | .openContextFor config => press.addContext (press.driver.createContextFor config press.files)
  | .rename position stem =>
    press.withContext position fun context ↦
      (.ok (.context (context.withStem stem)),
        { press with contexts := press.contexts.set position (context.withStem stem) })
  | .createDocument position =>
    press.withContext position fun context ↦
      match context.createDocument backend press.made press.files with
      | .error error => (.error error, press)
      | .ok (session, used) =>
        (.ok (.document press.made session.document.path),
          { press with
            contexts := press.contexts.set position used
            documents := press.documents ++ [session.document]
            made := press.made + 1
            files := session.files })
  | .install position =>
    press.withContext position fun context ↦
      match context.install backend press.files with
      | (.error error, files) => (.error error, { press with files })
      | (.ok paths, files) => (.ok (.resources paths), { press with files })
  | .call serial call =>
    press.withDocument serial fun session ↦
      match session.perform backend call with
      | (.error error, next) => (.error error, press.keep next)
      | (.ok reply, next) => (.ok (.reply reply), press.keep next)
  | .close serial =>
    press.withDocument serial fun session ↦
      match session.close backend with
      | (.error error, files) => (.error error, press.release serial files)
      | (.ok summary, files) => (.ok (.summary summary), press.release serial files)
  | .drop serial =>
    press.withDocument serial fun session ↦ (.ok .done, press.release serial session.settle)

/-- The press after a list of orders. -/
def run (backend : Backend) (orders : List Order) (press : Press) : Press :=
  orders.foldl (fun press order ↦ (press.perform backend order).2) press

end Press

end Manuscript
