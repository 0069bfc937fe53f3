import Manuscript.Document.Error
import Manuscript.Macro.Marker

/-!
# Macros

A macro has a signature and a body. The body is kept as a template of literal runs and slots;
expanding a template puts an argument into every slot and nothing where the argument is missing.
-/

namespace Manuscript

namespace Macro

/-- The name of a macro and the number of its parameters. -/
structure Signature where
  name : String
  arity : Nat
  arity_le : arity ≤ Limit.maxArity
  deriving DecidableEq, Repr

namespace Signature

/-- The signature, if the macro does not have too many parameters. -/
def make (name : String) (arity : Nat) : Except DocumentError Signature :=
  if h : arity ≤ Limit.maxArity then .ok ⟨name, arity, h⟩
  else .error (.limitExceeded (.arity name arity))

end Signature

/-- A piece of a macro body. -/
inductive Part where
  | literal (text : List Char)
  | slot (index : Nat)
  deriving DecidableEq, Repr

namespace Part

/-- The parts of a body: a slot for every marker, and a literal for every longest run between. -/
def ofChars : List Char → List Part
  | [] => []
  | c :: rest =>
    match Marker.index? c with
    | some index => slot index :: ofChars rest
    | none =>
      match ofChars rest with
      | literal text :: parts => literal (c :: text) :: parts
      | parts => literal [c] :: parts

/-- The part with the argument in the slot, nothing if it is missing. -/
def expand (arguments : List (Option String)) : Part → List Char
  | literal text => text
  | slot index => ((arguments[index]?.join).getD "").toList

end Part

/-- A macro body in one channel. -/
structure Template where
  parts : List Part := []
  deriving DecidableEq, Repr

namespace Template

/-- The template of a body. -/
def parse (body : String) : Template := ⟨Part.ofChars body.toList⟩

/-- The body with the arguments in the slots. -/
def expand (template : Template) (arguments : List (Option String)) : String :=
  String.ofList (template.parts.flatMap (Part.expand arguments))

end Template

/-- The body of a macro as markup and as plain text. -/
structure Definition where
  markup : Template
  text : Template
  deriving DecidableEq, Repr

/-- The macros of a document by name, the latest definition first. -/
structure Library where
  definitions : List (String × Definition) := []
  deriving DecidableEq, Repr

namespace Library

/-- Define a macro, in place of an earlier one of the same name. -/
def define (library : Library) (name : String) (definition : Definition) : Library :=
  ⟨(name, definition) :: library.definitions.filter (·.1 ≠ name)⟩

/-- The macro of a name. -/
def find? (library : Library) (name : String) : Option Definition :=
  (library.definitions.find? (·.1 = name)).map Prod.snd

end Library

end Macro

end Manuscript
