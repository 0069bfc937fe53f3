import Manuscript.CrossRef.Registry
import Manuscript.Decimal.Shortest
import Manuscript.Formula.Operator
import Manuscript.Press.Settings
import Manuscript.Storage.FileSystem

/-!
# Errors

Why a call on a document, a context or a driver was refused. `DocumentError.message` holds every
wording.
-/

namespace Manuscript

/-- A bound that a call would exceed. -/
inductive Limit where
  /-- A length that is negative or not finite, in millimetres. -/
  | length (millimetres : Float)
  /-- A side that has too many pixels at the resolution. -/
  | side (millimetres : Float) (dpi : Nat)
  /-- A figure series without columns. -/
  | columns
  /-- More sub-figures in a series than there are letters. -/
  | subFigures
  /-- Sections inside sections inside sections. -/
  | sectionDepth
  /-- A parameter that the macro does not have. -/
  | parameter (index : Nat) (name : String) (arity : Nat)
  /-- A macro with too many parameters. -/
  | arity (name : String) (arity : Nat)

namespace Limit

/-- The largest number of pixels along a side of a figure. -/
def maxSide : Nat := 20000

/-- The largest number of sub-figures of a series, one per letter. -/
def maxSubFigures : Nat := 26

/-- The deepest nesting of sections. -/
def maxSectionDepth : Nat := 5

/-- The largest number of parameters of a macro. -/
def maxArity : Nat := 9

/-- What was exceeded. -/
def message : Limit → String
  | length mm => "figure size " ++ Decimal.text mm ++ " mm is not a non-negative length"
  | side mm dpi =>
    "figure side of " ++ Decimal.text mm ++ " mm exceeds " ++ toString maxSide ++
      " pixels at " ++ toString dpi ++ " DPI"
  | columns => "a figure series needs at least one column"
  | subFigures => "a figure series holds at most " ++ toString maxSubFigures ++ " sub-figures"
  | sectionDepth => "sections nest at most " ++ toString maxSectionDepth ++ " levels deep"
  | parameter index name count =>
    "parameter " ++ toString index ++ " of macro " ++ name ++ " exceeds its arity " ++
      toString count
  | arity name count =>
    "macro " ++ name ++ " declares " ++ toString count ++ " parameters, at most " ++
      toString maxArity ++ " are allowed"

end Limit

/-- A call that comes at the wrong time. -/
inductive LifecycleFault where
  | headerRepeated
  | bodyBeforeHeader
  | bodyRepeated
  | stillOpen (count : Nat) (innermost : Kind)
  | bodyMissing
  | noCanvas
  | rootReleased
  | capturesOpen (count : Nat)
  deriving DecidableEq, Repr

namespace LifecycleFault

/-- Why the time is wrong. -/
def message : LifecycleFault → String
  | headerRepeated => "the document header was already written"
  | bodyBeforeHeader => "the body requires a completed header"
  | bodyRepeated => "the document already has a body"
  | stillOpen count innermost =>
    toString count ++ " elements still open, innermost is " ++ innermost.name
  | bodyMissing => "the document body was not completed"
  | noCanvas => "a canvas is only available inside a figure body"
  | rootReleased => "cannot pop the root output buffer"
  | capturesOpen count => toString count ++ " capture buffers still open"

end LifecycleFault

/-- Why a label was refused. -/
def LabelFault.message (label : Label) (fault : LabelFault) : String :=
  match fault with
  | .misfit kind => "label " ++ label.key ++ " cannot be attached to " ++ kind.name
  | .foreign => "label " ++ label.key ++ " belongs to another document"
  | .unknown => "unknown label " ++ label.key
  | .attached => "label " ++ label.key ++ " is already attached"

/-- Why a call was refused. -/
inductive DocumentError where
  | io (error : IoError)
  | illegalNesting (element : Kind) (parent : Option Kind)
  | textNotAllowed (parent : Option Kind)
  | unbalancedEnd (expected : Option Kind) (found : Kind)
  | limitExceeded (limit : Limit)
  | label (label : Label) (fault : LabelFault)
  | lifecycle (fault : LifecycleFault)
  | alreadyCreated
  | invalidSettings (dpi : Nat)
  | operandCount (operator : Operator) (found : Nat)

namespace DocumentError

/-- What messages call the place outside all elements. -/
def rootName : String := "the document root"

/-- The number that stands for no upper bound in messages. -/
def unboundedCount : Nat := Nat.pow 2 64 - 1

/-- The wording of an error. -/
def message : DocumentError → String
  | io error => error.name
  | illegalNesting element parent =>
    element.name ++ " is not allowed inside " ++ Kind.nameOr rootName parent
  | textNotAllowed parent => "text is not allowed inside " ++ Kind.nameOr rootName parent
  | unbalancedEnd expected found =>
    "cannot end " ++ found.name ++ ": innermost open element is " ++
      Kind.nameOr "nothing" expected
  | limitExceeded limit => "Limit exceeded: " ++ limit.message
  | label handle fault => "Label error: " ++ fault.message handle
  | lifecycle fault => "Lifecycle error: " ++ fault.message
  | alreadyCreated => "a document was already created for this context"
  | invalidSettings dpi => "Invalid settings: image DPI " ++ Settings.dpiMessage dpi
  | operandCount operator found =>
    operator.name ++ " takes " ++ toString operator.arity.fewest ++ "..=" ++
      toString (operator.arity.most.getD unboundedCount) ++ " operands, got " ++ toString found

end DocumentError

end Manuscript
