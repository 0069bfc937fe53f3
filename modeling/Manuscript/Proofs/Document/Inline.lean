import Manuscript.Document.Call
import Mathlib.Logic.Basic

/-!
# Inline content

Running text with styles, formulas and invocations of macros is a tree (`Inline`), and the calls
that write it are read off the tree. What it comes to is read off the tree as well
(`Inline.yield`): a passage for the enclosing element, operands for an operator, arguments for an
invocation. `Inline.fill` puts arguments in place of placeholders.
-/

namespace Manuscript

/-! ### Trees -/

/-- An element with markup in front of and behind its content, which gathers nothing. -/
inductive Wrapping where
  | styled (style : InlineStyle)
  | math
  | name
  deriving DecidableEq, Repr

namespace Wrapping

/-- The element to be begun. -/
def element : Wrapping → Element
  | styled style => .styled style
  | math => .inlineMath
  | name => .mathName

/-- The state of the element while it is open. -/
def state : Wrapping → FrameState
  | styled style => .styled style
  | math | name => .plain

/-- The markup in front of the content. -/
def opening (backend : Backend) : Wrapping → String
  | styled style => backend.inlineStart style
  | math => backend.inlineMathStart
  | name => backend.mathNameStart

/-- The markup behind the content. -/
def closing (backend : Backend) : Wrapping → String
  | styled style => backend.inlineEnd style
  | math => backend.inlineMathEnd
  | name => backend.mathNameEnd

end Wrapping

/-- What an inline tree may stand for: inline content, the operands of an operator, or the arguments
of an invocation. -/
inductive Inline.Level where
  | content
  | operands
  | arguments
  deriving DecidableEq, Repr

/-- A tree of inline content. -/
inductive Inline : Inline.Level → Type where
  | nothing {level : Inline.Level} : Inline level
  | seq {level : Inline.Level} (first second : Inline level) : Inline level
  | text (text : String) : Inline .content
  | number (number : Int) : Inline .content
  | space : Inline .content
  | placeholder (index : Nat) : Inline .content
  | wrapped (wrapping : Wrapping) (inner : Inline .content) : Inline .content
  | formula (operator : Operator) (operands : Inline .operands) : Inline .content
  | invocation (signature : Macro.Signature) (arguments : Inline .arguments) : Inline .content
  | operand (inner : Inline .content) : Inline .operands
  | argument (index : Nat) (inner : Inline .content) : Inline .arguments

/-- The calls that begin an element, make calls inside it, and end it. -/
def Element.around (element : Element) (calls : List Call) : List Call :=
  .beginElement element :: (calls ++ [.endElement element.kind])

namespace Inline

/-- The calls that write the tree. -/
def calls : {level : Level} → Inline level → List Call
  | _, nothing => []
  | _, seq first second => first.calls ++ second.calls
  | _, .text content => [.write content]
  | _, .number value => [.writeNumber value]
  | _, space => [.writeSpace]
  | _, placeholder index => (Element.macroParameter index).around []
  | _, wrapped wrapping inner => wrapping.element.around inner.calls
  | _, formula operator operands => (Element.mathOp operator).around operands.calls
  | _, invocation signature arguments =>
    (Element.macroInvocation signature).around arguments.calls
  | _, operand inner => Element.mathOpParam.around inner.calls
  | _, argument index inner => (Element.macroParameter index).around inner.calls

/-- The parameters that have placeholders in the tree. -/
def placeholders : {level : Level} → Inline level → List Nat
  | _, placeholder index => [index]
  | _, seq first second => first.placeholders ++ second.placeholders
  | _, wrapped _ inner | _, operand inner | _, argument _ inner => inner.placeholders
  | _, formula _ operands => operands.placeholders
  | _, invocation _ arguments => arguments.placeholders
  | _, nothing | _, .text _ | _, .number _ | _, space => []

/-- The names of the macros that are invoked in the tree. -/
def names : {level : Level} → Inline level → List String
  | _, invocation signature arguments => signature.name :: arguments.names
  | _, seq first second => first.names ++ second.names
  | _, wrapped _ inner | _, operand inner | _, argument _ inner => inner.names
  | _, formula _ operands => operands.names
  | _, nothing | _, .text _ | _, .number _ | _, space | _, placeholder _ => []

/-- The argument for a parameter: the last one that is given. -/
def argument? (index : Nat) : {level : Level} → Inline level → Option (Inline .content)
  | _, seq first second => (second.argument? index).or (first.argument? index)
  | _, argument parameter inner => if parameter = index then some inner else none
  | _, nothing | _, .text _ | _, .number _ | _, space | _, placeholder _ | _, wrapped _ _
  | _, formula _ _ | _, invocation _ _ | _, operand _ => none

/-- The tree with arguments in place of placeholders, and nothing where the argument is missing. -/
def fill : {level : Level} → Inline level → (values : Inline .arguments) → Inline level
  | _, placeholder index, values => (values.argument? index).getD nothing
  | _, seq first second, values => seq (first.fill values) (second.fill values)
  | _, wrapped wrapping inner, values => wrapped wrapping (inner.fill values)
  | _, formula operator operands, values => formula operator (operands.fill values)
  | _, invocation signature arguments, values => invocation signature (arguments.fill values)
  | _, operand inner, values => operand (inner.fill values)
  | _, argument index inner, values => argument index (inner.fill values)
  | _, nothing, _ => nothing
  | _, .text content, _ => .text content
  | _, .number value, _ => .number value
  | _, space, _ => space

end Inline

/-! ### What a tree comes to -/

namespace Passage

theorem empty_append (passage : Passage) : {} ++ passage = passage := by
  obtain ⟨markup, text⟩ := passage
  exact congrArg₂ mk String.empty_append String.empty_append

theorem append_empty (passage : Passage) : passage ++ {} = passage := by
  obtain ⟨markup, text⟩ := passage
  exact congrArg₂ mk String.append_empty String.append_empty

theorem append_assoc (first second third : Passage) :
    first ++ second ++ third = first ++ (second ++ third) :=
  congrArg₂ mk (String.append_assoc ..) (String.append_assoc ..)

end Passage

/-- What is handed to the enclosing element: a passage to be appended, operands if it is an
operator, and arguments if it is an invocation. -/
structure Yield where
  passage : Passage := {}
  operands : List Passage := []
  arguments : List (Nat × Passage) := []

namespace Yield

/-- One behind the other. -/
def append (first second : Yield) : Yield :=
  ⟨first.passage ++ second.passage, first.operands ++ second.operands,
    first.arguments ++ second.arguments⟩

instance : Append Yield := ⟨append⟩

/-- Put the arguments in the slots of an invocation. -/
def assign (yield : Yield) (slots : List (Option Passage)) : List (Option Passage) :=
  yield.arguments.foldl (fun slots argument ↦ slots.set argument.1 (some argument.2)) slots

/-- What is there of a kind. -/
def Suits (yield : Yield) : Inline.Level → Prop
  | .content => yield.operands = [] ∧ yield.arguments = []
  | .operands => yield.passage = {} ∧ yield.arguments = []
  | .arguments => yield.passage = {} ∧ yield.operands = []

variable {first second : Yield} {slots : List (Option Passage)}

theorem Suits.append {level : Inline.Level} (h : first.Suits level) (h' : second.Suits level) :
    (first ++ second).Suits level := by
  obtain ⟨passage, operands, arguments⟩ := first
  obtain ⟨passage', operands', arguments'⟩ := second
  cases level <;> obtain ⟨rfl, rfl⟩ := h <;> obtain ⟨rfl, rfl⟩ := h' <;> exact ⟨rfl, rfl⟩

theorem Suits.eq_passage {yield : Yield} (h : yield.Suits .content) :
    yield = { passage := yield.passage } := by
  obtain ⟨passage, operands, arguments⟩ := yield
  obtain ⟨rfl, rfl⟩ := h
  rfl

theorem assign_append :
    (first ++ second).assign slots = second.assign (first.assign slots) := List.foldl_append

@[simp] theorem length_assign (yield : Yield) :
    (yield.assign slots).length = slots.length := by
  unfold assign
  induction yield.arguments generalizing slots with
  | nil => rfl
  | cons argument arguments ih => rw [List.foldl_cons, ih, List.length_set]

end Yield

/-- What an invocation of a macro appends: its body with the arguments, or nothing if there is no
macro of the name. -/
def Macro.Library.invoke (library : Library) (name : String) (arguments : List (Option Passage)) :
    Passage :=
  match library.find? name with
  | some definition =>
    ⟨definition.markup.expand (arguments.map (·.map Passage.markup)),
      definition.text.expand (arguments.map (·.map Passage.text))⟩
  | none => {}

/-- The marker of a parameter in both channels. -/
def Marker.passage (index : Nat) : Passage :=
  match char? index with
  | some marker => ⟨String.singleton marker, String.singleton marker⟩
  | none => {}

namespace Inline

/-- What the tree comes to with the macros of a library. -/
def yield (backend : Backend) (library : Macro.Library) : {level : Level} → Inline level → Yield
  | _, nothing => {}
  | _, seq first second => first.yield backend library ++ second.yield backend library
  | _, .text content => { passage := ⟨backend.escape content, Marker.hide content⟩ }
  | _, .number value =>
    { passage :=
      ⟨backend.escape (Session.numberText value), Marker.hide (Session.numberText value)⟩ }
  | _, space => { passage := ⟨backend.noBreakSpace, Span.noBreakSpace⟩ }
  | _, placeholder index => { passage := Marker.passage index }
  | _, wrapped wrapping inner =>
    { passage := ⟨wrapping.opening backend, ""⟩ ++ (inner.yield backend library).passage ++
        ⟨wrapping.closing backend, ""⟩ }
  | _, formula operator operands =>
    let operands := (operands.yield backend library).operands
    { passage := ⟨backend.mathOperator operator (operands.map Passage.markup),
        operator.plainText (operands.map Passage.text)⟩ }
  | _, invocation signature arguments =>
    { passage := library.invoke signature.name
        ((arguments.yield backend library).assign (List.replicate signature.arity none)) }
  | _, operand inner => { operands := [(inner.yield backend library).passage] }
  | _, argument index inner => { arguments := [(index, (inner.yield backend library).passage)] }

variable (backend : Backend) {library library' : Macro.Library} {level : Level}

theorem suits_yield (tree : Inline level) : (tree.yield backend library).Suits level := by
  induction tree with
  | nothing => cases ‹Level› <;> exact ⟨rfl, rfl⟩
  | seq first second ih ih' => exact ih.append ih'
  | _ => exact ⟨rfl, rfl⟩

/-- What a tree comes to depends on the macros that are invoked in it, and on no others. -/
theorem yield_congr (tree : Inline level)
    (h : ∀ name ∈ tree.names, library.find? name = library'.find? name) :
    tree.yield backend library = tree.yield backend library' := by
  induction tree with
  | seq first second ih ih' =>
    have parts := List.forall_mem_append.mp h
    rw [yield, ih parts.1, ih' parts.2, ← yield]
  | wrapped wrapping inner ih => rw [yield, ih h, ← yield]
  | formula operator operands ih => rw [yield, ih h, ← yield]
  | invocation signature arguments ih =>
    have parts := List.forall_mem_cons.mp h
    rw [yield, ih parts.2, Macro.Library.invoke, parts.1, ← Macro.Library.invoke, ← yield]
  | operand inner ih => rw [yield, ih h, ← yield]
  | argument index inner ih => rw [yield, ih h, ← yield]
  | _ => rfl

/-- What is in a slot in the end: the argument that was given last, or what was there. -/
theorem join_getElem?_assign_yield (tree : Inline level) {slots : List (Option Passage)}
    {index : Nat} (h : index < slots.length) :
    ((tree.yield backend library).assign slots)[index]?.join =
      ((tree.argument? index).map fun inner ↦ (inner.yield backend library).passage).or
        slots[index]?.join := by
  induction tree generalizing slots with
  | seq first second ih ih' =>
    rw [yield, Yield.assign_append, ih' (by rwa [Yield.length_assign]), ih h, argument?,
      Option.map_or, Option.or_assoc]
  | argument parameter inner =>
    change (slots.set parameter (some (inner.yield backend library).passage))[index]?.join = _
    rw [argument?, List.getElem?_set]
    split
    · next he =>
      rw [if_pos (he ▸ h)]
      rfl
    · rfl
  | _ => rfl

end Inline

end Manuscript
