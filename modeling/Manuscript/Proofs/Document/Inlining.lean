import Manuscript.Proofs.Document.Acceptance
import Manuscript.Proofs.Document.Nesting

/-!
# Writing inline content

The calls of an inline tree hand to the enclosing element what the tree comes to, and do nothing
else, if only they are accepted (`Inline.brings`). So whether they are accepted, and what they
append, does not depend on what has been written before.
-/

namespace Manuscript

/-! ### What an element is handed -/

/-- The state with operands or arguments that ended inside the element. -/
def FrameState.receive (yield : Yield) : FrameState → FrameState
  | mathOp operator operands => mathOp operator (operands ++ yield.operands)
  | macroInvocation signature slots => macroInvocation signature (yield.assign slots)
  | state => state

/-- The element with what it is handed. -/
def Frame.receive (frame : Frame) (yield : Yield) : Frame :=
  { frame with state := frame.state.receive yield }

/-- The open elements with what the innermost one is handed. -/
def Frames.receive (yield : Yield) : Frames → Frames
  | [] => []
  | frame :: outer => frame.receive yield :: outer

/-- The session with other open elements. -/
def Session.withFrames (s : Session) (frames : Frames) : Session :=
  s.modifyDocument ({ · with frames })

/-- The session with what the innermost element is handed. -/
def Session.receive (s : Session) (yield : Yield) : Session :=
  s.withFrames (s.document.frames.receive yield)

variable {first second yield : Yield} {state : FrameState} {frames : Frames}

namespace FrameState

theorem receive_append :
    state.receive (first ++ second) = (state.receive first).receive second := by
  cases state with
  | mathOp operator operands =>
    exact congrArg (mathOp operator) (List.append_assoc ..).symm
  | macroInvocation signature slots =>
    exact congrArg (macroInvocation signature) Yield.assign_append
  | _ => rfl

theorem receive_passage (passage : Passage) : state.receive { passage } = state := by
  cases state with
  | mathOp operator operands => exact congrArg (mathOp operator) (List.append_nil _)
  | _ => rfl

end FrameState

namespace Frames

theorem receive_append :
    frames.receive (first ++ second) = (frames.receive first).receive second := by
  cases frames with
  | nil => rfl
  | cons frame outer =>
    exact congrArg (⟨frame.kind, frame.captured, ·⟩ :: outer) FrameState.receive_append

theorem receive_passage (passage : Passage) : frames.receive { passage } = frames := by
  cases frames with
  | nil => rfl
  | cons frame outer =>
    exact congrArg (⟨frame.kind, frame.captured, ·⟩ :: outer) (FrameState.receive_passage passage)

theorem topState?_receive :
    (frames.receive yield).topState? = frames.topState?.map (·.receive yield) := by
  cases frames <;> rfl

theorem definition?_receive : (frames.receive yield).definition? = frames.definition? := by
  cases frames with
  | nil => rfl
  | cons frame outer =>
    obtain ⟨kind, captured, state⟩ := frame
    cases state <;> rfl

/-- An operand is lost where there is no operator. -/
theorem getD_changeTop?_takeOperand (operand : Passage) :
    (frames.changeTop? (FrameState.takeOperand? operand)).getD frames =
      frames.receive { operands := [operand] } := by
  cases frames with
  | nil => rfl
  | cons frame outer =>
    obtain ⟨kind, captured, state⟩ := frame
    cases state <;> rfl

/-- An argument is lost where there is no slot for it. -/
theorem getD_changeTop?_takeArgument (index : Nat) (value : Passage) :
    (frames.changeTop? (FrameState.takeArgument? index value)).getD frames =
      frames.receive { arguments := [(index, value)] } := by
  cases frames with
  | nil => rfl
  | cons frame outer =>
    obtain ⟨kind, captured, state⟩ := frame
    cases state with
    | mathOp operator operands =>
      exact congrArg (⟨kind, captured, .mathOp operator ·⟩ :: outer) (List.append_nil _).symm
    | macroInvocation signature slots =>
      simp only [changeTop?, FrameState.takeArgument?]
      split
      · rfl
      · next h =>
        exact congrArg (⟨kind, captured, .macroInvocation signature ·⟩ :: outer)
          (List.set_eq_of_length_le (Nat.le_of_not_lt h)).symm
    | _ => rfl

end Frames

/-! ### Writing -/

namespace Session

open Action

variable {backend : Backend} {s t : Session} {output : Output} {calls : List Call}

theorem receive_passage (passage : Passage) : s.receive { passage } = s :=
  congrArg s.withFrames (Frames.receive_passage passage)

theorem receive_append : s.receive (first ++ second) = (s.receive first).receive second :=
  congrArg s.withFrames Frames.receive_append

theorem textError_of_writePhrase {phrase : Phrase} (h : writePhrase backend phrase s = .ok () t) :
    s.document.textError = none := by
  unfold writePhrase at h
  rw [bind_current] at h
  obtain ⟨_, _, passed, _⟩ := bind_eq_ok.mp h
  exact (refuse_eq_ok.mp passed).1

theorem writePhrase_eq {span : Span} {passage : Passage} (free : s.document.textError = none)
    (hp : ∀ d : Document, d.appendPhrase backend [span] = d.append (passage ++ {})) :
    writePhrase backend [span] (s.withOutput output) =
      .ok () (s.withOutput (output.write passage)) := by
  have checked : (s.withOutput output).document.textError = none := free
  unfold writePhrase
  rw [bind_current, checked]
  change EStateM.Result.ok () ((s.withOutput output).modifyDocument _) = _
  rw [modifyDocument, hp, Passage.append_empty]
  rfl

theorem brings_write {content : String} (h : s.Admits backend [.write content]) :
    s.Brings backend [.write content] ⟨backend.escape content, Marker.hide content⟩ s := by
  obtain ⟨_, _, _, written⟩ := h.exists_ok
  obtain ⟨_, _, written, _⟩ := bind_eq_ok.mp written
  obtain ⟨_, _, written, _⟩ := bind_eq_ok.mp written
  have free := textError_of_writePhrase written
  refine brings_of_perform fun output ↦
    ⟨_, (output.gains_write _).stream, perform_of_ok rfl ?_⟩
  exact bind_eq_ok.mpr ⟨(), _, writePhrase_eq free fun _ ↦ rfl, rfl⟩

theorem brings_writeSpace (h : s.Admits backend [.writeSpace]) :
    s.Brings backend [.writeSpace] ⟨backend.noBreakSpace, Span.noBreakSpace⟩ s := by
  obtain ⟨_, _, _, written⟩ := h.exists_ok
  obtain ⟨_, u, written, _⟩ := bind_eq_ok.mp written
  change writePhrase backend [.space] _ = .ok _ u at written
  have free := textError_of_writePhrase written
  refine brings_of_perform fun output ↦
    ⟨_, output.gains_write _, perform_of_ok rfl ?_⟩
  exact writePhrase_eq free fun _ ↦ rfl

/-! ### Parameters -/

/-- What is begun as a parameter directly inside an invocation is an argument. -/
theorem startParameter_argument {signature : Macro.Signature} {slots : List (Option Passage)}
    {index : Nat} {answer : FrameState × Bool}
    (top : s.document.frames.topState? = some (.macroInvocation signature slots)) :
    startParameter index s = .ok answer t ↔
      index < signature.arity ∧ answer = (.argument index, true) ∧ t = s := by
  unfold startParameter
  rw [bind_current, top]
  change (refuse _ >>= fun _ ↦ pure _ : Action (FrameState × Bool)) s = _ ↔ _
  rw [bind_eq_ok]
  constructor
  · rintro ⟨_, _, passed, given⟩
    obtain ⟨small, rfl⟩ := refuse_eq_ok.mp passed
    cases given
    exact ⟨parameterError_eq_none.mp small, rfl, rfl⟩
  · rintro ⟨small, rfl, rfl⟩
    exact ⟨(), t, refuse_eq_ok.mpr ⟨parameterError_eq_none.mpr small, rfl⟩, rfl⟩

theorem writeMarker_eq (index : Nat) :
    writeMarker index s = .ok () (s.modifyDocument (·.append (Marker.passage index))) := by
  unfold writeMarker Marker.passage
  cases Marker.char? index with
  | some marker => rfl
  | none =>
    have same : s.modifyDocument (·.append {}) = s :=
      congrArg s.withOutput s.document.output.write_empty
    exact congrArg (EStateM.Result.ok ()) same.symm

theorem startParameter_outside {index : Nat}
    (top : ∀ signature slots,
      s.document.frames.topState? ≠ some (.macroInvocation signature slots)) :
    startParameter index s =
      (s.document.frames.definition?.elim
        (throw (DocumentError.illegalNesting .macroParameter s.document.innermost))
        fun signature ↦ do
          refuse (parameterError signature index)
          writeMarker index
          return (FrameState.plain, false)) s := by
  unfold startParameter
  rw [bind_current]
  cases ht : s.document.frames.topState? with
  | none => cases s.document.frames.definition? <;> rfl
  | some state =>
    cases state with
    | macroInvocation signature slots => exact absurd ht (top signature slots)
    | _ => cases s.document.frames.definition? <;> rfl

/-- What is begun as a parameter elsewhere is a placeholder. It belongs to the innermost definition
and writes its marker. -/
theorem startParameter_placeholder {index : Nat} {answer : FrameState × Bool}
    (top : ∀ signature slots,
      s.document.frames.topState? ≠ some (.macroInvocation signature slots)) :
    startParameter index s = .ok answer t ↔
      (∃ signature, s.document.frames.definition? = some signature ∧ index < signature.arity) ∧
        answer = (.plain, false) ∧ t = s.modifyDocument (·.append (Marker.passage index)) := by
  rw [startParameter_outside top]
  cases s.document.frames.definition? with
  | none => exact ⟨fun hs ↦ (by cases hs), fun hs ↦ by obtain ⟨⟨_, hs, _⟩, _⟩ := hs; cases hs⟩
  | some signature =>
    rw [Option.elim_some, bind_eq_ok]
    constructor
    · rintro ⟨_, _, passed, written⟩
      obtain ⟨small, rfl⟩ := refuse_eq_ok.mp passed
      obtain ⟨_, _, marked, written⟩ := bind_eq_ok.mp written
      rw [writeMarker_eq] at marked
      cases marked
      cases written
      exact ⟨⟨signature, rfl, parameterError_eq_none.mp small⟩, rfl, rfl⟩
    · rintro ⟨⟨_, ⟨rfl⟩, small⟩, rfl, rfl⟩
      exact ⟨(), s, refuse_eq_ok.mpr ⟨parameterError_eq_none.mpr small, rfl⟩,
        bind_eq_ok.mpr ⟨(), _, writeMarker_eq index, rfl⟩⟩

end Session

/-! ### Elements -/

/-- The element while it is open. -/
def Wrapping.frame (wrapping : Wrapping) : Frame := ⟨wrapping.element.kind, false, wrapping.state⟩

/-- Whether trees of a level may be written with these elements open. An argument has to be in an
invocation, and a placeholder must not be. -/
def Inline.Level.Stands (frames : Frames) : Level → Prop
  | content => ∀ signature slots, frames.topState? ≠ some (.macroInvocation signature slots)
  | operands => True
  | arguments => ∃ signature slots, frames.topState? = some (.macroInvocation signature slots)

theorem Inline.Level.Stands.receive {level : Level} (h : level.Stands frames) :
    level.Stands (frames.receive yield) := by
  have top : (frames.receive yield).topState? = frames.topState?.map (·.receive yield) :=
    Frames.topState?_receive
  cases level with
  | content =>
    intro signature slots he
    rw [top] at he
    obtain ⟨state, hs, he⟩ := Option.map_eq_some_iff.mp he
    cases state with
    | macroInvocation => exact h _ _ hs
    | _ => cases he
  | operands => trivial
  | arguments =>
    obtain ⟨signature, slots, hs⟩ := h
    exact ⟨signature, yield.assign slots, by rw [top, hs]; rfl⟩

namespace Session

open Action

variable {backend : Backend} {s t : Session} {calls : List Call}

/-- What comes behind the beginning of an element is admitted once the element is open. -/
theorem Admits.behind {element : Element} {frame : Frame} {opening : Passage}
    (h : s.Admits backend (element.around calls))
    (begins : s.Brings backend [.beginElement element] opening (s.opened frame)) :
    (s.opened frame).Admits backend (calls ++ [.endElement element.kind]) :=
  h.of_perform fun output ↦ (begins output).imp fun _ brought ↦ brought.2.2

theorem Admits.behind_captured {element : Element} {frame : Frame}
    (h : s.Admits backend (element.around calls))
    (begins : ∀ output, (s.withOutput output).perform backend (.beginElement element) =
      (.ok .done, (s.opened frame).withOutput output.capture)) :
    (s.opened frame).Admits backend (calls ++ [.endElement element.kind]) :=
  h.of_perform fun output ↦ ⟨output.capture, congrArg Prod.snd (begins output)⟩

theorem closeMathOp_eq_ok {operator : Operator} {operands : List Passage} :
    closeMathOp backend operator operands s = .ok () t ↔
      operator.accepts operands.length = true ∧
        t = s.modifyDocument (Document.closeOperator backend operator operands) := by
  unfold closeMathOp
  rw [bind_eq_ok]
  constructor
  · rintro ⟨_, _, passed, closed⟩
    obtain ⟨right, rfl⟩ := refuse_eq_ok.mp passed
    rw [ite_eq_left_iff] at right
    exact ⟨by simpa using right, (EStateM.Result.ok.inj closed).2.symm⟩
  · rintro ⟨accepted, rfl⟩
    exact ⟨(), s, refuse_eq_ok.mpr ⟨if_pos accepted, rfl⟩, rfl⟩

theorem closeInvocation_eq (signature : Macro.Signature) (slots : List (Option Passage))
    (output : Output) :
    closeInvocation signature slots (s.withOutput output) =
      .ok () (s.withOutput (output.write (s.document.macros.invoke signature.name slots))) := by
  unfold closeInvocation Macro.Library.invoke
  have macros : (s.withOutput output).document.macros = s.document.macros := rfl
  rw [bind_current, macros]
  cases s.document.macros.find? signature.name with
  | some definition => rfl
  | none => exact congrArg (EStateM.Result.ok () <| s.withOutput ·) output.write_empty.symm

theorem brings_begin_wrapping (wrapping : Wrapping)
    (h : s.Admits backend (wrapping.element.around calls)) :
    s.Brings backend [.beginElement wrapping.element] ⟨wrapping.opening backend, ""⟩
      (s.opened wrapping.frame) := by
  have allowed := h.started.1
  rcases wrapping with style | _ | _
  · cases style <;> exact brings_beginElement rfl rfl allowed fun _ ↦ rfl
  all_goals exact brings_beginElement rfl rfl allowed fun _ ↦ rfl

/-- A placeholder of a definition with such a parameter brings its marker. -/
theorem brings_placeholder {index : Nat} (stands : Inline.Level.content.Stands s.document.frames)
    (h : s.Admits backend ((Element.macroParameter index).around [])) :
    s.Brings backend ((Element.macroParameter index).around []) (Marker.passage index) s ∧
      ∃ signature, s.document.frames.definition? = some signature ∧ index < signature.arity := by
  obtain ⟨allowed, output, answer, t, started⟩ := h.started
  obtain ⟨belongs, -⟩ := (startParameter_placeholder (s := s.withOutput output) stands).mp started
  have begins : s.Brings backend [.beginElement (.macroParameter index)] (Marker.passage index)
      (s.opened ⟨.macroParameter, false, .plain⟩) :=
    brings_beginElement rfl rfl allowed fun output ↦
      (startParameter_placeholder (s := s.withOutput output) stands).mpr ⟨belongs, rfl, rfl⟩
  have around := begins.around (brings_nil _) rfl rfl fun output ↦
    congrArg (EStateM.Result.ok () <| s.withOutput ·) output.write_empty.symm
  rw [Passage.append_empty, Passage.append_empty] at around
  exact ⟨around, belongs⟩

/-- A capture begins with an argument of the innermost invocation. -/
theorem perform_beginElement_argument {index : Nat} {slots : List (Option Passage)}
    (top : s.document.frames.topState? = some (.macroInvocation signature slots))
    (h : s.Admits backend ((Element.macroParameter index).around calls)) (output : Output) :
    (s.withOutput output).perform backend (.beginElement (.macroParameter index)) =
      (.ok .done,
        (s.opened ⟨.macroParameter, true, .argument index⟩).withOutput output.capture) := by
  obtain ⟨allowed, written, answer, t, started⟩ := h.started
  obtain ⟨small, -⟩ := (startParameter_argument (s := s.withOutput written) top).mp started
  exact perform_beginElement_captured rfl rfl allowed
    (fun output ↦ (startParameter_argument (s := s.withOutput output) top).mpr ⟨small, rfl, rfl⟩)
    output

end Session

namespace Inline

open Action Session

variable {backend : Backend} {level : Level}

/-- The calls of a tree that are accepted hand to the enclosing element what the tree comes to, and
do nothing else. Every placeholder belongs to a definition with such a parameter. -/
theorem brings (tree : Inline level) {s : Session} (stands : level.Stands s.document.frames)
    (h : s.Admits backend tree.calls) :
    s.Brings backend tree.calls (tree.yield backend s.document.macros).passage
        (s.receive (tree.yield backend s.document.macros)) ∧
      ∀ index ∈ tree.placeholders, ∃ signature,
        s.document.frames.definition? = some signature ∧ index < signature.arity := by
  induction tree generalizing s with
  | nothing =>
    refine ⟨?_, List.forall_mem_nil _⟩
    rw [yield, receive_passage]
    exact brings_nil s
  | seq first second ih ih' =>
    obtain ⟨before, bounded⟩ := ih stands h.left
    obtain ⟨after, bounded'⟩ := ih' stands.receive (h.right before)
    refine ⟨?_, List.forall_mem_append.mpr ⟨bounded, fun index hi ↦ ?_⟩⟩
    · rw [yield, receive_append]
      exact before.append after
    · obtain ⟨signature, hd, small⟩ := bounded' index hi
      exact ⟨signature, (Frames.definition?_receive).symm.trans hd, small⟩
  | text | number =>
    refine ⟨?_, List.forall_mem_nil _⟩
    rw [yield, receive_passage]
    exact brings_write h
  | space =>
    refine ⟨?_, List.forall_mem_nil _⟩
    rw [yield, receive_passage]
    exact brings_writeSpace h
  | placeholder index =>
    obtain ⟨brings, belongs⟩ := brings_placeholder stands h
    refine ⟨?_, List.forall_mem_singleton.mpr belongs⟩
    rw [yield, receive_passage]
    exact brings
  | wrapped wrapping inner ih =>
    have begins := brings_begin_wrapping wrapping h
    have stands : Level.content.Stands (wrapping.frame :: s.document.frames) := by
      cases wrapping <;> exact fun _ _ he ↦ by cases he
    obtain ⟨inside, bounded⟩ := ih stands (h.behind begins).left
    have same : (s.opened wrapping.frame).receive (inner.yield backend s.document.macros) =
        s.opened wrapping.frame := by
      cases wrapping <;> rfl
    refine ⟨?_, by cases wrapping <;> exact bounded⟩
    rw [yield, receive_passage]
    refine begins.around (same ▸ inside) rfl rfl fun output ↦ ?_
    cases wrapping <;> rfl
  | formula operator operands ih =>
    have begins : s.Brings backend [.beginElement (.mathOp operator)] {}
        (s.opened ⟨.mathOp, false, .mathOp operator []⟩) :=
      brings_beginElement_silent rfl rfl h.started.1 fun _ ↦ rfl
    have behind := h.behind begins
    obtain ⟨inside, bounded⟩ := ih trivial behind.left
    obtain ⟨output, t, closed⟩ := Admits.closed (behind.right inside) rfl
    have accepted := (closeMathOp_eq_ok.mp closed).1
    refine ⟨?_, bounded⟩
    rw [yield, receive_passage]
    exact begins.around_silent inside (operands.suits_yield backend).1 rfl rfl fun output ↦
      closeMathOp_eq_ok.mpr ⟨accepted, rfl⟩
  | invocation signature arguments ih =>
    let slots : List (Option Passage) := List.replicate signature.arity none
    have begins : s.Brings backend [.beginElement (.macroInvocation signature)] {}
        (s.opened ⟨.macroInvocation, false, .macroInvocation signature slots⟩) :=
      brings_beginElement_silent rfl rfl h.started.1 fun _ ↦ rfl
    obtain ⟨inside, bounded⟩ := ih ⟨signature, slots, rfl⟩ (h.behind begins).left
    refine ⟨?_, bounded⟩
    rw [yield, receive_passage]
    exact begins.around_silent inside (arguments.suits_yield backend).1 rfl rfl
      (closeInvocation_eq signature _)
  | operand inner ih =>
    have begins (output : Output) : (s.withOutput output).perform backend
        (.beginElement .mathOpParam) =
          (.ok .done, (s.opened ⟨.mathOpParam, true, .plain⟩).withOutput output.capture) :=
      perform_beginElement_captured rfl rfl h.started.1 (fun _ ↦ rfl) output
    obtain ⟨inside, bounded⟩ := ih (fun _ _ he ↦ by cases he) (h.behind_captured begins).left
    refine ⟨Brings.around_captured begins inside rfl rfl fun output ↦ ?_, bounded⟩
    exact congrArg (fun frames ↦ EStateM.Result.ok () ((s.withFrames frames).withOutput output))
      (Frames.getD_changeTop?_takeOperand _)
  | argument index inner ih =>
    obtain ⟨signature, slots, top⟩ := stands
    have begins := perform_beginElement_argument top h
    obtain ⟨inside, bounded⟩ := ih (fun _ _ he ↦ by cases he) (h.behind_captured begins).left
    refine ⟨Brings.around_captured begins inside rfl rfl fun output ↦ ?_, bounded⟩
    exact congrArg (fun frames ↦ EStateM.Result.ok () ((s.withFrames frames).withOutput output))
      (Frames.getD_changeTop?_takeArgument index _)

end Inline

namespace Session

variable {backend : Backend} {s : Session} {signature : Macro.Signature} {body : Inline .content}

/-- A macro that is defined by inline content has what the content comes to as its body, and the
content holds placeholders of the parameters of the macro alone. -/
theorem brings_definition
    (h : s.Admits backend ((Element.macroDefinition signature).around body.calls)) :
    s.Brings backend ((Element.macroDefinition signature).around body.calls) {}
        (s.modifyDocument (Document.closeDefinition signature
          (body.yield backend s.document.macros).passage)) ∧
      ∀ index ∈ body.placeholders, index < signature.arity := by
  have begins (output : Output) : (s.withOutput output).perform backend
      (.beginElement (.macroDefinition signature)) =
        (.ok .done, (s.opened ⟨.macroDefinition, true, .macroDefinition signature⟩).withOutput
          output.capture) :=
    perform_beginElement_captured rfl rfl h.started.1 (fun _ ↦ rfl) output
  obtain ⟨inside, bounded⟩ := body.brings (fun _ _ he ↦ by cases he) (h.behind_captured begins).left
  refine ⟨Brings.around_captured begins inside rfl rfl fun _ ↦ rfl, fun index hi ↦ ?_⟩
  obtain ⟨_, ⟨rfl⟩, small⟩ := bounded index hi
  exact small

/-- Inline content that is accepted appends what it comes to, and nothing else changes. -/
theorem brings_content {content : Inline .content}
    (stands : Inline.Level.content.Stands s.document.frames)
    (h : s.accepts backend content.calls = true) :
    s.Brings backend content.calls (content.yield backend s.document.macros).passage s := by
  have brings := (content.brings stands (admits_of_accepts h)).1
  rwa [(content.suits_yield backend).eq_passage, receive_passage] at brings

end Session

end Manuscript
