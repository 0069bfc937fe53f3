import Manuscript.Press.Context
import Manuscript.Proofs.Document.Composition

/-!
# Streaming

Streaming cannot be seen in what a document produces. Whatever is called does the same steps to the
output at every threshold (`Action.Stepwise`), and steps lose nothing that is written to the root:
what is in the file and what waits at the root make up all of it, in order (`Output.whole_follow`).
-/

namespace Manuscript

namespace Output

/-- Something that is done to an output. -/
inductive Step where
  | write (passage : Passage)
  | capture
  | release
  | stream

/-- The output after a step. -/
def step (output : Output) : Step → Output
  | .write passage => output.write passage
  | .capture => output.capture
  | .release => { output with captures := output.captures.tail }
  | .stream => output.stream

/-- The output after steps. -/
def follow (output : Output) (steps : List Step) : Output := steps.foldl step output

/-- The number of captures that are open after steps that start with `depth` open ones. -/
def depthAfter (depth : Nat) : List Step → Nat
  | [] => depth
  | .write _ :: steps => depthAfter depth steps
  | .capture :: steps => depthAfter (depth + 1) steps
  | .release :: steps => depthAfter (depth - 1) steps
  | .stream :: steps => depthAfter depth steps

/-- All markup that steps append to the root, in order: what is written while no capture is open,
if `depth` captures are open at the start. -/
def rooted (depth : Nat) : List Step → String
  | [] => ""
  | .write passage :: steps => (if depth = 0 then passage.markup else "") ++ rooted depth steps
  | .capture :: steps => rooted (depth + 1) steps
  | .release :: steps => rooted (depth - 1) steps
  | .stream :: steps => rooted depth steps

/-- What is in the file and what waits at the root. -/
def whole (output : Output) : String := output.streamed ++ output.root.markup

@[simp] theorem streamed_write (output : Output) (passage : Passage) :
    (output.write passage).streamed = output.streamed := by
  unfold write
  split <;> rfl

@[simp] theorem threshold_write (output : Output) (passage : Passage) :
    (output.write passage).threshold = output.threshold := by
  unfold write
  split <;> rfl

/-- Streaming moves all of the root, and only if no capture is open. -/
theorem stream_cases (output : Output) :
    output.stream = output ∨ output.captures = [] ∧ output.stream = output.drain := by
  unfold stream
  split
  · next h =>
    rw [Bool.and_eq_true, List.isEmpty_iff] at h
    exact .inr ⟨h.1, rfl⟩
  · exact .inl rfl

theorem follow_append (output : Output) (first second : List Step) :
    output.follow (first ++ second) = (output.follow first).follow second := List.foldl_append

theorem length_captures_follow (output : Output) (steps : List Step) :
    (output.follow steps).captures.length = depthAfter output.captures.length steps := by
  induction steps generalizing output with
  | nil => rfl
  | cons step steps ih =>
    rw [follow, List.foldl_cons, ← follow, ih]
    cases step with
    | write passage => rw [Output.step, length_captures_write]; rfl
    | capture => rfl
    | release => rw [Output.step, List.length_tail]; rfl
    | stream => rw [Output.step, captures_stream]; rfl

/-- The captures after steps depend on the captures before them alone. -/
theorem captures_follow {first second : Output} (h : first.captures = second.captures)
    (steps : List Step) : (first.follow steps).captures = (second.follow steps).captures := by
  induction steps generalizing first second with
  | nil => exact h
  | cons step steps ih =>
    apply ih
    cases step with
    | write passage =>
      simp only [Output.step, write]
      rw [h]
      split <;> rfl
    | capture => exact congrArg ({} :: ·) h
    | release => exact congrArg List.tail h
    | stream => rw [Output.step, Output.step, captures_stream, captures_stream, h]

theorem whole_write (output : Output) (passage : Passage) :
    (output.write passage).whole =
      output.whole ++ if output.captures.length = 0 then passage.markup else "" := by
  unfold write
  split
  · next h =>
    have hl : output.captures.length = 0 := by simp [h]
    rw [if_pos hl]
    exact (String.append_assoc ..).symm
  · next h =>
    have hl : output.captures.length ≠ 0 := by simp [h]
    rw [if_neg hl, String.append_empty]
    rfl

/-- What is released has not reached the root. -/
theorem whole_release {output : Output} {released : Passage × Output}
    (h : output.release? = some released) : released.2.whole = output.whole := by
  unfold release? at h
  split at h
  · cases h
  · cases h
    rfl

@[simp] theorem whole_drain (output : Output) : output.drain.whole = output.whole :=
  String.append_empty

@[simp] theorem whole_stream (output : Output) : output.stream.whole = output.whole := by
  rcases output.stream_cases with h | ⟨_, h⟩
  · rw [h]
  · rw [h, whole_drain]

/-- Steps append to the whole what they write to the root, and lose nothing. -/
theorem whole_follow (output : Output) (steps : List Step) :
    (output.follow steps).whole = output.whole ++ rooted output.captures.length steps := by
  induction steps generalizing output with
  | nil => exact String.append_empty.symm
  | cons step steps ih =>
    rw [follow, List.foldl_cons, ← follow, ih]
    cases step with
    | write passage =>
      rw [Output.step, whole_write, length_captures_write, String.append_assoc]
      rfl
    | capture => rfl
    | release => rw [Output.step, List.length_tail]; rfl
    | stream => rw [Output.step, whole_stream, captures_stream]; rfl

/-- What steps stream is what had been written to the root at some moment when no capture was
open. -/
theorem streamed_follow (output : Output) (steps : List Step) :
    (output.follow steps).streamed = output.streamed ∨
      ∃ before after, steps = before ++ after ∧
        depthAfter output.captures.length before = 0 ∧
        (output.follow steps).streamed = output.whole ++ rooted output.captures.length before := by
  induction steps generalizing output with
  | nil => exact .inl rfl
  | cons step steps ih =>
    rw [follow, List.foldl_cons, ← follow]
    rcases ih (output.step step) with h | ⟨before, after, rfl, hd, hs⟩
    · by_cases hn : (output.step step).streamed = output.streamed
      · exact .inl (h.trans hn)
      · -- Only a step that streams changes what is in the file, and it streams all of the root.
        cases step with
        | stream =>
          rcases output.stream_cases with hs | ⟨hc, hs⟩
          · exact absurd (congrArg streamed hs) hn
          · refine .inr ⟨[.stream], steps, rfl, congrArg List.length hc, ?_⟩
            rw [h, Output.step, hs]
            exact String.append_empty.symm
        | write passage => exact absurd (streamed_write output passage) hn
        | capture => exact absurd rfl hn
        | release => exact absurd rfl hn
    · refine .inr ⟨step :: before, after, rfl, ?_, ?_⟩
      · rw [← length_captures_follow] at hd ⊢
        exact hd
      · rw [hs, ← whole_follow, ← whole_follow]
        rfl

/-- Without a threshold nothing is ever streamed. -/
theorem streamed_follow_of_threshold_eq_none (output : Output) (h : output.threshold = none)
    (steps : List Step) : (output.follow steps).streamed = output.streamed := by
  induction steps generalizing output with
  | nil => rfl
  | cons step steps ih =>
    rw [follow, List.foldl_cons, ← follow]
    cases step with
    | write passage =>
      exact (ih _ ((threshold_write output passage).trans h)).trans
        (streamed_write output passage)
    | capture => exact ih _ h
    | release => exact ih _ h
    | stream =>
      have hs : output.stream = output := by simp [stream, h]
      rw [Output.step, hs]
      exact ih _ h

end Output

/-- The session with another output. -/
def Session.withOutput (s : Session) (output : Output) : Session :=
  s.modifyDocument ({ · with output })

namespace Action

open Output

variable {α β : Type}

/-- The result with another session. -/
def mapSession (f : Session → Session) :
    EStateM.Result DocumentError Session α → EStateM.Result DocumentError Session α
  | .ok answer s => .ok answer (f s)
  | .error error s => .error error (f s)

/-- The action does steps to the output, the same ones whatever has been streamed and whatever the
threshold is, and the output has no part in anything else that it does. -/
def Stepwise (act : Action α) : Prop :=
  ∀ s, ∃ steps : List Step, ∀ output : Output, output.captures = s.document.output.captures →
    act (s.withOutput output) = mapSession (·.withOutput (output.follow steps)) (act s)

namespace Stepwise

variable {act : Action α} {next : α → Action β}

theorem pure (answer : α) : Stepwise (pure answer : Action α) := fun _ ↦ ⟨[], fun _ _ ↦ rfl⟩

theorem throw (error : DocumentError) : Stepwise (throw error : Action α) :=
  fun _ ↦ ⟨[], fun _ _ ↦ rfl⟩

theorem look {next : Document → Action α}
    (blind : ∀ d output, next { d with output } = next d) (h : ∀ d, Stepwise (next d)) :
    Stepwise (current >>= next) := by
  intro s
  obtain ⟨steps, hs⟩ := h s.document s
  refine ⟨steps, fun output ho ↦ ?_⟩
  have hn : next (s.withOutput output).document = next s.document := blind s.document output
  change next (s.withOutput output).document (s.withOutput output) = _
  rw [hn, hs output ho]
  rfl

/-- The steps of the second action come behind those of the first. -/
theorem bind (first : Stepwise act) (second : ∀ answer, Stepwise (next answer)) :
    Stepwise (act >>= next) := by
  intro s
  obtain ⟨steps, hs⟩ := first s
  have here : act s = mapSession (·.withOutput (s.document.output.follow steps)) (act s) :=
    hs s.document.output rfl
  cases ha : act s with
  | error error t =>
    refine ⟨steps, fun output ho ↦ ?_⟩
    change EStateM.bind act next _ = mapSession _ (EStateM.bind act next s)
    rw [EStateM.bind, EStateM.bind, hs output ho, ha]
    rfl
  | ok answer t =>
    obtain ⟨others, ht⟩ := second answer t
    refine ⟨steps ++ others, fun output ho ↦ ?_⟩
    change EStateM.bind act next _ = mapSession _ (EStateM.bind act next s)
    rw [EStateM.bind, EStateM.bind, hs output ho, ha]
    change next answer (t.withOutput (output.follow steps)) = mapSession _ (next answer t)
    have hc : (output.follow steps).captures = t.document.output.captures := by
      rw [ha] at here
      injection here with _ here
      rw [here]
      exact captures_follow ho steps
    rw [ht _ hc, follow_append]

/-- A change whose effect on the output is a step, whatever else it changes. -/
theorem change {f : Document → Document} (step : Document → List Step)
    (h : ∀ d output, output.captures = d.output.captures →
      f { d with output } = { f d with output := output.follow (step d) }) :
    Stepwise (change f) := by
  refine fun s ↦ ⟨step s.document, fun output ho ↦ ?_⟩
  have hf : (s.withOutput output).modifyDocument f =
      (s.modifyDocument f).withOutput (output.follow (step s.document)) := by
    simp only [Session.modifyDocument, Session.withOutput, h s.document output ho]
  exact congrArg (EStateM.Result.ok ()) hf

theorem of_composed {γ : Type} {E : DocumentError → Prop} {V : Standing → γ}
    (h : Composed E V act) : Stepwise act := by
  induction h with
  | pure answer => exact pure answer
  | throw _ => exact throw _
  | bind _ _ first second => exact first.bind second
  | look blind _ ih => exact look blind ih
  | write passage blind =>
    refine change (fun d ↦ [.write (passage d)]) fun d output _ ↦ ?_
    rw [blind]
    rfl
  | note blind _ => exact change (fun _ ↦ []) fun d output _ ↦ blind d output
  | picture path picture _ =>
    refine fun s ↦ ⟨[], fun output _ ↦ ?_⟩
    unfold Session.createPicture
    have files : (s.withOutput output).files = s.files := rfl
    rw [bind_get, bind_get, files]
    cases s.files.create path (.picture picture) <;> rfl

theorem refuse (reason : Option DocumentError) : Stepwise (refuse reason) :=
  of_composed (E := fun _ ↦ True) (V := id) (.refuse fun _ _ ↦ trivial)

theorem stream : Stepwise (Action.change Document.stream) :=
  change (fun _ ↦ [.stream]) fun _ _ _ ↦ rfl

end Stepwise

end Action

/-! ### What is held back -/

/-- The root of the output is the given text, and what is written does not reach it. -/
def Session.Behind (whole : String) (s : Session) : Prop :=
  s.document.output.captures ≠ [] ∧ s.document.output.whole = whole

namespace Session

open Action

theorem behind_append {whole : String} {s : Session} (h : s.Behind whole) (passage : Passage) :
    (s.modifyDocument (·.append passage)).Behind whole := by
  have held : s.document.output.captures.length ≠ 0 := by simpa using h.1
  constructor
  · change (s.document.output.write passage).captures ≠ []
    rw [← List.length_pos_iff, Output.length_captures_write]
    exact Nat.pos_of_ne_zero held
  · change (s.document.output.write passage).whole = whole
    rw [Output.whole_write, if_neg held, String.append_empty, h.2]

theorem behind_stream {whole : String} {s : Session} (h : s.Behind whole) :
    (s.modifyDocument Document.stream).Behind whole := by
  constructor
  · change s.document.output.stream.captures ≠ []
    rw [Output.captures_stream]
    exact h.1
  · exact (Output.whole_stream _).trans h.2

/-- While something is held back, steps do not reach the root. -/
theorem ensures_behind {γ α : Type} {E : DocumentError → Prop} {V : Standing → γ}
    {act : Action α} (h : Composed E V act) (whole : String) :
    Ensures (·.Behind whole) act (fun _ ↦ (·.Behind whole)) fun _ ↦ (·.Behind whole) := by
  induction h with
  | pure answer => exact ensures_pure fun _ hs ↦ hs
  | throw _ => exact ensures_throw fun _ hs ↦ hs
  | bind _ _ first second => exact first.bind second
  | look _ _ ih =>
    exact ensures_current fun d ↦
      (ih d).mono (fun _ hs ↦ hs.1) (fun _ _ hs ↦ hs) fun _ _ hs ↦ hs
  | write passage _ => exact ensures_change fun s hs ↦ behind_append hs _
  | @note f blind _ =>
    refine ensures_change fun s hs ↦ ?_
    have same := congrArg Document.output (blind s.document s.document.output)
    change (f s.document).output = s.document.output at same
    rwa [Behind, modifyDocument, same]
  | picture path picture _ =>
    intro s hs
    unfold createPicture
    rw [bind_get]
    cases s.files.create path (.picture picture) <;> exact hs

/-! ### Steps of calls -/

theorem stepwise_beginElement (backend : Backend) (element : Element) :
    Stepwise (beginElement backend element) := by
  refine .look (fun _ _ ↦ rfl) fun d ↦ (Stepwise.refuse _).bind fun _ ↦
    (Stepwise.refuse _).bind fun _ ↦ (Stepwise.refuse _).bind fun _ ↦
      (Stepwise.of_composed (free_start backend element)).bind fun answer ↦ ?_
  refine (Stepwise.of_composed (.attach (E := fun _ ↦ True) fun _ _ ↦ trivial)).bind fun _ ↦ ?_
  refine .change (fun _ ↦ if answer.2 then [.capture] else []) fun d output _ ↦ ?_
  unfold Document.push
  cases answer.2 <;> rfl

/-- What is released is a capture, so it does not depend on the root. -/
theorem stepwise_release (frame : Frame) : Stepwise (release frame) := by
  unfold release
  split
  · intro s
    cases hc : s.document.output.captures with
    | nil =>
      refine ⟨[], fun output ho ↦ ?_⟩
      have hr : s.document.output.release? = none := by rw [Output.release?, hc]
      have hr' : (s.withOutput output).document.output.release? = none := by
        change output.release? = none
        rw [Output.release?, ho]
      rw [bind_current, bind_current, hr, hr']
      rfl
    | cons capture outer =>
      refine ⟨[.release], fun output ho ↦ ?_⟩
      have hr : s.document.output.release? =
          some (capture, { s.document.output with captures := outer }) := by
        rw [Output.release?, hc]
      have hr' : (s.withOutput output).document.output.release? =
          some (capture, output.follow [.release]) := by
        change output.release? = some (capture, { output with captures := output.captures.tail })
        rw [Output.release?, ho]
        rfl
      rw [bind_current, bind_current, hr, hr']
      rfl
  · exact .pure _

theorem stepwise_endElement (backend : Backend) (kind : Kind) :
    Stepwise (endElement backend kind) := by
  refine .look (fun _ _ ↦ rfl) fun d ↦ ?_
  split
  · exact .throw _
  · next frame outer hd =>
    split
    · refine (Stepwise.change (fun _ ↦ []) fun _ _ _ ↦ rfl).bind fun _ ↦
        (stepwise_release frame).bind fun captured ↦
          (Stepwise.change (fun _ ↦ []) fun _ _ _ ↦ rfl).bind fun _ ↦
            (Stepwise.of_composed (composed_closeFrame backend frame captured)).bind fun _ ↦
              Stepwise.stream
    · exact .throw _

/-- Every call does steps to the output that do not depend on what has been streamed. -/
theorem stepwise_action (backend : Backend) (call : Call) : Stepwise (call.action backend) := by
  have phrase (phrase : Phrase) :
      Stepwise (do writePhrase backend phrase; change Document.stream) :=
    (Stepwise.of_composed (free_writePhrase backend phrase)).bind fun _ ↦ Stepwise.stream
  cases call with
  | createLabel target =>
    exact (Stepwise.of_composed (free_createLabel target)).bind fun _ ↦ .pure _
  | beginElement element =>
    exact (stepwise_beginElement backend element).bind fun _ ↦ .pure _
  | endElement kind => exact (stepwise_endElement backend kind).bind fun _ ↦ .pure _
  | write text => exact (phrase _).bind fun _ ↦ .pure _
  | writeNumber number => exact (phrase _).bind fun _ ↦ .pure _
  | writeSpace => exact (Stepwise.of_composed (free_writePhrase _ _)).bind fun _ ↦ .pure _
  | writeSeries joiner bound items => exact (phrase _).bind fun _ ↦ .pure _
  | reference joiner bound labels =>
    refine Stepwise.bind ?_ fun _ ↦ .pure _
    exact (Stepwise.of_composed (free_labelStates labels)).bind fun _ ↦ phrase _
  | cite style records =>
    refine Stepwise.bind ?_ fun _ ↦ .pure _
    unfold cite
    split
    · exact .pure _
    · exact .look (fun _ _ ↦ rfl) fun _ ↦ (Stepwise.refuse _).bind fun _ ↦
        (Stepwise.of_composed (free_registerWorks records)).bind fun _ ↦ phrase _
  | paint fills => exact (Stepwise.of_composed (free_paint fills)).bind fun _ ↦ .pure _

/-- The answer to a call does not depend on what has been streamed, and neither does the next
session apart from its output. -/
theorem exists_steps_perform (backend : Backend) (call : Call) (s : Session) :
    ∃ steps : List Output.Step, ∀ output : Output,
      output.captures = s.document.output.captures →
        (s.withOutput output).perform backend call =
          ((s.perform backend call).1,
            (s.perform backend call).2.withOutput (output.follow steps)) := by
  obtain ⟨steps, hs⟩ := stepwise_action backend call s
  refine ⟨steps, fun output ho ↦ ?_⟩
  unfold perform
  rw [hs output ho]
  cases call.action backend s <;> rfl

/-- The steps of a run are those of its calls, one call after the other. -/
theorem exists_steps_run (backend : Backend) (calls : List Call) (s : Session) :
    ∃ steps : List Output.Step, ∀ output : Output,
      output.captures = s.document.output.captures →
        (s.withOutput output).run backend calls =
          (s.run backend calls).withOutput (output.follow steps) := by
  induction calls generalizing s with
  | nil => exact ⟨[], fun _ _ ↦ rfl⟩
  | cons call calls ih =>
    obtain ⟨steps, hs⟩ := exists_steps_perform backend call s
    obtain ⟨others, ht⟩ := ih (s.perform backend call).2
    refine ⟨steps ++ others, fun output ho ↦ ?_⟩
    have here : (s.perform backend call).2.document.output = s.document.output.follow steps :=
      congrArg (·.2.document.output) (hs s.document.output rfl)
    have hc : (output.follow steps).captures =
        (s.perform backend call).2.document.output.captures := by
      rw [here]
      exact Output.captures_follow ho steps
    rw [run, List.foldl_cons, ← run, hs output ho, ht _ hc, Output.follow_append]
    rfl

/-- Closing gives the same whatever has been streamed, if it is not too early. -/
theorem close_withOutput (backend : Backend) (s : Session) {first second : Output}
    (hc : first.captures = second.captures) (hw : first.whole = second.whole)
    (hf : (s.withOutput first).document.closeFault = none) :
    (s.withOutput first).close backend = (s.withOutput second).close backend := by
  have hs : (s.withOutput second).document.closeFault = none := by
    rw [← hf]
    simp only [Document.closeFault, withOutput, modifyDocument, hc]
    rfl
  have hd (output : Output) :
      ((s.withOutput output).modifyDocument fun d ↦ { d with output := d.output.drain }).settle =
        s.files.put s.document.place (.text output.whole) := rfl
  unfold close
  rw [hf, hs]
  simp only [hd, hw]
  rfl

/-- What is streamed is in the file and nothing else is. -/
theorem node?_settle (s : Session) (h : s.document.place ≠ []) :
    s.settle.node? s.document.place = some (.text s.document.output.streamed) := by
  rw [settle, FileSystem.node?, if_neg h, FileSystem.put]
  simp

end Session

end Manuscript
