import Manuscript.Proofs.Document.Contract
import Manuscript.Proofs.Xhtml.Legibility

/-!
# Printing

What an action leaves open on the sheets, and which of the identifiers that were pending it writes
down (`Action.Prints`). A refusal leaves nothing open. The rules follow the steps of which actions
are composed.
-/

namespace Manuscript

open Markup Xhtml

namespace Action

variable {α β : Type} {loose : String → Prop}

/-- The action finds `opened` and `pending` above the innermost element and leaves there what
`left` and `rest` say for a good answer. A refusal leaves nothing open. -/
def Prints (loose : String → Prop) (opened pending : List String) (act : Action α)
    (left rest : α → List String) (good : α → Prop) : Prop :=
  ∀ budget phase,
    Ensures (fun s ↦ s.document.Legible loose budget phase opened pending ∧ s.document.Writable) act
      (fun answer s ↦ good answer ∧
        s.document.Legible loose budget phase (left answer) (rest answer) ∧ s.document.Writable)
      fun _ s ↦ s.document.Legible loose budget phase [] []

/-- The action leaves what it finds, and nothing is open. -/
abbrev Spares (loose : String → Prop) (pending : List String) (act : Action α)
    (good : α → Prop) : Prop :=
  Prints loose [] pending act (fun _ ↦ []) (fun _ ↦ pending) good

/-- The action writes down everything that is pending, and nothing is left open. -/
abbrev Finishes (loose : String → Prop) (opened pending : List String) (act : Action Unit) :
    Prop :=
  Prints loose opened pending act (fun _ ↦ []) (fun _ ↦ []) fun _ ↦ True

section Rules

variable {opened pending : List String} {act : Action α} {next : α → Action β}
  {middle between : α → List String} {left rest : β → List String} {good : α → Prop}
  {good' : β → Prop}

theorem Prints.bind (first : Prints loose opened pending act middle between good)
    (second : ∀ answer, good answer →
      Prints loose (middle answer) (between answer) (next answer) left rest good') :
    Prints loose opened pending (act >>= next) left rest good' :=
  fun budget phase ↦ (first budget phase).bind fun answer ↦
    ensures_of_imp fun hg ↦ second answer hg budget phase

theorem prints_pure {answer : β} (h : good' answer) (ho : left answer = opened)
    (hp : rest answer = pending) :
    Prints loose opened pending (pure answer) left rest good' :=
  fun _ _ ↦ ensures_pure fun _ hs ↦ ⟨h, ho ▸ hp ▸ hs.1, hs.2⟩

theorem prints_throw {error : DocumentError} :
    Prints loose [] pending (throw error : Action β) left rest good' :=
  fun _ _ ↦ ensures_throw fun _ hs ↦ hs.1.forget

/-- What comes after a look at the document may rely on what the document keeps. -/
theorem prints_current {next : Document → Action β}
    (h : ∀ d, d.macros.Sound loose → Prints loose opened pending (next d) left rest good') :
    Prints loose opened pending (current >>= next) left rest good' := by
  refine fun budget phase ↦ ensures_current fun d s hs ↦ ?_
  obtain ⟨hs, rfl⟩ := hs
  exact h s.document hs.1.macros budget phase s hs

theorem spares_refuse {reason : Option DocumentError} :
    Spares loose pending (refuse reason) fun _ ↦ True := by
  cases reason with
  | none => exact prints_pure trivial rfl rfl
  | some error => exact prints_throw

end Rules

section Changes

variable {opened pending left new : List String} {markup : String} {passage : Passage}

private theorem writable_append {d : Document} (h : d.Writable) (passage : Passage) :
    (d.append passage).Writable := by
  intro hc
  apply h
  rw [← List.length_eq_zero_iff] at hc ⊢
  rw [← hc]
  exact (Output.length_captures_write d.output passage).symm

/-- What is written may depend on what the header said. -/
theorem prints_append {passage : Document → Passage}
    (h : ∀ d : Document, d.head.Sound loose → Leads loose (passage d).markup opened left new) :
    Prints loose opened (new ++ pending) (change fun d ↦ d.append (passage d)) (fun _ ↦ left)
      (fun _ ↦ pending) fun _ ↦ True :=
  fun _ _ ↦ ensures_change fun _ hs ↦
    ⟨trivial, hs.1.append hs.2 (h _ hs.1.head), writable_append hs.2 _⟩

/-- What gives no identifiers leaves pending what is pending. -/
theorem prints_bare {passage : Document → Passage}
    (h : ∀ d : Document, d.head.Sound loose → Leads loose (passage d).markup opened left []) :
    Prints loose opened pending (change fun d ↦ d.append (passage d)) (fun _ ↦ left)
      (fun _ ↦ pending) fun _ ↦ True :=
  show Prints loose opened ([] ++ pending) _ _ _ _ from prints_append h

theorem prints_emit (h : Leads loose markup opened left new) :
    Prints loose opened (new ++ pending) (change (·.emit markup)) (fun _ ↦ left)
      (fun _ ↦ pending) fun _ ↦ True :=
  prints_append fun _ _ ↦ h

/-- Two changes in one. -/
theorem Prints.comp {f g : Document → Document} {middle between : List String}
    (hf : Prints loose opened pending (change f) (fun _ ↦ middle) (fun _ ↦ between) fun _ ↦ True)
    (hg : Prints loose middle between (change g) (fun _ ↦ left) (fun _ ↦ new) fun _ ↦ True) :
    Prints loose opened pending (change (g ∘ f)) (fun _ ↦ left) (fun _ ↦ new) fun _ ↦ True :=
  hf.bind fun _ _ ↦ hg

theorem prints_line (h : Leads loose markup opened left new) :
    Prints loose opened (new ++ pending) (change (·.emitLine markup)) (fun _ ↦ left)
      (fun _ ↦ pending) fun _ ↦ True :=
  fun _ _ ↦ ensures_change fun _ hs ↦
    ⟨trivial, hs.1.emitLine hs.2 h, writable_append hs.2 _⟩

theorem prints_line_bare (h : Leads loose markup opened left []) :
    Prints loose opened pending (change (·.emitLine markup)) (fun _ ↦ left) (fun _ ↦ pending)
      fun _ ↦ True :=
  show Prints loose opened ([] ++ pending) _ _ _ _ from prints_line h

/-- A line with everything that was pending. -/
theorem prints_emitLine (h : Leads loose markup opened left new) :
    Prints loose opened new (change (·.emitLine markup)) (fun _ ↦ left) (fun _ ↦ [])
      fun _ ↦ True := by
  have line : Prints loose opened (new ++ []) _ _ _ _ := prints_line h
  rwa [List.append_nil] at line

/-- Something is noted that is no markup. -/
theorem prints_note {f : Document → Document} (h : ∀ d, (f d).sight = d.sight) :
    Prints loose opened pending (change f) (fun _ ↦ opened) (fun _ ↦ pending) fun _ ↦ True := by
  refine fun _ _ ↦ ensures_change fun s hs ↦ ⟨trivial, hs.1.of_sight (h _), fun hc ↦ ?_⟩
  have ho : (f s.document).output = s.document.output := congrArg (·.2.1) (h s.document)
  have hp : (f s.document).phase = s.document.phase := congrArg (·.2.2.1) (h s.document)
  change (f s.document).output.captures = [] at hc
  change (f s.document).phase ≠ .start
  rw [ho] at hc
  rw [hp]
  exact hs.2 hc

theorem prints_offer {take : FrameState → Option FrameState}
    (h : FrameState.Takes loose new take) :
    Prints loose opened (new ++ pending) (change (·.offer take)) (fun _ ↦ opened)
      (fun _ ↦ pending) fun _ ↦ True :=
  fun _ _ ↦ ensures_change fun _ hs ↦ ⟨trivial, hs.1.offer h, hs.2⟩

theorem prints_offerSeries {take : FrameState → Option FrameState}
    (h : FrameState.Takes loose new take) :
    Prints loose opened (new ++ pending) (change (·.offerSeries take)) (fun _ ↦ opened)
      (fun _ ↦ pending) fun _ ↦ True :=
  fun _ _ ↦ ensures_change fun _ hs ↦ ⟨trivial, hs.1.offerSeries h, hs.2⟩

theorem spares_resolve (label : Option Label) (number : String) :
    Spares loose pending (resolve label number) fun _ ↦ True := by
  cases label with
  | none => exact prints_pure trivial rfl rfl
  | some label =>
    exact prints_current fun _ _ ↦ spares_refuse.bind fun _ _ ↦ prints_note fun _ ↦ rfl

theorem spares_createPicture (path : Path) (picture : Picture) :
    Spares loose pending (Session.createPicture path picture) fun _ ↦ True := by
  intro budget phase s hs
  unfold Session.createPicture
  rw [bind_get]
  cases s.files.create path (.picture picture) with
  | error error => exact hs.1.forget
  | ok made => exact ⟨trivial, hs⟩

theorem closed_join {passages : List Passage}
    (h : ∀ passage ∈ passages, Closed loose passage.markup []) :
    Closed loose (Passage.join passages).markup [] := by
  induction passages with
  | nil => exact closed_empty
  | cons passage passages ih =>
    rw [List.forall_mem_cons] at h
    exact h.1.append (ih h.2)

/-- A phrase is closed, whatever its texts and targets are. -/
theorem prints_appendPhrase (phrase : Phrase) :
    Prints loose opened pending (change (·.appendPhrase backend phrase)) (fun _ ↦ opened)
      (fun _ ↦ pending) fun _ ↦ True := by
  refine prints_bare fun _ _ ↦ Closed.leads (closed_join fun passage hm ↦ ?_) opened
  obtain ⟨span, _, rfl⟩ := List.mem_map.mp hm
  cases span with
  | text s => exact closed_escape s
  | space => exact closed_noBreakSpace
  | emphasized s => exact closed_plain (by decide) (closed_escape s)
  | link target s => exact closed_link target (closed_escape s)

end Changes

end Action

end Manuscript
