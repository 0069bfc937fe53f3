import Manuscript.Proofs.CrossRef.Key
import Manuscript.Proofs.Document.Shape
import Manuscript.Proofs.Xhtml.Backend

/-!
# Sheets

A sheet is the root of the output or one capture. What an open element has written at its start
stands on the sheet of the element around it, and what its labels will be called there is known
before it is written. `Sheets` follows the open elements from the innermost to the root: every
sheet leaves open what the elements on it have opened, and no sheet but the root gets identifiers
other than loose ones.
-/

namespace Manuscript

open Markup Xhtml

/-! ### What an open element has opened and will name -/

/-- The identifier of an element that may carry a label. -/
def anchorOf (label : Option Label) : List String := (label.map Label.key).toList

/-- A key is written as it is. -/
theorem escaped_anchor (label : Option Label) :
    ((label.map Label.key).map escape).toList = anchorOf label := by
  cases label with
  | none => rfl
  | some label => exact congrArg (fun key ↦ [key]) (escape_eq_self label.isNameChar_of_mem_key)

/-- The identifier of a figure that waits for its number. -/
def PendingFigure.held (figure : PendingFigure) : List String := anchorOf figure.label

/-- The identifiers of a figure series that waits for its number, and of its sub-figures. -/
def PendingSeries.held (series : PendingSeries) : List String :=
  anchorOf series.label ++ series.groups.flatten.flatMap PendingFigure.held

namespace FrameState

/-- What the start of an element of the kind leaves open, the innermost first. -/
def tags (kind : Kind) : FrameState → List String
  | plain =>
    match kind with
    | .header => ["head"]
    | .body => ["body"]
    | .sectionBody => ["div"]
    | .paragraph => ["p"]
    | .tablePage => ["tbody"]
    | .inlineMath | .mathName => ["span"]
    | .item => ["li"]
    | _ => []
  | sect _ _ => ["div"]
  | tableRow _ _ => ["tr"]
  | tableCell header => [cellName header]
  | styled style => [inlineName style]
  | list ordered => [listName ordered]
  | _ => []

/-- The identifiers that the element still has to write. -/
def held : FrameState → List String
  | figure f | subFigure f => f.held
  | figureSeries s => s.held
  | table t => anchorOf t.label
  | equation label => anchorOf label
  | _ => []

@[simp] theorem tags_shape (kind : Kind) (state : FrameState) :
    state.shape.tags kind = state.tags kind := by
  cases state <;> rfl

end FrameState

namespace Frame

/-- What the start of the element leaves open, the innermost first. -/
def tags (frame : Frame) : List String := frame.state.tags frame.kind

/-- The identifiers that the element still has to write. -/
def held (frame : Frame) : List String := frame.state.held

end Frame

/-! ### Sheets -/

/-- Every sheet leaves open what the open elements on it have opened. `opened` and `pending` are
what is open above the innermost of `frames`, and the identifiers that are still to be written
there; `root` says what is open and to be written at the root. -/
inductive Sheets (loose : String → Prop) (root : List String → List String → Prop) :
    List String → List String → Frames → List Passage → Prop where
  | bottom {opened pending : List String} :
    root opened pending → Sheets loose root opened pending [] []
  | within {opened pending : List String} {frame : Frame} {outer : Frames}
      {captures : List Passage} :
    frame.captured = false →
      Sheets loose root (opened ++ frame.tags) (pending ++ frame.held) outer captures →
        Sheets loose root opened pending (frame :: outer) captures
  | apart {opened pending : List String} {frame : Frame} {outer : Frames} {capture : Passage}
      {captures : List Passage} :
    frame.captured = true → Leads loose capture.markup [] opened [] →
      (∀ id ∈ pending, loose id) → Sheets loose root frame.tags frame.held outer captures →
        Sheets loose root opened pending (frame :: outer) (capture :: captures)

namespace Sheets

variable {loose : String → Prop} {root root' : List String → List String → Prop}
  {opened left pending pending' new : List String} {frames : Frames} {captures : List Passage}
  {capture passage : Passage} {text : String}

/-- Identifiers may be promised on the root, loose ones on every sheet, and any number of promises
may be forgotten. -/
theorem grant (h : Sheets loose root opened pending frames captures)
    (hn : captures ≠ [] → ∀ id ∈ new, loose id)
    (hr : ∀ opened pending pending', Covered loose pending' (pending ++ new) →
      root opened pending → root' opened pending')
    (hp : Covered loose pending' (pending ++ new)) :
    Sheets loose root' opened pending' frames captures := by
  induction h generalizing pending' with
  | bottom h => exact .bottom (hr _ _ _ hp h)
  | @within opened pending frame _ _ hc _ ih =>
    refine .within hc (ih hn ?_)
    have swapped : (pending ++ new ++ frame.held).Perm (pending ++ frame.held ++ new) := by
      rw [List.append_assoc, List.append_assoc]
      exact List.perm_append_comm.append_left pending
    exact (hp.append (.refl frame.held)).trans (.of_perm swapped)
  | @apart opened pending frame _ _ _ hc hl hi _ ih =>
    refine .apart hc hl (hp.forall_loose fun id hm ↦ ?_) (ih (fun _ ↦ hn (List.cons_ne_nil _ _)) ?_)
    · rcases List.mem_append.mp hm with hm | hm
      · exact hi id hm
      · exact hn (List.cons_ne_nil _ _) id hm
    · exact .of_sublist (List.sublist_append_left _ _)

section Shrinking

variable (hr : ∀ opened pending pending', Covered loose pending' pending →
  root opened pending → root opened pending')

include hr

/-- Promises may be forgotten. -/
theorem mono (h : Sheets loose root opened pending frames captures)
    (hp : Covered loose pending' pending) :
    Sheets loose root opened pending' frames captures := by
  have hp' : Covered loose pending' (pending ++ []) := by rwa [List.append_nil]
  refine h.grant (fun _ _ hm ↦ by cases hm) (fun _ _ _ hp h ↦ ?_) hp'
  rw [List.append_nil] at hp
  exact hr _ _ _ hp h

/-- A frame may be exchanged for one on the same sheet that has taken over what was pending. -/
theorem exchange {frame frame' : Frame} {outer : Frames}
    (h : Sheets loose root opened (new ++ pending) (frame :: outer) captures)
    (hc : frame'.captured = frame.captured) (ht : frame'.tags = frame.tags)
    (hh : Covered loose frame'.held (frame.held ++ new)) :
    Sheets loose root opened pending (frame' :: outer) captures := by
  cases h with
  | within hcap h =>
    refine .within (hc.trans hcap) ?_
    rw [ht]
    refine h.mono hr (((Covered.refl pending).append hh).trans (.of_perm ?_))
    rw [← List.append_assoc]
    exact List.perm_append_comm.trans (List.append_assoc .. ▸ .refl _)
  | apart hcap hl hi h =>
    refine .apart (hc.trans hcap) hl (fun id hm ↦ hi id (List.mem_append_right _ hm)) ?_
    rw [ht]
    refine h.mono hr (hh.trans ?_)
    have hn : Covered loose new [] := .of_forall_loose fun id hm ↦ hi id (List.mem_append_left _ hm)
    exact ((Covered.refl frame.held).append hn).trans (.of_perm (List.append_nil _ ▸ .refl _))

/-- What is pending may be handed to the innermost element. -/
theorem changeTop? {take : FrameState → Option FrameState} {next : Frames}
    (hs : FrameState.KeepsShape take)
    (hh : ∀ state taken, take state = some taken → Covered loose taken.held (state.held ++ new))
    (h : Sheets loose root opened (new ++ pending) frames captures)
    (hc : frames.changeTop? take = some next) :
    Sheets loose root opened pending next captures := by
  cases frames with
  | nil => cases hc
  | cons frame outer =>
    obtain ⟨state, ht, rfl⟩ := Option.map_eq_some_iff.mp hc
    refine h.exchange hr rfl ?_ (hh _ _ ht)
    rw [Frame.tags, ← FrameState.tags_shape, hs _ _ ht, FrameState.tags_shape, Frame.tags]

/-- What is pending may be handed to a series further out. If the series stands on another sheet,
only loose identifiers are pending. -/
theorem changeSeries? {take : FrameState → Option FrameState} {next : Frames}
    (hs : FrameState.KeepsShape take)
    (hh : ∀ state taken, take state = some taken → Covered loose taken.held (state.held ++ new))
    (h : Sheets loose root opened (new ++ pending) frames captures)
    (hc : frames.changeSeries? take = some next) :
    Sheets loose root opened pending next captures := by
  induction frames generalizing opened pending captures next with
  | nil => cases hc
  | cons frame outer ih =>
    rw [Frames.changeSeries?] at hc
    split at hc
    · exact h.changeTop? hr hs hh hc
    · obtain ⟨rest, ht, rfl⟩ := Option.map_eq_some_iff.mp hc
      cases h with
      | within hcap h =>
        rw [List.append_assoc] at h
        exact .within hcap (ih h ht)
      | apart hcap hl hi h =>
        refine .apart hcap hl (fun id hm ↦ hi id (List.mem_append_right _ hm)) (ih ?_ ht)
        refine h.mono hr ?_
        have hn : Covered loose new [] :=
          .of_forall_loose fun id hm ↦ hi id (List.mem_append_left _ hm)
        exact hn.append (.refl frame.held)

end Shrinking

/-- What is written at the root leads on from what is open there. -/
theorem write_root {above : List String}
    (h : Sheets loose root (opened ++ above) (new ++ pending) frames [])
    (hr : ∀ above pending, root (opened ++ above) (new ++ pending) →
      root' (left ++ above) pending) : Sheets loose root' (left ++ above) pending frames [] := by
  generalize hc : ([] : List Passage) = captures at h
  generalize ho : opened ++ above = opened' at h
  generalize hp : new ++ pending = pending' at h
  induction h generalizing above pending with
  | bottom h =>
    subst ho hp
    exact .bottom (hr _ _ h)
  | within hcap _ ih =>
    subst ho hp
    refine .within hcap ?_
    rw [List.append_assoc]
    exact ih hc (List.append_assoc ..).symm (List.append_assoc ..).symm
  | apart => cases hc

/-- What is written into a capture leads on from what is open there, and gives loose identifiers
alone. -/
theorem write_capture {above : List String}
    (h : Sheets loose root (opened ++ above) (new ++ pending) frames (capture :: captures))
    (ht : Leads loose passage.markup opened left new) :
    Sheets loose root (left ++ above) pending frames ((capture ++ passage) :: captures) := by
  generalize hc : capture :: captures = captures' at h
  generalize ho : opened ++ above = opened' at h
  generalize hp : new ++ pending = pending' at h
  induction h generalizing above pending with
  | bottom => cases hc
  | within hcap _ ih =>
    subst ho hp
    refine .within hcap ?_
    rw [List.append_assoc]
    exact ih hc (List.append_assoc ..).symm (List.append_assoc ..).symm
  | apart hcap hl hi outer _ =>
    subst ho hp
    cases hc
    refine .apart hcap ?_ (fun id hm ↦ hi id (List.mem_append_right _ hm)) outer
    exact (hl.append (ht.frame above)).mono
      (.of_forall_loose fun id hm ↦ hi id (List.mem_append_left _ hm))

end Sheets

end Manuscript
