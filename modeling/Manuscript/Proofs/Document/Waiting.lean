import Manuscript.Proofs.Document.Reception
import Manuscript.Proofs.Document.Turning
import Mathlib.Data.List.Perm.Subperm

/-!
# Labels that wait

A label waits while its element is open, and the label of a sub-figure until its series ends. Ends
only move labels from an element to the one around it, or let go of them (`Ledger.carried_takeOff`).
So the labels that wait stay known, and no series is handed more sub-figures than there are letters.
-/

namespace Manuscript

open scoped List

namespace FrameState

variable {state : FrameState}

/-- An element has no sub-figures when it begins. -/
theorem members_of_fresh (h : state.shape = state) : state.members = [] := by
  rw [← h]
  cases state <;> rfl

theorem members_add (series : PendingSeries) (figure : PendingFigure) :
    (figureSeries (series.add figure)).members =
      (figureSeries series).members ++ [figure.label] := by
  simp [members, PendingSeries.groups, PendingSeries.add]

/-- A series that takes a sub-figure waits with its label too. -/
theorem carried_takeSubFigure? {label : Option Label} {next : FrameState}
    (h : state.takeSubFigure? { label } = some next) :
    next.carried ~ label.toList ++ state.carried := by
  cases state with
  | figureSeries series =>
    cases h
    have last : [label].filterMap id = label.toList := by cases label <;> rfl
    rw [carried, carried, members_add, List.filterMap_append, last, ← List.append_assoc]
    exact List.perm_append_comm
  | _ => cases h

theorem carried_of_fresh (h : state.shape = state) : state.carried = state.label?.toList := by
  rw [carried, members_of_fresh h, List.filterMap_nil, List.append_nil]

end FrameState

namespace Frames

variable {frames : Frames}

/-- The series that takes a sub-figure has its label, and nothing else changes. -/
theorem carried_changeSeries? {label : Option Label} {next : Frames}
    (h : frames.changeSeries? (FrameState.takeSubFigure? { label }) = some next) :
    next.carried ~ label.toList ++ frames.carried := by
  induction frames generalizing next with
  | nil => cases h
  | cons frame outer ih =>
    rw [changeSeries?] at h
    split at h
    · obtain ⟨state, hs, rfl⟩ := Option.map_eq_some_iff.mp h
      simp only [carried, List.flatMap_cons]
      rw [← List.append_assoc]
      exact (FrameState.carried_takeSubFigure? hs).append_right _
    · obtain ⟨rest, hr, rfl⟩ := Option.map_eq_some_iff.mp h
      simp only [carried, List.flatMap_cons]
      exact ((ih hr).append_left _).trans (by
        rw [← List.append_assoc, ← List.append_assoc]
        exact List.perm_append_comm.append_right _)

/-- A sub-figure that ends leaves its label to the series, if there is one. -/
theorem carried_gather (label : Option Label) (frames : Frames) :
    (frames.gather label).carried <+~ label.toList ++ frames.carried := by
  rw [gather]
  cases h : frames.changeSeries? (FrameState.takeSubFigure? { label }) with
  | none => exact (List.sublist_append_right _ _).subperm
  | some next => exact (carried_changeSeries? h).subperm

/-- No label is lost when a sub-figure ends. -/
theorem carried_subset_gather (label : Option Label) (frames : Frames) :
    frames.carried ⊆ (frames.gather label).carried := by
  rw [gather]
  cases h : frames.changeSeries? (FrameState.takeSubFigure? { label }) with
  | none => exact List.Subset.refl _
  | some next =>
    exact fun _ hl ↦ (carried_changeSeries? h).mem_iff.mpr (List.mem_append_right _ hl)

/-- A series has a letter for each of its sub-figures, and for the one that is open inside it. -/
def Roomy : Frames → Prop
  | [] => True
  | frame :: outer =>
    frame.state.members.length ≤ Limit.maxSubFigures ∧
      (frame.kind = .subFigure →
        ∀ count ∈ subFigureCount? outer, count < Limit.maxSubFigures) ∧ Roomy outer

/-- What is no series hands a sub-figure on to the elements around it. -/
theorem gather_cons_of_ne {label : Option Label} {frame : Frame} {outer : Frames}
    (h : frame.kind ≠ .figureSeries) :
    gather label (frame :: outer) = frame :: gather label outer := by
  rw [gather, gather, changeSeries?, if_neg h]
  cases changeSeries? (FrameState.takeSubFigure? { label }) outer <;> rfl

theorem gather_cons {label : Option Label} {frame : Frame} {outer : Frames}
    {series : PendingSeries} (hk : frame.kind = .figureSeries)
    (hs : frame.state = .figureSeries series) :
    gather label (frame :: outer) =
      { frame with state := .figureSeries (series.add { label }) } :: outer := by
  rw [gather, changeSeries?, if_pos hk, changeTop?, hs]
  rfl

theorem subFigureCount?_cons_of_ne {frame : Frame} {outer : Frames}
    (h : frame.kind ≠ .figureSeries) :
    subFigureCount? (frame :: outer) = subFigureCount? outer := by
  rw [subFigureCount?, subFigureCount?, series?, series?,
    List.find?_cons_of_neg (by simpa using h)]

theorem subFigureCount?_cons {frame : Frame} {outer : Frames} {series : PendingSeries}
    (hk : frame.kind = .figureSeries) (hs : frame.state = .figureSeries series) :
    subFigureCount? (frame :: outer) = some series.count := by
  rw [subFigureCount?, series?, List.find?_cons_of_pos (by simpa using hk), Option.map_some, hs]

/-- A series with room for a sub-figure that is open inside it takes it when it ends. -/
theorem Roomy.gather {label : Option Label} (h : frames.Roomy) (hn : frames.Nested)
    (allowed : Kind.subFigure.allowedIn frames.innermost = true)
    (room : ∀ count ∈ frames.subFigureCount?, count < Limit.maxSubFigures) :
    (frames.gather label).Roomy := by
  obtain ⟨series, outer, pending, hk, hs, hf⟩ := hn.exists_series allowed
  have gathered (h : Roomy (series :: outer))
      (room : ∀ count ∈ subFigureCount? (series :: outer), count < Limit.maxSubFigures) :
      (Frames.gather label (series :: outer)).Roomy := by
    have few : pending.count < Limit.maxSubFigures :=
      room pending.count (subFigureCount?_cons hk hs)
    rw [gather_cons hk hs]
    refine ⟨?_, fun hc ↦ (by cases hk.symm.trans hc), h.2.2⟩
    rw [FrameState.members_add, List.length_append, FrameState.length_members]
    exact few
  obtain rfl | ⟨page, hp, rfl⟩ := hf
  · exact gathered h room
  · have other : page.kind ≠ .figureSeries := by rw [hp]; decide
    rw [subFigureCount?_cons_of_ne other] at room
    rw [gather_cons_of_ne other]
    exact ⟨h.1, fun hc ↦ (by cases hp.symm.trans hc), gathered h.2.2 room⟩

end Frames

namespace Ledger

variable {l l' : Ledger} {call : Call} {answer : Except DocumentError Reply}

/-- When an element has been taken off and counted, no label waits that did not wait before. -/
theorem carried_count (l : Ledger) (state : FrameState) :
    (l.count state).frames.carried <+~ state.carried ++ l.frames.carried := by
  cases state with
  | subFigure figure =>
    have gathered := Frames.carried_gather figure.label l.frames
    rwa [show figure.label.toList = (FrameState.subFigure figure).carried from
      (List.append_nil _).symm] at gathered
  | _ => exact (List.sublist_append_right _ _).subperm

theorem carried_subset_count (l : Ledger) (state : FrameState) :
    l.frames.carried ⊆ (l.count state).frames.carried := by
  cases state with
  | subFigure figure => exact Frames.carried_subset_gather figure.label l.frames
  | _ => exact List.Subset.refl _

theorem carried_takeOff {frame : Frame} {outer : Frames} (h : l.frames = frame :: outer) :
    (l.takeOff frame outer).frames.carried <+~ l.frames.carried := by
  have counted := carried_count { l with frames := outer } frame.state
  rwa [show frame.state.carried ++ Frames.carried outer = l.frames.carried by rw [h]; rfl]
    at counted

theorem labels_takeOff (l : Ledger) (frame : Frame) (outer : Frames) :
    (l.takeOff frame outer).labels = l.labels := by
  unfold takeOff count
  split <;> rfl

/-- Once an element has begun its label waits too. -/
theorem Admits.carried_push {element : Element} {frame : Frame} (admits : l.Admits element frame) :
    (l.push frame).frames.carried = element.label?.toList ++ l.frames.carried := by
  rw [push, Frames.carried, List.flatMap_cons, Frame.bare, FrameState.carried_bare,
    FrameState.carried_of_fresh admits.fresh, admits.label]
  rfl

theorem extends_push (l : Ledger) (frame : Frame) :
    (l.push frame).labels.Extends l.labels := by
  unfold push
  cases frame.state.label? with
  | none => exact .refl _
  | some label => exact l.labels.extends_attach label

/-- The labels that wait are known, and no series has more sub-figures than there are letters. -/
structure Lettered (l : Ledger) : Prop where
  known : ∀ label ∈ l.frames.carried, l.labels.fault label = none
  roomy : l.frames.Roomy

/-- The labels that get numbers when an element has been taken off are known. -/
theorem Lettered.fault_of_mem_numbers (h : l.Lettered) {frame : Frame} {outer : Frames}
    {n : Label × String} (hf : l.frames = frame :: outer)
    (hn : n ∈ (l.takeOff frame outer).numbers frame) :
    (l.takeOff frame outer).labels.fault n.1 = none := by
  rw [labels_takeOff]
  exact h.known n.1 (mem_carried_of_mem_numbers hf hn)

/-- The innermost element has a letter for each of its sub-figures. -/
theorem Lettered.length_members_le (h : l.Lettered) {frame : Frame} {outer : Frames}
    (hf : l.frames = frame :: outer) : frame.state.members.length ≤ Limit.maxSubFigures := by
  have roomy := h.roomy
  rw [hf] at roomy
  exact roomy.1

/-- Giving numbers to labels and storing images leaves the labels that wait. -/
theorem Lettered.settle (h : l.Lettered) (numbers : List (Label × String)) (stored : List Path) :
    (l.settle numbers stored).Lettered where
  known label hl := (Registry.extends_number l.labels numbers).fault (h.known label hl)
  roomy := h.roomy

theorem Lettered.takeOff (h : l.Lettered) (nested : l.frames.Nested) {frame : Frame}
    {outer : Frames} (hf : l.frames = frame :: outer) : (l.takeOff frame outer).Lettered where
  known label hl := by
    rw [labels_takeOff]
    exact h.known label ((carried_takeOff hf).subset hl)
  roomy := by
    have roomy := h.roomy
    rw [hf] at roomy nested
    have suits := nested.1.suits
    rw [Ledger.takeOff]
    generalize hs : frame.state = state at suits
    cases state with
    | subFigure figure =>
      have hk : frame.kind = .subFigure := eq_of_beq suits
      exact roomy.2.2.gather nested.2 (hk ▸ nested.1.allowed) (roomy.2.1 hk)
    | _ => exact roomy.2.2

theorem Lettered.push (h : l.Lettered) {element : Element} {frame : Frame}
    (admits : l.Admits element frame) : (l.push frame).Lettered where
  known label hl := by
    rw [admits.carried_push, List.mem_append] at hl
    refine (l.extends_push frame).fault (hl.elim (fun hl ↦ ?_) (h.known label))
    obtain ⟨owner, entry, he, _⟩ := Registry.exists_entry_of_attachFault
      (admits.attachable label (Option.mem_toList.mp hl))
    exact Registry.fault_eq_none_iff.mpr ⟨owner, (List.getElem?_eq_some_iff.mp he).1⟩
  roomy := by
    refine ⟨?_, fun hk ↦ admits.room (admits.kind.symm.trans hk), h.roomy⟩
    rw [Frame.bare, FrameState.members_bare, FrameState.members_of_fresh admits.fresh]
    exact Nat.zero_le _

/-- Every step keeps the labels that wait known, and leaves the series their letters. -/
theorem Lettered.step (h : l.Lettered) (nested : l.frames.Nested) (hs : l.Step call answer l') :
    l'.Lettered := by
  cases hs with
  | refused _ | written _ _ _ => exact h
  | created target =>
    exact ⟨fun label hl ↦ (l.labels.extends_create target).fault (h.known label hl), h.roomy⟩
  | begun admits => exact h.push admits
  | ended stored hf => exact (h.takeOff nested hf).settle _ stored
  | @failed frame outer error l' hf hs =>
    cases hs with
    | picture stored _ _ => exact (h.takeOff nested hf).settle _ stored
    | operands _ =>
      refine ⟨fun label hl ↦ h.known label ?_, ?_⟩
      · rw [hf, Frames.carried, List.flatMap_cons]
        exact List.mem_append_right _ hl
      · have roomy := h.roomy
        rw [hf] at roomy
        exact roomy.2.2

end Ledger

end Manuscript
