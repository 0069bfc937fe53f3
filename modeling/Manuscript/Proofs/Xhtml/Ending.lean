import Manuscript.Proofs.Xhtml.Settled

/-!
# Ending elements of a settled document

The end of an element leaves the document settled, also if it is refused: what was held back for
the element is closed markup, and closing the element closes what its start has opened. The end of
the body alone brings new identifiers, those of the cited works.
-/

namespace Manuscript

open Markup Xhtml

/-! ### Frames that have been taken off -/

/-- The phase of a document in which an element of the kind has been ended. -/
def Phase.ended (phase : Phase) : Kind → Phase
  | .header => .headerDone
  | .body => .done
  | _ => phase

theorem Phase.ended_eq {phase : Phase} {kind : Kind} (hh : kind ≠ .header) (hb : kind ≠ .body) :
    phase.ended kind = phase := by
  cases kind with
  | header => exact absurd rfl hh
  | body => exact absurd rfl hb
  | _ => rfl

/-- The identifiers that the end of an element of the kind brings. -/
def Document.brought (d : Document) (kind : Kind) : List String :=
  if kind = .body then d.bibliography.works.map (escape ·.key) else []

/-- The innermost frame of a settled document has been taken off, and its end is to be written. -/
structure Document.Released (loose : String → Prop) (d : Document) (frame : Frame)
    (outer : Frames) (r : Document) : Prop where
  frames : r.frames = outer
  captures : r.output.captures.length = outer.countP Frame.captured
  labels : r.labels = d.labels
  bibliography : r.bibliography = d.bibliography
  legible : r.Legible loose d.anchors d.phase frame.tags frame.held

variable {loose : String → Prop} {d r : Document} {frame : Frame} {outer : Frames}
  {captured : Passage}

/-- What was held back for the innermost element is closed markup, and once the element has been
taken off its end is to be written. -/
theorem Document.Settled.released_pop (h : d.Settled loose) (hf : d.frames = frame :: outer) :
    Closed loose d.held.markup [] ∧ d.Released loose frame outer d.pop := by
  have sheets := h.legible.sheets
  have sound := h.legible.frames
  have captures := h.nested.pop.captures_eq
  rw [Document.frames_pop hf] at captures
  rw [hf] at sheets sound
  have around := (List.forall_mem_cons.mp sound).2
  generalize hs : d.output.captures = all at sheets
  obtain ⟨hc, held, popped⟩ | ⟨rest, hc, ho, popped⟩ := h.nested.pop_cases hf
  · rw [held]
    rw [popped] at captures ⊢
    cases sheets with
    | within _ sheets =>
      rw [← hs] at sheets
      exact ⟨closed_empty, rfl, captures, rfl, rfl,
        ⟨rfl, sheets, around, h.legible.head, h.legible.macros⟩⟩
    | apart held => cases hc.symm.trans held
  · rw [popped] at captures ⊢
    cases sheets with
    | within free => cases hc.symm.trans free
    | apart _ closed _ sheets =>
      obtain ⟨rfl, rfl⟩ := List.cons.inj (hs.symm.trans ho)
      exact ⟨closed, rfl, captures, rfl, rfl,
        ⟨rfl, sheets, around, h.legible.head, h.legible.macros⟩⟩

/-! ### Closing -/

namespace FrameState

variable {state : FrameState}

theorem eq_macroDefinition_of_suits (h : state.suits .macroDefinition = true) :
    ∃ signature, state = .macroDefinition signature := by
  cases state with
  | macroDefinition signature => exact ⟨signature, rfl⟩
  | styled style => cases style <;> cases h
  | list ordered => cases ordered <;> cases h
  | _ => cases h

theorem kind_of_suits_macroDefinition {kind : Kind} {signature : Macro.Signature}
    (h : (macroDefinition signature).suits kind = true) : kind = .macroDefinition := beq_iff_eq.mp h

end FrameState

namespace Document.Released

/-- Something may be written behind an element that cannot be begun at the root. -/
theorem writable (h : d.Released loose frame outer r) (hn : frame.StandsOn outer)
    (ho : Frames.Nested outer) (hp : ∀ frame ∈ outer, frame.Placed d.phase d.labels)
    (hr : frame.kind.allowedAtRoot = false) : r.Writable := by
  refine Document.writable (h.frames ▸ ho) (h.frames ▸ h.captures) ?_ fun hf ↦ ?_
  · rw [h.frames, h.legible.phase_eq, h.labels]
    exact hp
  · have allowed := hn.allowed
    rw [← h.frames, hf] at allowed
    exact Bool.false_ne_true (hr.symm.trans allowed)

end Document.Released

namespace Session

open Action

section Closing

variable (h : d.Released loose frame outer r) (stands : frame.StandsOn outer)
  (placed : frame.Placed d.phase d.labels)

include h stands placed

/-- The end of the header closes the head. -/
theorem legible_closeFrame_header (hk : frame.kind = .header) :
    Ensures (·.document = r) (closeFrame backend frame captured)
      (fun _ s ↦ s.document.Legible loose d.anchors .headerDone [] []) fun _ _ ↦ False := by
  have legible := h.legible
  rw [placed.header hk] at legible
  obtain ⟨kind, held, state⟩ := frame
  obtain rfl : kind = .header := hk
  obtain rfl := FrameState.eq_plain_of_suits rfl (fun hk ↦ by cases hk) stands.suits
  refine ensures_closeHeader.mono (fun s hs ↦ ?_) (fun _ _ hs ↦ hs) fun _ _ hs ↦ hs
  obtain rfl : s.document = r := hs
  exact legible

/-- The end of the body brings the identifiers of the reference list. -/
theorem legible_closeFrame_body (hk : frame.kind = .body) :
    Ensures (·.document = r) (closeFrame backend frame captured)
      (fun _ s ↦ s.document.Legible loose
        (d.anchors ++ d.bibliography.works.map (escape ·.key)) .done [] [])
      fun _ _ ↦ False := by
  have legible := h.legible
  rw [placed.body hk] at legible
  obtain ⟨kind, held, state⟩ := frame
  obtain rfl : kind = .body := hk
  obtain rfl := FrameState.eq_plain_of_suits rfl (fun hk ↦ by cases hk) stands.suits
  have root : outer = [] := stands.eq_nil rfl fun _ ↦ rfl
  refine (ensures_closeBody d.bibliography.works).mono (fun s hs ↦ ?_) (fun _ _ hs ↦ hs)
    fun _ _ hs ↦ hs
  obtain rfl : s.document = r := hs
  exact ⟨h.frames.trans root, congrArg _ h.bibliography, legible⟩

/-- Any other element closes what it has opened, and writes the identifiers that it has held. -/
theorem legible_closeFrame_element (nested : outer.Nested)
    (around : ∀ frame ∈ outer, frame.Placed d.phase d.labels) (sound : frame.state.Sound loose)
    (closed : Closed loose captured.markup []) (hh : frame.kind ≠ .header)
    (hb : frame.kind ≠ .body) :
    Ensures (·.document = r) (closeFrame backend frame captured)
      (fun _ s ↦ s.document.Legible loose d.anchors d.phase [] [])
      fun _ s ↦ s.document.Legible loose d.anchors d.phase [] [] := by
  have legible := h.legible
  by_cases hd : frame.kind = .macroDefinition
  · obtain ⟨kind, held, state⟩ := frame
    obtain rfl : kind = .macroDefinition := hd
    obtain ⟨signature, rfl⟩ := FrameState.eq_macroDefinition_of_suits stands.suits
    refine (ensures_closeDefinition signature closed).mono (fun s hs ↦ ?_) (fun _ _ hs ↦ hs)
      fun _ _ hf ↦ hf.elim
    obtain rfl : s.document = r := hs
    exact legible
  -- What is neither of these three is begun inside another element.
  have root : frame.kind.allowedAtRoot = false := by
    revert hh hb hd
    cases frame.kind <;> decide
  have writable := h.writable stands nested around root
  by_cases hs : ∃ label path, frame.state = .sect label path
  · obtain ⟨kind, held, state⟩ := frame
    obtain ⟨label, path, rfl⟩ := hs
    refine (ensures_closeSection label path).mono (fun s hs ↦ ?_) (fun _ _ hs ↦ hs)
      fun _ _ hf ↦ hf.elim
    obtain rfl : s.document = r := hs
    refine ⟨fun l hl ↦ ?_, legible, writable⟩
    rw [h.labels]
    exact placed.label l hl
  · have finished : Finishes loose frame.tags frame.held (closeFrame backend frame captured) :=
      finishes_closeFrame hh hb (fun label path he ↦ hs ⟨label, path, he⟩)
        (fun signature he ↦ hd (FrameState.kind_of_suits_macroDefinition (he ▸ stands.suits)))
        sound closed
    refine (finished d.anchors d.phase).mono (fun s hs ↦ ?_) (fun _ _ hs ↦ hs.2.1)
      fun _ _ hs ↦ hs
    obtain rfl : s.document = r := hs
    exact ⟨legible, writable⟩

end Closing

/-- What is closed leaves the document legible, with the identifiers that it brings and in the phase
that it comes to. The end of the header or of the body is not refused. -/
theorem legible_closeFrame (h : d.Released loose frame outer r) (stands : frame.StandsOn outer)
    (nested : outer.Nested) (around : ∀ frame ∈ outer, frame.Placed d.phase d.labels)
    (placed : frame.Placed d.phase d.labels) (sound : frame.state.Sound loose)
    (closed : Closed loose captured.markup []) :
    Ensures (·.document = r) (closeFrame backend frame captured)
      (fun _ s ↦ s.document.Legible loose (d.anchors ++ d.brought frame.kind)
        (d.phase.ended frame.kind) [] [])
      fun _ s ↦ d.phase.ended frame.kind = d.phase ∧ s.document.Legible loose
        (d.anchors ++ d.brought frame.kind) (d.phase.ended frame.kind) [] [] := by
  by_cases hb : frame.kind = .body
  · rw [Document.brought, if_pos hb, hb]
    exact (legible_closeFrame_body h stands placed hb).mono (fun _ hs ↦ hs) (fun _ _ hs ↦ hs)
      fun _ _ hf ↦ hf.elim
  rw [Document.brought, if_neg hb, List.append_nil]
  by_cases hh : frame.kind = .header
  · rw [hh]
    exact (legible_closeFrame_header h stands placed hh).mono (fun _ hs ↦ hs) (fun _ _ hs ↦ hs)
      fun _ _ hf ↦ hf.elim
  rw [Phase.ended_eq hh hb]
  exact (legible_closeFrame_element h stands placed nested around sound closed hh hb).mono
    (fun _ hs ↦ hs) (fun _ _ hs ↦ hs) fun _ _ hs ↦ ⟨rfl, hs⟩

end Session

/-! ### The document afterwards -/

/-- Only the header and the body change the phase, and nothing is open around them. -/
theorem Frame.StandsOn.phase_ended (h : frame.StandsOn outer) (hn : outer ≠ []) (phase : Phase) :
    phase.ended frame.kind = phase :=
  Phase.ended_eq (fun hk ↦ hn (h.eq_nil hk fun _ ↦ rfl)) fun hk ↦ hn (h.eq_nil hk fun _ ↦ rfl)

namespace Document.Released

variable {e : Document}

/-- Labels and works are the same when the end has been written. -/
theorem covered (h : d.Released loose frame outer r) (placed : frame.Placed d.phase d.labels)
    (hs : e.standing.bound = r.standing.bound) (hp : e.phase = d.phase.ended frame.kind) :
    Covered loose (d.anchors ++ d.brought frame.kind) e.anchors := by
  have owner : e.labels.owner = r.labels.owner := congrArg (·.1.labels.owner) hs
  have keys : e.labels.attachedKeys = d.labels.attachedKeys :=
    h.labels ▸ Registry.attachedKeys_congr owner (congrArg (·.2) hs)
  have works : e.bibliography = d.bibliography :=
    (congrArg (·.1.bibliography) hs).trans h.bibliography
  refine .of_perm (.of_eq ?_)
  rw [anchors, anchors, brought, keys, works, hp, List.append_assoc]
  by_cases hh : frame.kind = .header
  · rw [placed.header hh, hh]
    rfl
  by_cases hb : frame.kind = .body
  · rw [placed.body hb, hb]
    rfl
  rw [Phase.ended_eq hh hb, if_neg hb, List.append_nil]

/-- When its end has been written, the element leaves the document settled. -/
theorem settled (h : d.Released loose frame outer r) (hd : d.Settled loose)
    (hf : d.frames = frame :: outer) (nested : r.Nested)
    (hs : e.standing.bound = r.standing.bound)
    (hl : e.Legible loose (d.anchors ++ d.brought frame.kind) (d.phase.ended frame.kind) [] []) :
    e.Settled loose := by
  have frames := hd.nested.frames
  have placed := hd.placed
  rw [hf] at frames placed
  rw [List.forall_mem_cons] at placed
  have outline : e.outline = r.outline := congrArg (·.1.outline) hs
  refine ⟨nested_of_outline nested outline, ?_, ?_⟩
  · have legible := hl.widen (h.covered placed.1 hs hl.phase_eq)
    rwa [← hl.phase_eq] at legible
  · have shape : e.frames.shape = r.frames.shape := congrArg Prod.fst outline
    have later : e.labels.Extends d.labels := by
      refine ⟨h.labels ▸ congrArg (·.1.labels.owner) hs, ?_⟩
      have targets : e.labels.targets = d.labels.targets :=
        (Registry.targets_congr (congrArg (·.2) hs)).trans (congrArg _ h.labels)
      exact targets ▸ List.prefix_rfl
    rw [← Frames.placed_shape, shape, Frames.placed_shape, h.frames, hl.phase_eq]
    intro other ho
    rw [frames.1.phase_ended (List.ne_nil_of_mem ho)]
    exact (placed.2 other ho).mono later

end Document.Released

namespace Session

open Action

/-- Ending an element keeps a document settled, whether it is ended or refused, and a refusal keeps
its phase. -/
theorem ensures_endElement_settled (kind : Kind) (phase : Phase) :
    Ensures (fun s ↦ s.document.Settled loose ∧ s.document.phase = phase) (endElement backend kind)
      (fun _ s ↦ s.document.Settled loose ∧ s.document.phase = phase.ended kind)
      fun _ s ↦ s.document.Settled loose ∧ s.document.phase = phase := by
  refine ensures_of_forall fun s hs ↦ ?_
  obtain ⟨settled, rfl⟩ := hs
  refine ensures_end settled.nested (fun _ ↦ ⟨settled, rfl⟩) fun frame outer hf hk ↦ ?_
  subst hk
  have frames := settled.nested.frames
  have placed := settled.placed
  have sound := settled.legible.frames
  rw [hf] at frames placed sound
  rw [List.forall_mem_cons] at placed sound
  obtain ⟨closed, released⟩ := settled.released_pop hf
  have written := legible_closeFrame released frames.1 frames.2 placed.2 placed.1 sound.1 closed
  have kept := (composed_closeFrame backend frame s.document.held).keeps
    s.document.pop.standing.bound
  refine (written.and kept).mono ?_ (fun _ t ht ↦ ?_) fun _ t ht ↦ ?_
  · rintro _ rfl
    exact ⟨rfl, rfl⟩
  · exact ⟨settled_stream (released.settled settled hf settled.nested.pop ht.2 ht.1),
      ht.1.phase_eq⟩
  · obtain ⟨⟨same, legible⟩, bound⟩ := ht
    exact ⟨released.settled settled hf settled.nested.pop bound legible,
      legible.phase_eq.trans same⟩

end Session

end Manuscript
