import Manuscript.Proofs.Bibliography.Order
import Manuscript.Proofs.Document.Knowledge
import Manuscript.Proofs.Xhtml.Closing
import Manuscript.Proofs.Xhtml.Opening

/-!
# Documents between two calls

Between two calls everything that a document has written is accounted for (`Document.Settled`): its
elements are nested, it is legible with nothing left open, and the identifiers at the root are those
of the labels that elements carry and, after the end of the body, of the cited works. Every call
keeps a document settled, also if it is refused.
-/

namespace Manuscript

open Markup Xhtml

/-! ### Labels and phases -/

/-- The header and the body are open in their phases only, and the label of an open element is
known. -/
structure Frame.Placed (phase : Phase) (labels : Registry) (frame : Frame) : Prop where
  header : frame.kind = .header → phase = .header
  body : frame.kind = .body → phase = .body
  label : ∀ label ∈ frame.state.label?, labels.fault label = none

theorem Frame.placed_shape {phase : Phase} {labels : Registry} (frame : Frame) :
    frame.shape.Placed phase labels ↔ frame.Placed phase labels := by
  constructor <;> rintro ⟨header, body, label⟩ <;> refine ⟨header, body, ?_⟩
  · rwa [Frame.shape, FrameState.label?_shape] at label
  · rwa [Frame.shape, FrameState.label?_shape]

theorem Frames.placed_shape {phase : Phase} {labels : Registry} (frames : Frames) :
    (∀ frame ∈ frames.shape, frame.Placed phase labels) ↔
      ∀ frame ∈ frames, frame.Placed phase labels := by
  rw [shape, List.forall_mem_map]
  exact forall₂_congr fun frame _ ↦ frame.placed_shape

theorem Frame.Placed.mono {phase : Phase} {labels later : Registry} {frame : Frame}
    (h : frame.Placed phase labels) (hl : later.Extends labels) : frame.Placed phase later :=
  ⟨h.header, h.body, fun label hm ↦ hl.fault (h.label label hm)⟩

namespace Document

/-- The identifiers that a document may have written at the root. -/
def anchors (d : Document) : List String :=
  d.labels.attachedKeys ++ if d.phase = .done then d.bibliography.works.map (escape ·.key) else []

/-- Everything that a document has written is accounted for. -/
structure Settled (loose : String → Prop) (d : Document) : Prop where
  nested : d.Nested
  legible : d.Legible loose d.anchors d.phase [] []
  placed : ∀ frame ∈ d.frames, frame.Placed d.phase d.labels

variable {loose : String → Prop} {d e : Document}

/-- What leaves the open elements leaves a document settled if it leaves it legible. -/
theorem Settled.transfer (h : d.Settled loose) (ho : e.outline = d.outline)
    (hl : e.labels.Extends d.labels) (hp : e.phase = d.phase)
    (he : e.Legible loose e.anchors e.phase [] []) : e.Settled loose where
  nested := nested_of_outline h.nested ho
  legible := he
  placed := by
    have shape : e.frames.shape = d.frames.shape := congrArg Prod.fst ho
    rw [← Frames.placed_shape, shape, Frames.placed_shape, hp]
    exact fun frame hf ↦ (h.placed frame hf).mono hl

/-- What is known of labels and works does not become less. -/
theorem covered_anchors (hl : e.labels.attachedKeys = d.labels.attachedKeys)
    (hp : e.phase = d.phase) (hb : d.bibliography.works <+: e.bibliography.works) :
    Covered loose d.anchors e.anchors := by
  rw [anchors, anchors, hl, hp]
  refine (Covered.refl _).append (.of_sublist ?_)
  split
  · exact (hb.map _).sublist
  · exact List.nil_sublist _

/-- New labels and new works leave a document settled. -/
theorem Settled.learn {labels : Registry} {bibliography : Bibliography} (h : d.Settled loose)
    (hl : labels.Extends d.labels) (hk : labels.attachedKeys = d.labels.attachedKeys)
    (hb : d.bibliography.works <+: bibliography.works) :
    ({ d with labels, bibliography } : Document).Settled loose := by
  refine h.transfer rfl hl rfl ((h.legible.widen ?_).of_sight rfl)
  exact covered_anchors hk rfl hb

theorem anchors_eq (hl : e.labels = d.labels) (hp : e.phase = d.phase)
    (hb : e.bibliography = d.bibliography) : e.anchors = d.anchors := by
  rw [anchors, anchors, hl, hp, hb]

end Document

/-! ### Where something may be written -/

/-- Only the header, the body and macros are begun where nothing is open. -/
theorem Kind.eq_of_allowedAtRoot {kind : Kind} (h : kind.allowedAtRoot = true) :
    kind = .header ∨ kind = .body ∨ kind = .macroDefinition := by
  revert h
  cases kind <;> decide

/-- Some open element holds something back, or the header or the body is open. -/
theorem Frames.Nested.exists_base {frames : Frames} (h : frames.Nested) (hn : frames ≠ []) :
    ∃ frame ∈ frames, frame.captured = true ∨ frame.kind = .header ∨ frame.kind = .body := by
  induction frames with
  | nil => exact absurd rfl hn
  | cons frame outer ih =>
    by_cases ho : outer = []
    · subst ho
      have root : frame.kind.allowedAtRoot = true := h.1.allowed
      refine ⟨frame, List.mem_cons_self, ?_⟩
      rcases Kind.eq_of_allowedAtRoot root with hk | hk | hk
      · exact .inr (.inl hk)
      · exact .inr (.inr hk)
      · refine .inl ?_
        rw [h.1.captured (by rw [hk]; decide), hk]
        rfl
    · obtain ⟨base, hm, hb⟩ := ih h.2 ho
      exact ⟨base, List.mem_cons_of_mem _ hm, hb⟩

/-- While an element is open, something may be written. -/
theorem Document.writable {d : Document} (h : d.frames.Nested)
    (hl : d.output.captures.length = d.frames.countP Frame.captured)
    (hp : ∀ frame ∈ d.frames, frame.Placed d.phase d.labels) (hn : d.frames ≠ []) :
    d.Writable := by
  intro hc
  obtain ⟨frame, hm, hf⟩ := h.exists_base hn
  rcases hf with hf | hf | hf
  · rw [hc, List.length_nil] at hl
    exact absurd hf (List.countP_eq_zero.mp hl.symm frame hm)
  · rw [(hp frame hm).header hf]
    decide
  · rw [(hp frame hm).body hf]
    decide

/-! ### Calls that open and close nothing -/

namespace Session

open Action

variable {loose : String → Prop}

theorem settled_stream {d : Document} (h : d.Settled loose) : d.stream.Settled loose :=
  h.transfer d.outline_stream (.refl _) rfl
    (Document.anchors_eq (e := d.stream) (d := d) rfl rfl rfl ▸ h.legible.stream)

/-- A phrase may be written wherever text is accepted. -/
theorem ensures_writePhrase (phrase : Phrase) :
    Ensures (·.document.Settled loose) (writePhrase backend phrase)
      (fun _ s ↦ s.document.Settled loose) fun _ s ↦ s.document.Settled loose := by
  refine ensures_current fun d ↦ Ensures.through (fun _ s ↦ s.document.textError = none ∧
    s.document.Settled loose) (ensures_refuse (fun ht s hs ↦ ⟨hs.2 ▸ ht, hs.1⟩)
      fun _ _ _ hs ↦ hs.1) fun _ ↦ ensures_change fun s hs ↦ ?_
  obtain ⟨ht, hs⟩ := hs
  have hn : s.document.frames ≠ [] := by
    intro hf
    rw [Document.textError, Document.innermost, hf] at ht
    cases ht
  have written := prints_appendPhrase phrase s.document.anchors s.document.phase s
    ⟨hs.legible, Document.writable hs.nested.frames hs.nested.captures_eq hs.placed hn⟩
  exact hs.transfer (Document.outline_appendPhrase ..) (.refl _) rfl written.2.1

theorem ensures_createLabel (target : Target) :
    Ensures (·.document.Settled loose) (createLabel target) (fun _ s ↦ s.document.Settled loose)
      fun _ s ↦ s.document.Settled loose := by
  refine ensures_current fun d ↦ Ensures.through (fun _ s ↦ s.document.Settled loose)
    (ensures_change fun s hs ↦ ?_) fun _ ↦ ensures_pure fun _ hs ↦ hs
  obtain ⟨hs, rfl⟩ := hs
  exact hs.learn (s.document.labels.extends_create target)
    (s.document.labels.attachedKeys_create target) List.prefix_rfl

theorem ensures_registerWorks (records : List Record) :
    Ensures (·.document.Settled loose) (registerWorks records) (fun _ s ↦ s.document.Settled loose)
      fun _ s ↦ s.document.Settled loose := by
  refine ensures_current fun d ↦ Ensures.through (fun _ s ↦ s.document.Settled loose)
    (ensures_change fun s hs ↦ ?_) fun _ ↦ ensures_pure fun _ hs ↦ hs
  obtain ⟨hs, rfl⟩ := hs
  exact hs.learn (.refl _) rfl (Bibliography.works_prefix_cite _ records)

theorem ensures_paint (fills : List Fill) :
    Ensures (·.document.Settled loose) (paint fills) (fun _ s ↦ s.document.Settled loose)
      fun _ s ↦ s.document.Settled loose := by
  refine ensures_current fun d ↦ ?_
  split
  · refine Ensures.through (fun _ s ↦ s.document.Settled loose) (ensures_change fun s hs ↦ ?_)
      fun _ ↦ ensures_pure fun _ hs ↦ hs
    have kept := Document.outline_offer (FrameState.keepsShape_takePaint? fills) s.document
    exact hs.1.transfer kept (.refl _) rfl
      (Document.Legible.offer (FrameState.takes_paint fills) hs.1.legible)
  · exact ensures_throw fun _ hs ↦ hs.1

/-- Every call but the beginning and the end of an element keeps a document settled. -/
theorem ensures_action (call : Call) (hb : ∀ element, call ≠ .beginElement element)
    (he : ∀ kind, call ≠ .endElement kind) :
    Ensures (·.document.Settled loose) (call.action backend) (fun _ s ↦ s.document.Settled loose)
      fun _ s ↦ s.document.Settled loose :=
  ensures_writing ensures_writePhrase (fun _ hs ↦ settled_stream hs)
    (fun fills _ ↦ ensures_paint fills) (fun target _ ↦ ensures_createLabel target)
    (fun _ records _ ↦ ensures_registerWorks records) hb he

end Session

end Manuscript
