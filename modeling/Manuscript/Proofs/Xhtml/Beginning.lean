import Manuscript.Proofs.Document.Refusal
import Manuscript.Proofs.Xhtml.Settled

/-!
# Beginning elements of a settled document

An element that is begun leaves the document settled, if its label is one that the document has made
or one that may come more than once, and the latter wherever a macro is open: what is written inside
a macro may be written any number of times.
-/

namespace Manuscript

open Markup Xhtml

/-! ### What is held back around a label -/

namespace Kind

/-- The element is a macro or a part of one. -/
def isMacro : Kind → Bool
  | macroDefinition | macroInvocation | macroParameter => true
  | _ => false

/-- The element holds others that carry labels, and is not a macro. -/
def surrounds : Kind → Bool
  | body | sect | sectionBody | figureSeries | figureSeriesPage | itemization | enumeration
  | item => true
  | _ => false

/-- Elements of the kind may carry labels. -/
def carriesLabel : Kind → Bool
  | sect | figure | subFigure | figureSeries | table | equation => true
  | _ => false

variable {kind parent : Kind}

/-- What carries a label or surrounds such an element is surrounded by elements of the same sort, or
stands in a macro. -/
theorem surrounds_parent (h : kind.surrounds = true ∨ kind.carriesLabel = true)
    (ha : kind.allowedWithin parent = true) :
    parent.surrounds = true ∨ parent.isMacro = true := by
  revert h ha
  cases kind <;> cases parent <;> decide

theorem not_captures_of_surrounds (h : kind.surrounds = true) :
    kind.captures = false ∧ kind ≠ .macroParameter := by
  revert h
  cases kind <;> decide

end Kind

theorem Element.carriesLabel_of_label? {element : Element} {label : Label}
    (h : element.label? = some label) : element.kind.carriesLabel = true := by
  cases element with
  | sect | figure | subFigure | equation | figureSeries | table => rfl
  | _ => cases h

namespace Frames

/-- A macro is open. -/
def InMacro (frames : Frames) : Prop := ∃ frame ∈ frames, frame.kind.isMacro = true

variable {frames : Frames}

/-- Around an element that surrounds labels nothing but macros holds anything back. -/
theorem Nested.inMacro (h : frames.Nested) (hf : ∃ frame ∈ frames, frame.captured = true)
    (hk : ∀ kind ∈ frames.innermost, kind.surrounds = true ∨ kind.isMacro = true) :
    frames.InMacro := by
  induction frames with
  | nil =>
    obtain ⟨frame, hm, _⟩ := hf
    cases hm
  | cons frame outer ih =>
    rcases hk frame.kind rfl with surrounds | isMacro
    · obtain ⟨captures, parameter⟩ := Kind.not_captures_of_surrounds surrounds
      have uncaptured : frame.captured = false := (h.1.captured parameter).trans captures
      obtain ⟨base, hm, hb⟩ := hf
      have behind : base ∈ outer := by
        rcases List.mem_cons.mp hm with rfl | hm
        · rw [uncaptured] at hb
          cases hb
        · exact hm
      have allowed := h.1.allowed
      obtain ⟨other, ho, hi⟩ := ih h.2 ⟨base, behind, hb⟩ fun parent hp ↦ by
        rw [show innermost outer = some parent from hp] at allowed
        exact Kind.surrounds_parent (.inl surrounds) allowed
      exact ⟨other, List.mem_cons_of_mem _ ho, hi⟩
    · exact ⟨frame, List.mem_cons_self, isMacro⟩

end Frames

/-- Whatever is held back where such an element is open is held back by a macro. -/
theorem Document.Nested.inMacro {d : Document} (hd : d.Nested) (hc : d.output.captures ≠ [])
    (hk : ∀ kind ∈ d.innermost, kind.surrounds = true ∨ kind.isMacro = true) :
    d.frames.InMacro := by
  have count : d.frames.countP Frame.captured ≠ 0 := by
    rw [← hd.captures_eq]
    exact fun hn ↦ hc (List.length_eq_zero_iff.mp hn)
  exact hd.frames.inMacro (List.countP_pos_iff.mp (Nat.pos_of_ne_zero count)) hk

/-! ### Labels that are welcome -/

/-- The label of an element is one that the document has made, or a loose one, and loose wherever a
macro is open. -/
structure Document.Welcomes (loose : String → Prop) (d : Document) (element : Element) : Prop where
  genuine : ∀ label ∈ element.label?, ¬ loose label.key → label.owner = d.labels.owner →
    d.labels.label? label.index = some label
  repeated : d.frames.InMacro → ∀ label ∈ element.label?, loose label.key

variable {loose : String → Prop} {d : Document} {element : Element}

/-- All labels are welcome where identifiers are of no concern. -/
theorem Document.welcomes_of_forall (h : ∀ id, loose id) (d : Document)
    (element : Element) : d.Welcomes loose element :=
  ⟨fun _ _ hl ↦ absurd (h _) hl, fun _ _ _ ↦ h _⟩

/-- Where something is held back, only a loose label is begun. -/
theorem Document.Welcomes.anchor_loose (h : d.Welcomes loose element) (hd : d.Nested)
    (ha : element.kind.allowedIn d.innermost = true) (hc : d.output.captures ≠ []) :
    ∀ id ∈ anchorOf element.label?, loose id := by
  intro id hm
  obtain ⟨label, hl, rfl⟩ := Option.map_eq_some_iff.mp (Option.mem_toList.mp hm)
  refine h.repeated (hd.inMacro hc fun parent hp ↦ ?_) label hl
  rw [show d.innermost = some parent from hp] at ha
  exact Kind.surrounds_parent (.inr (Element.carriesLabel_of_label? hl)) ha

namespace Registry

variable {registry : Registry} {label : Label}

/-- A label that is attached comes into the budget. -/
theorem covered_attach {kind : Kind} (h : registry.attachFault label kind = none)
    (hg : ¬ loose label.key → label.owner = registry.owner →
      registry.label? label.index = some label) :
    Covered loose (registry.attachedKeys ++ [label.key]) (registry.attach label).attachedKeys := by
  obtain ⟨ho, entry, he, ha⟩ := exists_entry_of_attachFault h
  obtain ⟨made, hm⟩ : ∃ made, registry.label? label.index = some made := by
    rw [label?, targets, List.getElem?_map, he]
    exact ⟨_, rfl⟩
  have attached := attachedKeys_attach he ha hm
  by_cases hl : loose label.key
  · have dropped : Covered loose (registry.attachedKeys ++ [label.key])
        (registry.attachedKeys ++ []) :=
      (Covered.refl _).append (.of_forall_loose fun id hid ↦ List.mem_singleton.mp hid ▸ hl)
    rw [List.append_nil] at dropped
    exact dropped.trans ((Covered.of_sublist (List.sublist_cons_self _ _)).trans
      (.of_perm attached.symm))
  · obtain rfl : made = label := Option.some.inj (hm.symm.trans (hg hl ho))
    exact .of_perm (List.perm_append_comm.trans attached.symm)

end Registry

/-! ### The start -/

/-- The phase of a document in which an element of the kind has been begun. -/
def Phase.begun (phase : Phase) : Kind → Phase
  | .header => .header
  | .body => .body
  | _ => phase

theorem Phase.begun_eq {phase : Phase} {kind : Kind} (hh : kind ≠ .header) (hb : kind ≠ .body) :
    phase.begun kind = phase := by
  cases kind with
  | header => exact absurd rfl hh
  | body => exact absurd rfl hb
  | _ => rfl

/-- Only the header and the body change the phase, each from one phase alone. -/
theorem Document.phase_of_phaseFault {kind : Kind} (h : d.phaseFault kind = none) :
    (kind = .header → d.phase = .start) ∧ (kind = .body → d.phase = .headerDone) := by
  unfold phaseFault at h
  generalize d.phase = phase at h ⊢
  constructor <;> rintro rfl
  · cases phase <;> first | rfl | cases h
  · cases phase <;> first | rfl | cases h

theorem Element.eq_header_of_kind (h : element.kind = .header) : element = .header := by
  cases element with
  | header => rfl
  | styled style => cases style <;> cases h
  | list ordered => cases ordered <;> cases h
  | _ => cases h

theorem Element.eq_body_of_kind (h : element.kind = .body) : element = .body := by
  cases element with
  | body => rfl
  | styled style => cases style <;> cases h
  | list ordered => cases ordered <;> cases h
  | _ => cases h

theorem Element.eq_macroDefinition_of_kind (h : element.kind = .macroDefinition) :
    ∃ signature, element = .macroDefinition signature := by
  cases element with
  | macroDefinition signature => exact ⟨signature, rfl⟩
  | styled style => cases style <;> cases h
  | list ordered => cases ordered <;> cases h
  | _ => cases h

namespace Session

open Action

variable {budget : List String}

/-- The start of an element that is allowed leaves open what its frame says, and its identifier to
be written. -/
theorem legible_start {d : Document} (hd : d.Nested)
    (hp : ∀ frame ∈ d.frames, frame.Placed d.phase d.labels)
    (ha : element.kind.allowedIn d.innermost = true) (hf : d.phaseFault element.kind = none)
    (hl : d.Legible loose budget d.phase [] (anchorOf element.label?)) :
    Ensures (·.document = d) (start backend element)
      (fun answer s ↦ answer.1.Sound loose ∧ s.document.Legible loose budget
        (d.phase.begun element.kind) (answer.1.tags element.kind) answer.1.held)
      fun _ _ ↦ True := by
  obtain ⟨started, ended⟩ := Document.phase_of_phaseFault hf
  by_cases hh : element.kind = .header
  · have root : d.frames = [] := by
      cases hd : d.frames with
      | nil => rfl
      | cons frame outer =>
        rw [Document.innermost, hd, hh] at ha
        cases ha
    have phase := started hh
    obtain rfl := Element.eq_header_of_kind hh
    refine Ensures.bind (ensures_startHeader.mono (fun s hs ↦ ?_) (fun _ _ hs ↦ hs)
      fun _ _ hf ↦ hf.elim) fun state ↦ ensures_pure fun s hs ↦ ⟨hs.2, hs.1⟩
    obtain rfl : s.document = d := hs
    exact ⟨phase ▸ hl, root⟩
  by_cases hb : element.kind = .body
  · have phase := ended hb
    obtain rfl := Element.eq_body_of_kind hb
    refine Ensures.bind (ensures_startBody.mono (fun s hs ↦ ?_) (fun _ _ hs ↦ hs)
      fun _ _ hf ↦ hf.elim) fun state ↦ ensures_pure fun s hs ↦ ⟨hs.2, hs.1⟩
    obtain rfl : s.document = d := hs
    exact phase ▸ hl
  rw [Phase.begun_eq hh hb]
  by_cases hn : d.frames = []
  · rw [Document.innermost, hn] at ha
    rcases Kind.eq_of_allowedAtRoot ha with hk | hk | hk
    · exact absurd hk hh
    · exact absurd hk hb
    · obtain ⟨signature, rfl⟩ := Element.eq_macroDefinition_of_kind hk
      refine ensures_pure fun s hs ↦ ⟨trivial, ?_⟩
      obtain rfl : s.document = d := hs
      exact hl
  · refine (prints_start element hh hb budget d.phase).mono (fun s hs ↦ ?_)
      (fun _ _ hs ↦ ⟨hs.1, hs.2.1⟩) fun _ _ _ ↦ trivial
    obtain rfl : s.document = d := hs
    exact ⟨hl, Document.writable hd.frames hd.captures_eq hp hn⟩

/-- The label of an element comes into the budget when it is attached. -/
theorem ensures_attach_labels (loose : String → Prop) {kind : Kind} {label : Option Label}
    {d : Document}
    (h : ∀ l ∈ label, d.labels.attachFault l kind = none)
    (hg : ∀ l ∈ label, ¬ loose l.key → l.owner = d.labels.owner →
      d.labels.label? l.index = some l) :
    Ensures (·.document = d) (attach kind label)
      (fun _ s ↦ ∃ labels : Registry, s.document = { d with labels } ∧ labels.Extends d.labels ∧
        (∀ l ∈ label, labels.fault l = none) ∧
        Covered loose (d.labels.attachedKeys ++ anchorOf label) labels.attachedKeys)
      fun _ _ ↦ False := by
  cases label with
  | none =>
    refine ensures_pure fun s hs ↦ ⟨d.labels, hs, .refl _, nofun, ?_⟩
    exact .of_perm (.of_eq (List.append_nil _))
  | some label =>
    have fits := h label rfl
    refine ensures_current fun e ↦ Ensures.through (fun _ s ↦ s.document = d)
      (ensures_refuse (fun _ _ hs ↦ hs.1) fun error he s hs ↦ ?_) fun _ ↦
      ensures_change fun s hs ↦ ?_
    · obtain ⟨hs, rfl⟩ := hs
      rw [hs, fits] at he
      cases he
    · refine ⟨d.labels.attach label, ?_, d.labels.extends_attach label, fun l hl ↦ ?_, ?_⟩
      · rw [← hs]
        rfl
      · obtain rfl : label = l := Option.some.inj hl
        obtain ⟨ho, entry, he, _⟩ := Registry.exists_entry_of_attachFault fits
        have known : d.labels.fault label = none :=
          Registry.fault_eq_none_iff.mpr ⟨ho, (List.getElem?_eq_some_iff.mp he).1⟩
        exact (d.labels.extends_attach label).fault known
      · exact Registry.covered_attach fits (hg label rfl)

end Session

/-! ### The frame -/

/-- The start of an element has been written to a settled document, and `frame` is to be pushed. -/
structure Document.Started (loose : String → Prop) (d : Document) (frame : Frame) (e : Document) :
    Prop where
  timely : d.phaseFault frame.kind = none
  stands : frame.StandsOn d.frames
  sound : frame.state.Sound loose
  standing : e.standing = d.standing
  legible : e.Legible loose (d.anchors ++ anchorOf frame.state.label?) (d.phase.begun frame.kind)
    frame.tags frame.held

namespace Document.Started

variable {frame : Frame} {e : Document} {labels : Registry}

/-- The phase changes only where nothing is open. -/
theorem phase_begun (h : d.Started loose frame e) (hn : d.frames ≠ []) :
    d.phase.begun frame.kind = d.phase :=
  Phase.begun_eq (fun hk ↦ hn (h.stands.eq_nil hk fun _ ↦ rfl)) fun hk ↦
    hn (h.stands.eq_nil hk fun _ ↦ rfl)

theorem done_iff (h : d.Started loose frame e) :
    d.phase.begun frame.kind = .done ↔ d.phase = .done := by
  obtain ⟨started, ended⟩ := phase_of_phaseFault h.timely
  by_cases hh : frame.kind = .header
  · rw [hh, started hh]
    decide
  by_cases hb : frame.kind = .body
  · rw [hb, ended hb]
    decide
  rw [Phase.begun_eq hh hb]

/-- The identifier of the element comes into the budget. -/
theorem covered (h : d.Started loose frame e)
    (hl : Covered loose (d.labels.attachedKeys ++ anchorOf frame.state.label?)
      labels.attachedKeys) :
    Covered loose (d.anchors ++ anchorOf frame.state.label?) { e with labels }.anchors := by
  have phase : e.phase = d.phase.begun frame.kind := h.legible.phase_eq
  have works : e.bibliography = d.bibliography := congrArg Standing.bibliography h.standing
  rw [anchors, anchors]
  simp only [phase, works, h.done_iff]
  refine Covered.trans (.of_perm ?_) (hl.append (.refl _))
  rw [List.append_assoc, List.append_assoc]
  exact List.perm_append_comm.append_left _

theorem placed (h : d.Started loose frame e) (hd : d.Settled loose)
    (hx : labels.Extends d.labels)
    (known : ∀ label ∈ frame.state.label?, labels.fault label = none) :
    ∀ other ∈ (({ e with labels } : Document).push frame).frames, other.Placed e.phase labels := by
  have phase : e.phase = d.phase.begun frame.kind := h.legible.phase_eq
  have shape : e.frames.shape = d.frames.shape := congrArg (·.outline.1) h.standing
  change ∀ other ∈ frame :: e.frames, other.Placed e.phase labels
  rw [phase]
  refine List.forall_mem_cons.mpr ⟨⟨fun hk ↦ hk ▸ rfl, fun hk ↦ hk ▸ rfl, known⟩, ?_⟩
  rw [← Frames.placed_shape, shape, Frames.placed_shape]
  intro other ho
  rw [h.phase_begun (List.ne_nil_of_mem ho)]
  exact (hd.placed other ho).mono hx

/-- With its label attached the element leaves the document settled. -/
theorem push (h : d.Started loose frame e) (hd : d.Settled loose) (hx : labels.Extends d.labels)
    (known : ∀ label ∈ frame.state.label?, labels.fault label = none)
    (hl : Covered loose (d.labels.attachedKeys ++ anchorOf frame.state.label?)
      labels.attachedKeys) :
    (({ e with labels } : Document).push frame).Settled loose where
  nested := by
    have outline : e.outline = d.outline := congrArg Standing.outline h.standing
    have shape : e.frames.shape = d.frames.shape := congrArg Prod.fst outline
    have stands : frame.StandsOn e.frames := by
      have stands := h.stands
      rw [← Frames.standsOn_shape] at stands ⊢
      rwa [shape]
    have nested : ({ e with labels } : Document).Nested := nested_of_outline hd.nested outline
    exact nested.push stands
  legible := by
    have legible : ({ e with labels } : Document).Legible loose _ _ _ _ := h.legible.of_sight rfl
    have pushed := ((legible.widen (h.covered hl)).push h.sound)
    rwa [← h.legible.phase_eq] at pushed
  placed := h.placed hd hx known

end Document.Started

namespace Session

open Action

/-- What is begun where it is allowed has its frame ready when its start has been written. -/
theorem ensures_start_started (hd : d.Settled loose) (hw : d.Welcomes loose element)
    (ha : element.kind.allowedIn d.innermost = true) (hf : d.phaseFault element.kind = none) :
    Ensures (·.document = d) (start backend element)
      (fun answer s ↦ answer.1.label? = element.label? ∧
        d.Started loose ⟨element.kind, answer.2, answer.1⟩ s.document) fun _ _ ↦ True := by
  have promised := hd.legible.grant (hw.anchor_loose hd.nested ha) (.refl _)
  refine ensures_of_forall fun s hs ↦ ?_
  obtain rfl : s.document = d := hs
  have kept := (ensures_start backend element s).and
    ((free_start backend element).keeps s.document.standing)
  refine ((legible_start hd.nested hd.placed ha hf promised).and kept).mono
    (fun _ ht ↦ ht ▸ ⟨rfl, rfl, rfl⟩) (fun answer t ht ↦ ?_) fun _ _ _ ↦ trivial
  obtain ⟨⟨sound, legible⟩, ⟨_, _, start, _⟩, standing⟩ := ht
  refine ⟨start.label?_eq, hf, start.standsOn hd.nested ha, sound, standing, ?_⟩
  rw [start.label?_eq]
  exact legible

/-- Beginning an element keeps a document settled if the label of the element is welcome, and a
refusal changes nothing. -/
theorem ensures_beginElement_settled (hd : d.Settled loose) (hw : d.Welcomes loose element) :
    Ensures (·.document = d) (beginElement backend element)
      (fun _ s ↦ s.document.Settled loose ∧ s.document.phase = d.phase.begun element.kind)
      fun _ s ↦ s.document = d := by
  refine ensures_of_forall fun s hs ↦ ?_
  obtain rfl : s.document = d := hs
  suffices settled : Ensures (· = s) (beginElement backend element)
      (fun _ t ↦ t.document.Settled loose ∧
        t.document.phase = s.document.phase.begun element.kind) fun _ _ ↦ True from
    (settled.and (careful_beginElement backend element s)).mono (fun _ ht ↦ ⟨ht, ht⟩)
      (fun _ _ ht ↦ ht.1) fun _ _ ht ↦ ht.2 ▸ rfl
  refine ensures_begin _ (fun _ ↦ trivial) (fun fits ↦ (ensures_start_started hd hw fits.allowed
    fits.timely).mono (fun _ ht ↦ ht ▸ rfl) (fun _ _ ht ↦ ht) fun _ _ ht ↦ ht) fun fits answer ↦
      ensures_of_forall fun t ht ↦ ?_
  obtain ⟨label, started⟩ := ht
  have labels : t.document.labels = s.document.labels := congrArg Standing.labels started.standing
  have attachable : ∀ l ∈ element.label?, t.document.labels.attachFault l element.kind = none := by
    rw [labels]
    exact Document.attachFault_eq_none fits.attachable
  have attached : Ensures (·.document = t.document) (attach element.kind element.label?) _ _ :=
    ensures_attach_labels loose attachable (labels ▸ hw.genuine)
  refine attached.mono (fun _ hu ↦ hu ▸ rfl) (fun _ u hu ↦ ?_) fun _ _ hu ↦ hu.elim
  obtain ⟨new, hu, hx, known, covered⟩ := hu
  change (u.document.push _).Settled loose ∧ u.document.phase = _
  rw [hu]
  rw [labels] at hx covered
  rw [← label] at known covered
  exact ⟨started.push hd hx known covered, started.legible.phase_eq⟩

end Session

end Manuscript
