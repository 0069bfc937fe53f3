import Manuscript.Proofs.Bibliography.Key
import Manuscript.Proofs.CrossRef.Attachment
import Manuscript.Proofs.Document.Refusal

/-!
# What a document knows

Labels are made and marked, and works are cited; nothing else happens to what a document knows of
them. So whatever lasts through these steps lasts through every run (`Lasting.run`): a label stays
what it was when it was made (`Session.label?_of_answer`), and the keys of works stay apart.
-/

namespace Manuscript

namespace Registry

variable {registry later : Registry} {label : Label}

/-- The same labels and more. -/
structure Extends (later registry : Registry) : Prop where
  owner : later.owner = registry.owner
  targets : registry.targets <+: later.targets

theorem Extends.refl (registry : Registry) : registry.Extends registry := ⟨rfl, List.prefix_rfl⟩

theorem Extends.trans {last : Registry} (h : last.Extends later) (h' : later.Extends registry) :
    last.Extends registry := ⟨h.owner.trans h'.owner, h'.targets.trans h.targets⟩

theorem Extends.of_targets_eq (ho : later.owner = registry.owner)
    (ht : later.targets = registry.targets) : later.Extends registry :=
  ⟨ho, ht ▸ List.prefix_rfl⟩

theorem extends_create (registry : Registry) (target : Target) :
    (registry.create target).2.Extends registry :=
  ⟨rfl, _, (targets_create registry target).symm⟩

theorem extends_attach (registry : Registry) (label : Label) :
    (registry.attach label).Extends registry := .of_targets_eq rfl (targets_attach registry label)

theorem fault_eq_none_iff : registry.fault label = none ↔
    label.owner = registry.owner ∧ label.index < registry.entries.length := by
  rw [fault, entry]
  by_cases ho : label.owner = registry.owner
  · rw [if_pos ho]
    cases he : registry.entries[label.index]? with
    | none => simp [List.getElem?_eq_none_iff.mp he]
    | some entry => simp [ho, (List.getElem?_eq_some_iff.mp he).1]
  · simp [ho]

/-- A label that is known stays known. -/
theorem Extends.fault (h : later.Extends registry) (hf : registry.fault label = none) :
    later.fault label = none := by
  rw [fault_eq_none_iff] at hf ⊢
  have hl := h.targets.length_le
  rw [length_targets, length_targets] at hl
  exact ⟨hf.1.trans h.owner.symm, Nat.lt_of_lt_of_le hf.2 hl⟩

/-- A label stays what it was when it was made. -/
theorem Extends.label? (h : later.Extends registry) {index : Nat}
    (hl : registry.label? index = some label) : later.label? index = some label := by
  obtain ⟨target, ht, _⟩ := Option.map_eq_some_iff.mp hl
  have hi := (List.getElem?_eq_some_iff.mp ht).1
  rw [length_targets] at hi
  rw [label?_of_targets h.owner h.targets hi, hl]

end Registry

/-- What is known lasts when a label is made and when labels are marked. -/
structure Enduring (known : Registry → Bibliography → Prop) : Prop where
  create : ∀ labels bibliography target, known labels bibliography →
    known (labels.create target).2 bibliography
  mark : ∀ labels marked bibliography, marked.owner = labels.owner →
    marked.targets = labels.targets → known labels bibliography → known marked bibliography

/-- What is known lasts when works are cited, too. -/
structure Lasting (known : Registry → Bibliography → Prop) : Prop extends Enduring known where
  cite : ∀ labels bibliography records, known labels bibliography →
    known labels (bibliography.cite records).2

/-- Labels that have been made, and the keys of works. -/
theorem lasting_extends (registry : Registry) :
    Lasting fun labels bibliography ↦ labels.Extends registry ∧ bibliography.Keyed where
  create labels _ target h := ⟨(labels.extends_create target).trans h.1, h.2⟩
  mark _ _ _ ho ht h := ⟨(Registry.Extends.of_targets_eq ho ht).trans h.1, h.2⟩
  cite _ _ records h := ⟨h.1, h.2.cite records⟩

namespace Lasting

open Action Session

variable {known : Registry → Bibliography → Prop}

/-- What the document of a session knows. -/
abbrev Holds (known : Registry → Bibliography → Prop) (s : Session) : Prop :=
  known s.document.labels s.document.bibliography

/-- What is known is known after the action, also if it is refused. -/
abbrev Outlasts (known : Registry → Bibliography → Prop) {α : Type} (act : Action α) : Prop :=
  Ensures (Holds known) act (fun _ ↦ Holds known) fun _ ↦ Holds known

theorem outlasts_of_keeps {α : Type} {act : Action α}
    (h : Keeps (fun s ↦ (s.document.labels, s.document.bibliography)) act) :
    Outlasts known act := by
  refine ensures_of_forall fun s hs ↦ ?_
  have same (t : Session) (ht : (t.document.labels, t.document.bibliography) =
      (s.document.labels, s.document.bibliography)) : Holds known t := by
    obtain ⟨labels, works⟩ := Prod.mk.inj ht
    rwa [Holds, labels, works]
  exact (h _).mono (fun t ht ↦ ht ▸ rfl) (fun _ ↦ same) fun _ ↦ same

/-- An action that is composed of steps that leave the standing leaves what is known. -/
theorem outlasts_of_free {α : Type} {act : Action α} (h : Free id act) : Outlasts known act :=
  outlasts_of_keeps (h.keeps.comp fun standing ↦ (standing.labels, standing.bibliography))

theorem outlasts_refuse {reason : Option DocumentError} : Outlasts known (refuse reason) :=
  outlasts_of_keeps keeps_refuse

theorem outlasts_change {f : Document → Document}
    (h : ∀ d : Document, (f d).labels = d.labels ∧ (f d).bibliography = d.bibliography) :
    Outlasts known (change f) :=
  outlasts_of_keeps (keeps_change fun s ↦ Prod.ext (h s.document).1 (h s.document).2)

/-- What comes after a look at the document outlasts if it does so in any case. -/
theorem outlasts_current {α : Type} {next : Document → Action α}
    (h : ∀ d, Outlasts known (next d)) : Outlasts known (current >>= next) :=
  ensures_current fun d ↦ (h d).mono (fun _ hs ↦ hs.1) (fun _ _ hs ↦ hs) fun _ _ hs ↦ hs

theorem outlasts_attach (h : Enduring known) (kind : Kind) (label : Option Label) :
    Outlasts known (attach kind label) := by
  cases label with
  | none => exact ensures_pure fun _ hs ↦ hs
  | some label =>
    exact outlasts_current fun _ ↦ outlasts_refuse.bind fun _ ↦ ensures_change fun s hs ↦
      h.mark s.document.labels (s.document.labels.attach label) _ rfl
        (Registry.targets_attach _ label) hs

theorem outlasts_beginElement (h : Enduring known) (backend : Backend) (element : Element) :
    Outlasts known (beginElement backend element) :=
  outlasts_current fun _ ↦ outlasts_refuse.bind fun _ ↦ outlasts_refuse.bind fun _ ↦
    outlasts_refuse.bind fun _ ↦ (outlasts_of_free (free_start backend element)).bind fun _ ↦
      (outlasts_attach h _ _).bind fun _ ↦ outlasts_change fun _ ↦ ⟨rfl, rfl⟩

theorem outlasts_release (frame : Frame) : Outlasts known (release frame) := by
  unfold release
  split
  · refine outlasts_current fun d ↦ ?_
    split
    · exact ensures_throw fun _ hs ↦ hs
    · exact Ensures.bind (outlasts_change fun _ ↦ ⟨rfl, rfl⟩) fun _ ↦ ensures_pure fun _ hs ↦ hs
  · exact ensures_pure fun _ hs ↦ hs

theorem outlasts_closeFrame (h : Enduring known) (backend : Backend) (frame : Frame)
    (captured : Passage) : Outlasts known (closeFrame backend frame captured) := by
  refine ensures_of_forall fun s hs ↦ ?_
  have marked (t : Session) (ht : t.document.standing.bound = s.document.standing.bound) :
      Holds known t := by
    have works : t.document.bibliography = s.document.bibliography :=
      congrArg (·.1.bibliography) ht
    rw [Holds, works]
    exact h.mark _ _ _ (congrArg (·.1.labels.owner) ht) (Registry.targets_congr (congrArg (·.2) ht))
      hs
  exact ((composed_closeFrame backend frame captured).keeps s.document.standing.bound).mono
    (fun _ ht ↦ ht ▸ rfl) (fun _ ↦ marked) fun _ ↦ marked

theorem outlasts_endElement (h : Enduring known) (backend : Backend) (kind : Kind) :
    Outlasts known (endElement backend kind) := by
  refine outlasts_current fun d ↦ ?_
  split
  · exact ensures_throw fun _ hs ↦ hs
  · split
    · exact Ensures.bind (outlasts_change fun _ ↦ ⟨rfl, rfl⟩) fun _ ↦
        (outlasts_release _).bind fun _ ↦
          Ensures.bind (outlasts_change fun _ ↦ ⟨rfl, rfl⟩) fun _ ↦
            (outlasts_closeFrame h backend _ _).bind fun _ ↦ outlasts_change fun _ ↦ ⟨rfl, rfl⟩
    · exact ensures_throw fun _ hs ↦ hs

/-- What is known is known after every call, if it also outlasts the works that the call cites. -/
theorem outlasts_action (h : Enduring known) (backend : Backend) (call : Call)
    (hc : ∀ style records, call = .cite style records → ∀ labels bibliography,
      known labels bibliography → known labels (bibliography.cite records).2) :
    Outlasts known (call.action backend) := by
  obtain ⟨element, rfl⟩ | ⟨kind, rfl⟩ | ⟨begins, ends⟩ := call.begins_or_ends_or
  · exact (outlasts_beginElement h backend element).bind fun _ ↦ ensures_pure fun _ hs ↦ hs
  · exact (outlasts_endElement h backend kind).bind fun _ ↦ ensures_pure fun _ hs ↦ hs
  refine ensures_writing ?_ ?_ ?_ ?_ ?_ begins ends
  · exact fun phrase ↦ outlasts_of_free (free_writePhrase backend phrase)
  · exact fun _ hs ↦ hs
  · exact fun fills _ ↦ outlasts_of_free (free_paint fills)
  · intro target _
    refine ensures_current fun d ↦ Ensures.through (fun _ ↦ Holds known)
      (ensures_change fun s hs ↦ ?_) fun _ ↦ ensures_pure fun _ hs ↦ hs
    obtain ⟨hs, rfl⟩ := hs
    exact h.create _ _ target hs
  · intro style records hr
    refine ensures_current fun d ↦ Ensures.through (fun _ ↦ Holds known)
      (ensures_change fun s hs ↦ ?_) fun _ ↦ ensures_pure fun _ hs ↦ hs
    obtain ⟨hs, rfl⟩ := hs
    exact hc style records hr _ _ hs

/-- What is known is known after a run. -/
theorem run (h : Lasting known) (backend : Backend) (calls : List Call) {s : Session}
    (hs : Holds known s) : Holds known (s.run backend calls) := by
  induction calls generalizing s with
  | nil => exact hs
  | cons call calls ih =>
    exact ih (perform_of_ensures (outlasts_action h.toEnduring backend call fun _ records _ ↦
      (h.cite · · records)) hs)

end Lasting

/-- Only citing changes the works. -/
theorem Session.keeps_bibliography_action (backend : Backend) {call : Call}
    (hc : ∀ style records, call ≠ .cite style records) :
    Action.Keeps (·.document.bibliography) (call.action backend) := by
  intro works
  have same : Enduring fun _ bibliography ↦ bibliography = works := by
    constructor <;> intros <;> assumption
  apply Lasting.outlasts_action same
  intro style records he
  exact absurd he (hc style records)

/-! ### Labels that a document has made -/

namespace Session

variable {backend : Backend} {s : Session} {calls : List Call}

/-- A label of the document itself is attached only if the document has answered with it before. -/
def Genuine (backend : Backend) (s : Session) (calls : List Call) : Prop :=
  ∀ before element after, calls = before ++ .beginElement element :: after →
    ∀ label ∈ element.label?, label.owner = s.document.labels.owner →
      ∃ earlier target later, before = earlier ++ .createLabel target :: later ∧
        ((s.run backend earlier).perform backend (.createLabel target)).1 = .ok (.label label)

/-- The document has answered with the label. -/
def Made (backend : Backend) (s : Session) (calls : List Call) (label : Label) : Prop :=
  ∃ earlier target later, calls = earlier ++ .createLabel target :: later ∧
    ((s.run backend earlier).perform backend (.createLabel target)).1 = .ok (.label label)

/-- A label is genuine if the document answers with it at once and no other is attached. -/
theorem genuine_createLabel {target : Target} (h : ∀ element, .beginElement element ∈ calls →
      ∀ label ∈ element.label?, label = (s.document.labels.create target).1) :
    s.Genuine backend (.createLabel target :: calls) := by
  intro before element after hc label hl _
  cases before with
  | nil => cases hc
  | cons call before =>
    obtain ⟨rfl, rfl⟩ := List.cons.inj hc
    obtain rfl := h element (by simp) label hl
    exact ⟨[], target, before, rfl, rfl⟩

/-- A label that a document answers with stays what it was. -/
theorem label?_of_answer {target : Target} {label : Label} (hk : s.document.bibliography.Keyed)
    (h : (s.perform backend (.createLabel target)).1 = .ok (.label label)) (later : List Call) :
    ((s.perform backend (.createLabel target)).2.run backend later).document.labels.label?
      label.index = some label := by
  have made : s.perform backend (.createLabel target) =
      (.ok (.label (s.document.labels.create target).1), s.modifyDocument fun d ↦
        { d with labels := (s.document.labels.create target).2 }) := rfl
  rw [made] at h ⊢
  obtain rfl : (s.document.labels.create target).1 = label := Reply.label.inj (Except.ok.inj h)
  have known := (lasting_extends (s.document.labels.create target).2).run backend later
    (show Lasting.Holds _ (s.modifyDocument fun d ↦
      { d with labels := (s.document.labels.create target).2 }) from ⟨.refl _, hk⟩)
  exact known.1.label? (s.document.labels.label?_create target)

/-- A label that a document has made is the one that it knows at its position. -/
theorem Made.label? {label : Label} (h : s.Made backend calls label)
    (hk : s.document.bibliography.Keyed) :
    (s.run backend calls).document.labels.label? label.index = some label := by
  obtain ⟨earlier, target, later, rfl, answer⟩ := h
  have known := (lasting_extends s.document.labels).run backend earlier
    (show Lasting.Holds _ s from ⟨.refl _, hk⟩)
  rw [run_append]
  exact label?_of_answer known.2 answer later

/-- What a document has made it has made later on. -/
theorem Made.append {label : Label} (h : s.Made backend calls label) (more : List Call) :
    s.Made backend (calls ++ more) label := by
  obtain ⟨earlier, target, later, rfl, answer⟩ := h
  exact ⟨earlier, target, later ++ more, by rw [List.append_assoc, List.cons_append], answer⟩

theorem Genuine.of_append {more : List Call} (hg : s.Genuine backend (calls ++ more)) :
    s.Genuine backend calls := fun before element after hc ↦
  hg before element (after ++ more) (by rw [hc, List.append_assoc, List.cons_append])

/-- A genuine label of the document itself has been made before. -/
theorem Genuine.made (hg : s.Genuine backend calls) (hk : s.document.bibliography.Keyed)
    {before after : List Call} {element : Element} {label : Label}
    (hc : calls = before ++ .beginElement element :: after) (hl : label ∈ element.label?)
    (ho : label.owner = (s.run backend before).document.labels.owner) :
    s.Made backend before label := by
  have known := (lasting_extends s.document.labels).run backend before
    (show Lasting.Holds _ s from ⟨.refl _, hk⟩)
  exact hg before element after hc label hl (ho.trans known.1.owner)

end Session

end Manuscript
