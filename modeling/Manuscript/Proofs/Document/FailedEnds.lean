import Manuscript.Proofs.Document.Bookkeeping
import Manuscript.Proofs.Document.Rejection

/-!
# Ends that are refused

An end that is refused is unbalanced, or comes after a wrong number of operands, or finds that a
picture cannot be stored. The first two take no number and leave every label as it was. The third
comes after the figure has been counted and its label resolved, although nothing is written. As long
as all pictures can be stored, a label that has been begun belongs to an element that is open
(`Ledger.Attended`).
-/

namespace Manuscript

open scoped List

/-! ### Labels whose elements are open -/

namespace Ledger

variable {l l' : Ledger} {frame : Frame} {outer : Frames}

/-- A label that waits for an element gets a number when the element ends, or waits for the series
around it. -/
theorem numbered_or_carried (nested : Frames.Nested (frame :: outer)) (hl : l.frames = outer)
    {label : Label} (h : label ∈ frame.state.carried) :
    (∃ n ∈ (l.count frame.state).numbers frame, n.1 = label) ∨
      label ∈ (l.count frame.state).frames.carried := by
  by_cases hk : frame.kind = .subFigure
  · right
    subst hl
    have suits := nested.1.suits
    rw [hk] at suits
    obtain ⟨figure, hs⟩ := FrameState.exists_of_suits suits
    obtain ⟨_, _, taken⟩ := nested.2.exists_series? (hk ▸ nested.1.allowed)
    obtain ⟨next, hn⟩ := Option.isSome_iff_exists.mp (taken { label := figure.label })
    have gathered : l.frames.gather figure.label = next := by rw [Frames.gather, hn]; rfl
    rw [hs, FrameState.carried, show (FrameState.subFigure figure).members = [] from rfl,
      List.filterMap_nil, List.append_nil] at h
    rw [hs, count, gathered]
    exact (Frames.carried_changeSeries? hn).mem_iff.mpr (List.mem_append_left _ h)
  · exact .inl (exists_number_of_mem_carried nested.1.suits hk h)

/-- Every label that has been begun and not resolved waits for the end of an open element. -/
def Attended (l : Ledger) : Prop :=
  ∀ (index : Nat) (entry : LabelEntry), l.labels.entries[index]? = some entry →
    entry.state = .begun → ∃ label ∈ l.frames.carried, label.index = index

theorem Attended.push (h : l.Attended) {element : Element} (admits : l.Admits element frame) :
    (l.push frame).Attended := by
  intro index entry he hs
  rw [admits.carried_push]
  rw [Ledger.push, admits.label] at he
  cases hl : element.label? with
  | none =>
    rw [hl] at he
    exact h index entry he hs
  | some label =>
    rw [hl] at he
    obtain ⟨first, hn, ⟨_, rfl⟩ | ⟨hi, _⟩⟩ := Registry.exists_of_getElem?_attach he
    · obtain ⟨waiting, hc, hi⟩ := h index entry hn hs
      exact ⟨waiting, List.mem_cons_of_mem _ hc, hi⟩
    · exact ⟨label, List.mem_cons_self, hi⟩

/-- When an element ends, the labels that waited for it get their numbers, or go on waiting. -/
theorem Attended.takeOff (h : l.Attended) (nested : l.frames.Nested)
    (hf : l.frames = frame :: outer) (stored : List Path) :
    ((l.takeOff frame outer).settle ((l.takeOff frame outer).numbers frame) stored).Attended := by
  intro index entry he hs
  rw [settle, labels_takeOff] at he
  obtain ⟨first, hn, ⟨rfl, others⟩ | ⟨n, _, _, rfl⟩⟩ := Registry.exists_of_getElem?_number he
  · obtain ⟨label, hc, hi⟩ := h index entry hn hs
    rw [hf, Frames.carried, List.flatMap_cons, List.mem_append] at hc
    have left : (∃ n ∈ (l.takeOff frame outer).numbers frame, n.1 = label) ∨
        label ∈ (l.takeOff frame outer).frames.carried := by
      refine hc.elim (numbered_or_carried (hf ▸ nested) rfl) fun hc ↦ .inr ?_
      exact carried_subset_count { l with frames := outer } frame.state hc
    rcases left with ⟨n, hm, rfl⟩ | hc
    · exact absurd hi (others n hm)
    · exact ⟨label, hc, hi⟩
  · cases hs

/-- What a step leaves begun is attended, unless it is an end and a picture could not be stored. -/
theorem Attended.step {call : Call} {answer : Except DocumentError Reply} (h : l.Attended)
    (nested : l.frames.Nested) (hs : l.Step call answer l')
    (stores : ∀ kind, call = .endElement kind → ∀ reason, answer ≠ .error (.io reason)) :
    l'.Attended := by
  cases hs with
  | refused _ | written _ _ _ => exact h
  | created target =>
    intro index entry he hb
    rcases Registry.exists_of_getElem?_create he with he | ⟨_, rfl⟩
    · exact h index entry he hb
    · cases hb
  | begun admits => exact h.push admits
  | ended stored hf => exact h.takeOff nested hf stored
  | @failed frame outer error l' hf hs =>
    cases hs with
    | picture stored _ _ => exact absurd rfl (stores _ rfl _)
    | operands hk =>
      have suits := (hf ▸ nested).1.suits
      rw [hk] at suits
      obtain ⟨operator, operands, hs⟩ := FrameState.exists_of_suits suits
      have none : frame.state.carried = [] := by rw [hs]; rfl
      intro index entry he hb
      obtain ⟨label, hc, hi⟩ := h index entry he hb
      rw [hf, Frames.carried, List.flatMap_cons, none] at hc
      exact ⟨label, hc, hi⟩

/-- When a picture could not be stored, the figure has been counted, and nothing else. -/
theorem count_of_draws (l : Ledger) {frame : Frame} (suits : frame.state.suits frame.kind = true)
    (hk : frame.kind = .figure ∨ frame.kind = .figureSeries) :
    l.count frame.state = { l with figures := l.figures + 1 } := by
  rcases hk with hk | hk
  · rw [hk] at suits
    obtain ⟨figure, hs⟩ := FrameState.exists_of_suits suits
    rw [hs, count]
  · rw [hk] at suits
    obtain ⟨series, hs⟩ := FrameState.exists_of_suits suits
    rw [hs, count]

/-- An end that is refused for anything but a picture counts nothing, and leaves the labels and
images. -/
theorem Step.counts_of_ne_io {kind : Kind} {error : DocumentError}
    (h : l.Step (.endElement kind) (.error error) l') (stores : ∀ reason, error ≠ .io reason) :
    l'.figures = l.figures ∧ l'.tables = l.tables ∧ l'.equations = l.equations ∧
      l'.labels = l.labels ∧ l'.images = l.images := by
  cases h with
  | refused _ => exact ⟨rfl, rfl, rfl, rfl, rfl⟩
  | failed _ fails =>
    cases fails with
    | picture stored _ _ => exact absurd rfl (stores _)
    | operands _ => exact ⟨rfl, rfl, rfl, rfl, rfl⟩

/-- An end that is refused because of a picture has counted the figure, and numbered some of the
labels that waited. -/
theorem Step.counts_of_io {kind : Kind} {reason : IoError}
    (h : l.Step (.endElement kind) (.error (.io reason)) l') (nested : l.frames.Nested) :
    (kind = .figure ∨ kind = .figureSeries) ∧ ∃ given stored,
      (∀ n ∈ given, n.1 ∈ l.frames.carried) ∧
      l' = ({ l with frames := l'.frames, figures := l.figures + 1 } : Ledger).settle given
        stored := by
  cases h with
  | refused unbalanced =>
    obtain ⟨innermost, he⟩ := unbalanced kind rfl
    cases he
  | @failed frame outer _ _ hf fails =>
    cases fails with
    | @picture _ given stored hk hp =>
      have counted := ({ l with frames := outer } : Ledger).count_of_draws (hf ▸ nested).1.suits hk
      exact ⟨hk, given, stored, fun n hn ↦ mem_carried_of_mem_numbers hf (hp.subset hn),
        by rw [counted]; rfl⟩

end Ledger

/-! ### Runs -/

theorem Frames.carried_bare (frames : Frames) : frames.bare.carried = frames.carried := by
  rw [carried, bare, List.flatMap_map]
  exact List.flatMap_congr fun frame _ ↦ frame.state.carried_bare

namespace Session

/-- No end is refused because a picture cannot be stored. -/
def Stores (backend : Backend) : Session → List Call → Prop
  | _, [] => True
  | s, call :: calls =>
    (∀ kind, call = .endElement kind →
      ∀ reason, (s.perform backend call).1 ≠ .error (.io reason)) ∧
    Stores backend (s.perform backend call).2 calls

theorem attended_run {backend : Backend} {s : Session} (h : s.document.ledger.Attended)
    (orderly : s.document.Orderly) {calls : List Call} (stores : Stores backend s calls) :
    (s.run backend calls).document.ledger.Attended := by
  induction calls generalizing s with
  | nil => exact h
  | cons call calls ih =>
    exact ih (h.step orderly.frames_nested (orderly.step backend call) stores.1)
      (orderly.perform backend call) stores.2

/-- An end that is refused leaves all as it was if it is unbalanced, and else has let go of the
element. Unless a picture could not be stored, it counts nothing, leaves every label what it was and
stores no image. If one could not be stored, the figure has been counted and the first of its labels
have got their numbers. And as long as all pictures can be stored, every label that is begun and not
resolved waits for the end of an element that is still open. -/
theorem refusedEnd_run (backend : Backend) (context : Context) (path : Path) (place : Location)
    (serial : Nat) (files : FileSystem) (calls : List Call) (kind : Kind) (error : DocumentError) :
    let fresh : Session := ⟨context.document path place serial, files⟩
    let s := fresh.run backend calls
    let t := (s.perform backend (.endElement kind)).2
    (s.perform backend (.endElement kind)).1 = .error error →
      ((∃ innermost, error = .unbalancedEnd innermost kind) → t = s) ∧
      ((∀ reason, error ≠ .io reason) →
        t.document.figures = s.document.figures ∧ t.document.tables = s.document.tables ∧
        t.document.equations = s.document.equations ∧ t.document.labels = s.document.labels ∧
        t.document.images = s.document.images) ∧
      (∀ reason, error = .io reason → (kind = .figure ∨ kind = .figureSeries) ∧
        t.document.figures = s.document.figures + 1 ∧
        t.document.tables = s.document.tables ∧ t.document.equations = s.document.equations ∧
        (∃ given, t.document.labels = s.document.labels.number given ∧
          ∀ n ∈ given, n.1 ∈ s.document.frames.carried) ∧
        s.document.images <+: t.document.images) ∧
      (Stores backend fresh (calls ++ [.endElement kind]) →
        ∀ index entry, t.document.labels.entries[index]? = some entry → entry.state = .begun →
          ∃ label ∈ t.document.frames.carried, label.index = index) := by
  intro fresh s t hr
  have start : fresh.document.Orderly := context.orderly_document path place serial
  have orderly : s.document.Orderly := start.run backend calls
  have hs : s.document.ledger.Step (.endElement kind) (.error error) t.document.ledger := by
    have step := orderly.step backend (.endElement kind)
    rwa [hr] at step
  refine ⟨fun unbalanced ↦ ?_, fun stores ↦ ?_, ?_, fun stores ↦ ?_⟩
  · refine (perform_rejected backend s).1 _ _ hr fun other hk ↦ ?_
    cases hk
    exact unbalanced
  · have same := hs.counts_of_ne_io stores
    exact ⟨same.1, same.2.1, same.2.2.1, same.2.2.2.1, same.2.2.2.2⟩
  · rintro reason rfl
    obtain ⟨hk, given, stored, waits, same⟩ := hs.counts_of_io orderly.frames_nested
    rw [Document.ledger, Ledger.settle, Ledger.mk.injEq] at same
    obtain ⟨_, _, figures, tables, equations, labels, images⟩ := same
    refine ⟨hk, figures, tables, equations, ⟨given, labels, fun n hn ↦ ?_⟩, stored, images.symm⟩
    rw [← Frames.carried_bare]
    exact waits n hn
  · have attended : (fresh.run backend (calls ++ [.endElement kind])).document.ledger.Attended :=
      attended_run (fun _ _ he ↦ by cases he) start stores
    rw [run_append] at attended
    intro index entry he hb
    rw [← Frames.carried_bare]
    exact attended index entry he hb

/-- A fraction without operands is refused inside a labelled equation, and the label waits for the
end of the equation. -/
theorem refusedEnd_run_fraction :
    let fresh : Session :=
      ⟨(⟨⟨"/"⟩, "index", {}, false⟩ : Context).document ⟨"/index.xhtml"⟩ ["index.xhtml"] 0, {}⟩
    let calls : List Call := [.createLabel .equation, .beginElement .header, .endElement .header,
      .beginElement .body, .beginElement (.equation (some ⟨0, 0, 1, .equation⟩)),
      .beginElement (.mathOp .fraction)]
    let s := fresh.run Xhtml.backend calls
    let t := (s.perform Xhtml.backend (.endElement .mathOp)).2
    (s.perform Xhtml.backend (.endElement .mathOp)).1 = .error (.operandCount .fraction 0) ∧
    t.document.equations = s.document.equations ∧ t.document.labels = s.document.labels ∧
    t.document.labels.entries[0]?.map LabelEntry.state = some .begun ∧
    ∃ label ∈ t.document.frames.carried, label.index = 0 := by
  intro fresh calls s t
  have refused : (s.perform Xhtml.backend (.endElement .mathOp)).1 =
    .error (.operandCount .fraction 0) := rfl
  have stores : Stores Xhtml.backend fresh (calls ++ [.endElement .mathOp]) := by
    refine ⟨nofun, nofun, fun _ _ _ he ↦ ?_, nofun, nofun, nofun, fun _ _ _ he ↦ ?_, trivial⟩
    · cases he
    · cases he
  obtain ⟨-, kept, -, waits⟩ := refusedEnd_run Xhtml.backend _ _ _ _ _ calls .mathOp _ refused
  obtain ⟨_, _, equations, labels, _⟩ := kept nofun
  have begun : t.document.labels.entries[0]?.map LabelEntry.state = some .begun := rfl
  obtain ⟨entry, he, hb⟩ := Option.map_eq_some_iff.mp begun
  exact ⟨refused, equations, labels, begun, waits stores 0 entry he hb⟩

end Session

end Manuscript
