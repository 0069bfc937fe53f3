import Manuscript.Proofs.CrossRef.Grouping
import Manuscript.Proofs.Document.Citing
import Manuscript.Proofs.Press.Work
import Manuscript.Xhtml.Backend

/-!
# References to labels

References to labels of the document itself are written as a series of links, with nouns in front of
runs of labels. A label of another document anywhere among them is refused, and nothing is written
(`Session.reference_run`).
-/

namespace Manuscript

/-- A label that is known has a state. -/
theorem Registry.exists_state {registry : Registry} {label : Label}
    (h : registry.label? label.index = some label) : ∃ state, registry.state label = .ok state := by
  obtain ⟨target, ht, hl⟩ := Option.map_eq_some_iff.mp h
  have inside := (List.getElem?_eq_some_iff.mp ht).1
  rw [length_targets] at inside
  have owner : label.owner = registry.owner := by rw [← hl]
  rw [state, entry, if_pos owner, List.getElem?_eq_getElem inside]
  exact ⟨_, rfl⟩

/-- A label of another document has none. -/
theorem Registry.state_foreign {registry : Registry} {label : Label}
    (h : label.owner ≠ registry.owner) : registry.state label = .error .foreign := by
  rw [state, entry, if_neg h]
  rfl

namespace Session

open Action

variable {backend : Backend} {s : Session} {labels : List Label}

theorem labelStates_cons (label : Label) (others : List Label) (s : Session) :
    labelStates (label :: others) s = match s.document.labelState label with
      | .error error => .error error s
      | .ok state => match labelStates others s with
        | .ok states t => .ok (state :: states) t
        | .error error t => .error error t := by
  rw [labelStates, bind_current]
  cases s.document.labelState label with
  | error error => rfl
  | ok state =>
    change EStateM.bind (labelStates others) _ s = _
    rw [EStateM.bind]
    cases labelStates others s <;> rfl

/-- The states of labels that are known are found. -/
theorem labelStates_eq_ok
    (h : ∀ label ∈ labels, ∃ state, s.document.labels.state label = .ok state) :
    ∃ states, List.Forall₂ (fun label state ↦ s.document.labels.state label = .ok state)
      labels states ∧ labelStates labels s = .ok states s := by
  induction labels with
  | nil => exact ⟨[], .nil, rfl⟩
  | cons label others ih =>
    rw [List.forall_mem_cons] at h
    obtain ⟨⟨state, hs⟩, others_⟩ := h
    obtain ⟨states, found, looked⟩ := ih others_
    refine ⟨state :: states, .cons hs found, ?_⟩
    rw [labelStates_cons, Document.labelState, hs, looked]
    rfl

/-- A label of another document is refused, or one in front of it is. -/
theorem labelStates_eq_error {label : Label} (hl : label ∈ labels)
    (ho : label.owner ≠ s.document.labels.owner) :
    ∃ refused fault, labelStates labels s = .error (.label refused fault) s := by
  induction labels with
  | nil => cases hl
  | cons first others ih =>
    rw [labelStates_cons, Document.labelState]
    cases hf : s.document.labels.state first with
    | error fault => exact ⟨first, fault, rfl⟩
    | ok state =>
      have there : label ∈ others := by
        refine (List.mem_cons.mp hl).resolve_left ?_
        rintro rfl
        rw [Registry.state_foreign ho] at hf
        cases hf
      obtain ⟨refused, fault, looked⟩ := ih there
      rw [looked]
      exact ⟨refused, fault, rfl⟩

/-- Where text is allowed, references to labels that are known are written. -/
theorem perform_reference {states : List LabelState} (joiner : Joiner) (bound : Bool)
    (hl : labelStates labels s = .ok states s) (free : s.document.textError = none) :
    s.perform backend (.reference joiner bound labels) =
      (.ok .done, s.modifyDocument fun d ↦
        (d.appendPhrase backend (Reference.phrase joiner bound labels states)).stream) :=
  perform_of_ok rfl (bind_eq_ok.mpr ⟨states, s, hl, streamedPhrase_of_free free⟩)

/-- References with a label of another document among them are refused. -/
theorem perform_reference_foreign {label : Label} (joiner : Joiner) (bound : Bool)
    (hl : label ∈ labels) (ho : label.owner ≠ s.document.labels.owner) :
    ∃ refused fault, s.perform backend (.reference joiner bound labels) =
      (.error (.label refused fault), s) := by
  obtain ⟨refused, fault, looked⟩ := labelStates_eq_error hl ho
  refine ⟨refused, fault, perform_of_error rfl ?_⟩
  change EStateM.bind (labelStates labels) _ s = _
  rw [EStateM.bind, looked]

/-- In every state that a new document comes to, references to labels that it has made are written
where text is allowed, as a series of links to them that show how far their elements have come, with
nouns in front of runs; a range shows the first and the last alone. With a label of another document
among them they are refused, and the session stays as it was. -/
theorem reference_run {context used : Context} {serial : Nat} {files : FileSystem}
    (hc : context.createDocument backend serial files = .ok (s, used)) (calls : List Call)
    (joiner : Joiner) (bound : Bool) (labels : List Label) :
    let t := s.run backend calls
    ((∀ label ∈ labels, s.Made backend calls label) →
      t.document.innermost.any Kind.acceptsText = true →
      ∃ nouns states, Reference.Grouped joiner labels nouns ∧
        List.Forall₂ (fun label state ↦ t.document.labels.state label = .ok state) labels states ∧
        let items := List.zipWith3 Reference.item nouns labels states
        t.perform backend (.reference joiner bound labels) = (.ok .done, t.modifyDocument fun d ↦
          (d.appendPhrase backend (Series.join joiner bound items)).stream) ∧
        (joiner = .fromTo → ∀ first middle last, items = first :: (middle ++ [last]) →
          Series.join joiner bound items = Series.join joiner bound [first, last])) ∧
    ((∃ label ∈ labels, label.owner ≠ serial) →
      ∃ refused fault, t.perform backend (.reference joiner bound labels) =
        (.error (.label refused fault), t)) := by
  obtain ⟨-, place, written, -, he⟩ := Context.createDocument_eq_ok hc
  obtain ⟨rfl, -⟩ := Prod.mk.inj he
  intro t
  constructor
  · intro made accepts
    have known (label : Label) (hl : label ∈ labels) :
        ∃ state, t.document.labels.state label = .ok state :=
      Registry.exists_state ((made label hl).label? Bibliography.keyed_empty)
    obtain ⟨states, found, looked⟩ := labelStates_eq_ok known
    have free : t.document.textError = none := if_pos accepts
    refine ⟨_, states, Reference.grouped_nouns joiner labels, found, ?_, ?_⟩
    · rw [perform_reference joiner bound looked free, Reference.phrase_eq]
    · rintro rfl first middle last items
      rw [items]
      exact Series.join_range bound first last middle
  · rintro ⟨label, hl, ho⟩
    let fresh := context.document (context.documentPath backend) place serial
    have lasting := (lasting_extends fresh.labels).run backend calls
      (show Lasting.Holds _ ⟨fresh, written⟩ from ⟨.refl _, Bibliography.keyed_empty⟩)
    exact perform_reference_foreign joiner bound hl fun same ↦ ho (same.trans lasting.1.owner)

/-- Two figures that have not been begun share a noun, and a table behind them has its own. -/
theorem reference_run_figures :
    let context : Context := ⟨⟨"/"⟩, "index", {}, false⟩
    let calls : List Call := [.createLabel .figure, .createLabel .figure, .createLabel .table,
      .beginElement .header, .endElement .header, .beginElement .body, .beginElement .paragraph]
    let labels : List Label := [⟨0, 0, 1, .figure⟩, ⟨0, 1, 2, .figure⟩, ⟨0, 2, 1, .table⟩]
    let phrase : Phrase := [.text "Figures", .space, .link "#fig1" "\u25bc", .text ", ",
      .link "#fig2" "\u25bc", .text ",", .text " ", .text "and", .text " ", .text "Table", .space,
      .link "#tab1" "\u25bc"]
    ∃ s used, context.createDocument Xhtml.backend 0 {} = .ok (s, used) ∧
      (∀ label ∈ labels, s.Made Xhtml.backend calls label) ∧
      (s.run Xhtml.backend calls).perform Xhtml.backend (.reference .and false labels) =
        (.ok .done, (s.run Xhtml.backend calls).modifyDocument fun d ↦
          (d.appendPhrase Xhtml.backend phrase).stream) := by
  intro context calls labels phrase
  let s : Session := ⟨context.document (context.documentPath Xhtml.backend) ["index.xhtml"] 0,
    { entries := [(["index.xhtml"], .text "")] }⟩
  have written : ({} : FileSystem).create (context.documentPath Xhtml.backend) (.text "") =
      .ok (["index.xhtml"], s.files) := by decide +kernel
  have created : context.createDocument Xhtml.backend 0 {} =
      .ok (s, { context with created := true }) := by
    rw [Context.createDocument, if_neg Bool.false_ne_true]
    simp only [written]
    rfl
  have made : ∀ label ∈ labels, s.Made Xhtml.backend calls label := by
    simp only [labels, List.forall_mem_cons, List.not_mem_nil, false_implies, implies_true,
      and_true]
    exact ⟨⟨calls.take 0, .figure, calls.drop 1, rfl, rfl⟩,
      ⟨calls.take 1, .figure, calls.drop 2, rfl, rfl⟩,
      ⟨calls.take 2, .table, calls.drop 3, rfl, rfl⟩⟩
  obtain ⟨nouns, states, grouped, found, performed, -⟩ :=
    (reference_run created calls .and false labels).1 made (by decide +kernel)
  refine ⟨s, _, created, made, performed.trans ?_⟩
  have pending : ∀ label ∈ labels,
      (s.run Xhtml.backend calls).document.labels.state label = .ok .pending := by
    decide +kernel
  have states_eq : states = [.pending, .pending, .pending] := by
    change List.Forall₂ _ [_, _, _] states at found
    obtain _ | ⟨first, _ | ⟨second, _ | ⟨third, ⟨⟩⟩⟩⟩ := found
    rw [pending _ (by simp [labels])] at first second third
    cases first
    cases second
    cases third
    rfl
  have figures := grouped.run (by decide) [] (labels.take 2) (labels.drop 2) .figure
    ⟨rfl, by decide, by decide, by decide, by decide⟩
  have table := grouped.run (by decide) (labels.take 2) (labels.drop 2) [] .table
    ⟨rfl, by decide, by decide, by decide, by decide⟩
  have nouns_eq : nouns = [some true, none, some false] := by
    obtain ⟨first, second, third, rfl⟩ := List.length_eq_three.mp grouped.length
    cases figures
    cases table
    rfl
  have joined : Series.join .and false (List.zipWith3 Reference.item [some true, none, some false]
      labels [.pending, .pending, .pending]) = phrase := by decide +kernel
  rw [nouns_eq, states_eq, joined]

end Session

end Manuscript
