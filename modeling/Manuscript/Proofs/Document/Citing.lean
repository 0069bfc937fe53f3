import Manuscript.Proofs.Bibliography.Order
import Manuscript.Proofs.Document.Knowledge

/-!
# Citing

Only a citation that is accepted changes the works of a document (`Session.records_run`), and it
writes a phrase whose links lead to the works that it cites (`Session.links_perform`). The works are
numbered by their positions, so numbers and keys stay what they are (`Session.works_prefix_run`).
-/

namespace Manuscript

/-- What a phrase becomes: the markup of the backend with the plain text beside it. -/
def Backend.passage (backend : Backend) (phrase : Phrase) : Passage :=
  Passage.join (phrase.map fun span ↦
    match span with
    | .text s => ⟨backend.escape s, Marker.hide s⟩
    | .space => ⟨backend.noBreakSpace, Span.noBreakSpace⟩
    | .emphasized s =>
      ⟨backend.inlineStart .emphasize ++ backend.escape s ++ backend.inlineEnd .emphasize,
        Marker.hide s⟩
    | .link target s => ⟨backend.link target (backend.escape s), Marker.hide s⟩)

namespace Document

/-- The document with works cited in it. -/
def citing (backend : Backend) (style : CitationStyle) (records : List Record) (d : Document) :
    Document :=
  let (citations, bibliography) := d.bibliography.cite records
  let noted : Document := { d with bibliography }
  (noted.appendPhrase backend (Citation.phrase style citations)).stream

end Document

/-- The works that the call cites if it is accepted. -/
def Call.cites (accepted : Bool) : Call → List Record
  | .cite _ records => if accepted then records else []
  | _ => []

namespace Session

open Action

variable {backend : Backend} {s : Session}

/-- The works that accepted calls cite, one call after the other. -/
def cited (backend : Backend) : List Call → Session → List Record
  | [], _ => []
  | call :: calls, s =>
    call.cites (s.perform backend call).1.isOk ++ cited backend calls (s.perform backend call).2

theorem cited_append (backend : Backend) (calls more : List Call) (s : Session) :
    s.cited backend (calls ++ more) =
      s.cited backend calls ++ (s.run backend calls).cited backend more := by
  induction calls generalizing s with
  | nil => rfl
  | cons call calls ih => simp only [List.cons_append, cited, ih, List.append_assoc]; rfl

/-- Where text is allowed a phrase is appended. -/
theorem writePhrase_of_free {phrase : Phrase} (free : s.document.textError = none) :
    writePhrase backend phrase s = .ok () (s.modifyDocument (·.appendPhrase backend phrase)) := by
  rw [writePhrase, bind_current, free]
  rfl

/-- Where text is allowed a phrase is appended, and streaming may follow. -/
theorem streamedPhrase_of_free {phrase : Phrase} (free : s.document.textError = none) :
    (do writePhrase backend phrase; change Document.stream : Action Unit) s =
      .ok () (s.modifyDocument fun d ↦ (d.appendPhrase backend phrase).stream) :=
  bind_eq_ok.mpr ⟨(), _, writePhrase_of_free free, rfl⟩

theorem streamedPhrase_of_textError {phrase : Phrase} {error : DocumentError}
    (bound : s.document.textError = some error) :
    (do writePhrase backend phrase; change Document.stream : Action Unit) s = .error error s := by
  have refused : writePhrase backend phrase s = .error error s := by
    rw [writePhrase, bind_current, bound]
    rfl
  change EStateM.bind (writePhrase backend phrase) _ s = _
  rw [EStateM.bind, refused]

theorem cite_of_free {style : CitationStyle} {records : List Record} (some_ : records ≠ [])
    (free : s.document.textError = none) :
    cite backend style records s =
      .ok () (s.modifyDocument (Document.citing backend style records)) := by
  let phrase := Citation.phrase style (s.document.bibliography.cite records).1
  let noted := s.modifyDocument fun d ↦
    { d with bibliography := (d.bibliography.cite records).2 }
  have written : writePhrase backend phrase noted = _ := writePhrase_of_free free
  rw [cite, if_neg (by simpa using some_), bind_current, free]
  change EStateM.bind (writePhrase backend phrase) (fun _ ↦ change Document.stream) noted = _
  rw [EStateM.bind, written]
  rfl

theorem cite_of_textError {style : CitationStyle} {records : List Record} {error : DocumentError}
    (some_ : records ≠ []) (bound : s.document.textError = some error) :
    cite backend style records s = .error error s := by
  rw [cite, if_neg (by simpa using some_), bind_current, bound]
  rfl

/-- A citation of nothing does nothing, and any other is accepted where text is. -/
theorem perform_cite (style : CitationStyle) (records : List Record) :
    s.perform backend (.cite style records) =
      if records = [] then (.ok .done, s)
      else match s.document.textError with
        | some error => (.error error, s)
        | none => (.ok .done, s.modifyDocument (Document.citing backend style records)) := by
  by_cases hr : records = []
  · subst hr
    rfl
  · rw [if_neg hr]
    cases ht : s.document.textError with
    | some error => exact perform_of_error rfl (cite_of_textError hr ht)
    | none => exact perform_of_ok rfl (cite_of_free hr ht)

/-- What has been cited keeps its place and its key for the rest of a run. -/
theorem works_prefix_run (backend : Backend) (calls : List Call) (s : Session) :
    s.document.bibliography.works <+: (s.run backend calls).document.bibliography.works := by
  have lasting : Lasting fun _ bibliography ↦
      s.document.bibliography.works <+: bibliography.works := by
    constructor
    · constructor <;> intros <;> assumption
    · intro _ bibliography records h
      exact h.trans (bibliography.works_prefix_cite records)
  exact lasting.run backend calls (s := s) List.prefix_rfl

/-- A call adds the works that it cites to those that have been cited. -/
theorem records_perform {earlier : List Record}
    (h : s.document.bibliography.records = earlier.eraseDups) (backend : Backend) (call : Call) :
    (s.perform backend call).2.document.bibliography.records =
      (earlier ++ call.cites (s.perform backend call).1.isOk).eraseDups := by
  by_cases hc : ∃ style records, call = .cite style records
  · obtain ⟨style, records, rfl⟩ := hc
    rw [perform_cite]
    split
    · next hn => simpa [Call.cites, hn] using h
    · split
      · simpa [Call.cites, Except.isOk, Except.toBool] using h
      · exact Bibliography.records_cite h records
  · have other (style : CitationStyle) (records : List Record) : call ≠ .cite style records :=
      fun he ↦ hc ⟨style, records, he⟩
    have none_ (accepted : Bool) : call.cites accepted = [] := by
      cases call with
      | cite style records => exact absurd rfl (other style records)
      | _ => rfl
    have kept : (s.perform backend call).2.document.bibliography = s.document.bibliography :=
      perform_of_ensures (keeps_bibliography_action backend other s.document.bibliography) rfl
    rw [none_, List.append_nil, kept, h]

/-- The works of a document are those that have been cited, in the order of their first citation. -/
theorem records_run {earlier : List Record}
    (h : s.document.bibliography.records = earlier.eraseDups) (backend : Backend)
    (calls : List Call) :
    (s.run backend calls).document.bibliography.records =
      (earlier ++ s.cited backend calls).eraseDups := by
  induction calls generalizing s earlier with
  | nil => rwa [cited, List.append_nil]
  | cons call calls ih =>
    rw [cited, ← List.append_assoc]
    exact ih (records_perform h backend call)

/-- A citation that is accepted writes a phrase that links what it cites to its place in the list,
whatever is cited later. -/
theorem links_perform {style : CitationStyle} {records : List Record} {reply : Reply} {t : Session}
    (h : s.perform backend (.cite style records) = (.ok reply, t)) (hr : records ≠ []) :
    ∃ phrase, t.document.output = (s.document.output.write (backend.passage phrase)).stream ∧
      ∀ later : Bibliography, t.document.bibliography.works <+: later.works →
        later.records.Nodup → later.Links records phrase := by
  rw [perform_cite, if_neg hr] at h
  split at h
  · cases h
  · cases h
    refine ⟨_, rfl, fun later hp nodup ↦ ?_⟩
    exact Bibliography.links_cite hp nodup style

end Session

end Manuscript
