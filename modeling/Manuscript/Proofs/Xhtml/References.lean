import Manuscript.Proofs.Document.References
import Manuscript.Proofs.Xhtml.Afterwards

/-!
# Citations and the reference list

The file of a closed document holds what was written before the end of the body, the reference
list, and the end of the body (`Session.node?_endsBody`). The list has an item for each work that
had been cited, in the order of first citation, and every link of a citation shows the position of
the work that is cited and leads to its item (`Session.citations_run`).
-/

namespace Manuscript

open Markup Xhtml

namespace Xhtml

/-- The item of a work in the reference list. -/
def listItem (work : CitedWork) : String :=
  element "li" [("id", work.key)] (backend.passage work.record.entry).markup

/-- The reference list under its heading behind a line break, nothing without any works. -/
def referenceList (lineBreak : String) (works : List CitedWork) : String :=
  if works = [] then ""
  else lineBreak ++ element "div" (classed "references")
    (element "h2" (classed "sectionHead") "References" ++
      element "ol" (classed "references") (String.join (works.map listItem)))

theorem markup_entries (number : Nat) (works : List CitedWork) :
    (backend.entries number works).markup = String.join (works.map listItem) := by
  induction works generalizing number with
  | nil => rfl
  | cons work others ih =>
    rw [List.map_cons, String.join_cons, ← ih (number + 1)]
    rfl

theorem markup_references (lineBreak : String) (works : List CitedWork) :
    (backend.references lineBreak works).markup = referenceList lineBreak works := by
  rw [Backend.references, referenceList]
  split
  · rfl
  · change lineBreak ++ bibliographyStart ++ (backend.entries 1 works).markup ++ _ = _
    rw [markup_entries]
    simp only [bibliographyStart, element, backend, String.append_assoc]

theorem referenceList_eq_empty_iff {lineBreak : String} {works : List CitedWork} :
    referenceList lineBreak works = "" ↔ works = [] := by
  rw [referenceList]
  split
  · next hw => simp [hw]
  · next hw => simp [hw, element, startTag, String.append_eq_empty_iff]

end Xhtml

/-- What stands before markup on a line of its own outside of all elements. -/
def Settings.lineBreak (settings : Settings) : String := if settings.humanReadable then "\n" else ""

namespace Session

variable {loose : String → Prop} {s : Session} {calls before after : List Call}

/-! ### The end of the body -/

/-- The end of the body puts the reference list before the end of the body. -/
theorem whole_endBody (h : s.document.Settled loose) (hi : s.document.innermost = some .body) :
    (s.perform backend (.endElement .body)).2.document.phase = .done ∧
      (s.perform backend (.endElement .body)).2.document.output.whole =
        s.document.output.whole ++
          (referenceList s.document.settings.lineBreak s.document.bibliography.works ++
            backend.bodyEnd) := by
  obtain ⟨root, performed⟩ := @perform_endBody backend s h.nested hi
  let ended := { s.document with frames := [], tagDepth := 0 }
  have outermost : ended.lineBreak = s.document.settings.lineBreak := rfl
  rw [performed]
  constructor
  · rfl
  · change ((ended.endBody backend).output.stream).whole = _
    rw [Output.whole_stream, Document.endBody, outermost, ← markup_references]
    change (s.document.output.write _).whole = _
    rw [Output.whole_write, root, if_pos List.length_nil]
    rfl

/-- Where the body is ended it has not been ended before. -/
theorem EndsBody.first (free : ∀ id, loose id) (h : s.document.Settled loose)
    (he : s.EndsBody calls before after) {early late : List Call}
    (hb : before = early ++ .endElement .body :: late) :
    (s.run backend early).document.innermost ≠ some .body := by
  intro hi
  have settled (calls : List Call) : (s.run backend calls).document.Settled loose :=
    settled_run_of_forall calls free h
  have ended := settled (early ++ [.endElement .body])
  have done : (s.run backend before).document.phase = .done := by
    have phase := (whole_endBody (settled early) hi).1
    rw [hb, List.append_cons, run_append]
    apply (run_done late free ended _).1
    rw [run_append]
    exact phase
  obtain ⟨frame, hf, hk⟩ := Option.map_eq_some_iff.mp (innermost_of_endElement he.2)
  have body := ((settled before).placed frame (List.mem_of_head? hf)).body hk
  cases done.symm.trans body

/-- A closed document has its body ended. Its file holds what had been written till then, the
reference list, and the end of the body. -/
theorem node?_endsBody (free : ∀ id, loose id) (h : s.document.Settled loose)
    (hl : FileSystem.EndsIn s.document.place 'l') {summary : Summary} {final : FileSystem}
    (hc : (s.run backend calls).close backend = (.ok summary, final))
    (he : s.EndsBody calls before after) :
    final.node? s.document.place = some (.text ((s.run backend before).document.output.whole ++
      (referenceList s.document.settings.lineBreak
        (s.run backend before).document.bibliography.works ++ backend.bodyEnd))) := by
  obtain ⟨rfl, accepted⟩ := he
  have origin (calls : List Call) : (s.run backend calls).document.origin = s.document.origin :=
    run_keeps (keeps_origin_action backend) calls s
  have settled : (s.run backend before).document.Settled loose :=
    settled_run_of_forall before free h
  have place := congrArg (·.2.2.2.2) (origin (before ++ .endElement .body :: after))
  have settings : (s.run backend before).document.settings = s.document.settings :=
    congrArg Prod.fst (origin before)
  obtain ⟨done, ended⟩ := whole_endBody settled (innermost_of_endElement accepted)
  have later := (settled_perform_of_forall (.endElement .body) free settled).1
  rw [← settings, ← ended, ← (run_done after free later done).2, ← run_cons, ← run_append]
  change (s.run backend _).document.place = s.document.place at place
  rw [← place] at hl ⊢
  exact (node?_of_close hl hc).2.2

/-! ### Closed documents -/

/-- A citation that is accepted and cites anything writes a phrase whose links lead to the places of
the cited works in a list. Otherwise it does nothing. -/
structure CitesFrom (list : Bibliography) (s : Session) (style : CitationStyle)
    (records : List Record) : Prop where
  accepted : ∀ reply t, s.perform backend (.cite style records) = (.ok reply, t) → records ≠ [] →
    ∃ phrase, t.document.output = (s.document.output.write (backend.passage phrase)).stream ∧
      list.Links records phrase
  refused : ∀ error t, s.perform backend (.cite style records) = (.error error, t) → t = s
  nothing : s.perform backend (.cite style []) = (.ok .done, s)

/-- The reference list in the file of a document whose body is ended after some calls. -/
structure Listed (s : Session) (before : List Call) (final : FileSystem) : Prop where
  ordered : (s.run backend before).document.bibliography.records =
    (s.cited backend before).eraseDups
  once : (s.run backend before).document.bibliography.records.Nodup
  keys : (s.run backend before).document.bibliography.keys.Nodup
  /-- What stands in front of the list does not depend on how a list is marked up. -/
  file : ∃ front,
    (∀ markup, (s.run (backend.withReferences markup) before).document.output.whole = front) ∧
    final.node? s.document.place = some (.text (front ++
      (referenceList s.document.settings.lineBreak
        (s.run backend before).document.bibliography.works ++ backend.bodyEnd)))
  present : referenceList s.document.settings.lineBreak
    (s.run backend before).document.bibliography.works ≠ "" ↔ s.cited backend before ≠ []
  linked : ∀ early style records late, before = early ++ .cite style records :: late →
    CitesFrom (s.run backend before).document.bibliography (s.run backend early) style records

/-- What a citation links stays where it is until the list is written. -/
theorem citesFrom_run {early late : List Call} {style : CitationStyle} {records : List Record}
    (hb : before = early ++ .cite style records :: late)
    (once : (s.run backend before).document.bibliography.records.Nodup) :
    CitesFrom (s.run backend before).document.bibliography (s.run backend early) style records where
  accepted := by
    intro reply t hp hr
    obtain ⟨phrase, written, links⟩ := links_perform hp hr
    refine ⟨phrase, written, links _ ?_ once⟩
    rw [hb, run_append, run_cons, hp]
    exact works_prefix_run backend late t
  refused := by
    intro error t hp
    rw [perform_cite] at hp
    split at hp
    · cases hp
    · split at hp <;> cases hp
      rfl
  nothing := by rw [perform_cite, if_pos rfl]

theorem listed_of_endsBody (free : ∀ id, loose id) (h : s.document.Settled loose)
    (fresh : s.document.bibliography = {}) (hl : FileSystem.EndsIn s.document.place 'l')
    {summary : Summary} {final : FileSystem}
    (hc : (s.run backend calls).close backend = (.ok summary, final))
    (he : s.EndsBody calls before after) : s.Listed before final := by
  have ordered : (s.run backend before).document.bibliography.records =
      (s.cited backend before).eraseDups := by
    have none_ : s.document.bibliography.records = List.eraseDups [] := by
      rw [fresh]
      rfl
    exact records_run none_ backend before
  have once : (s.run backend before).document.bibliography.records.Nodup := by
    rw [ordered]
    exact nodup_eraseDups _
  have known := (lasting_extends s.document.labels).run backend before
    (show Lasting.Holds _ s from ⟨.refl _, fresh ▸ Bibliography.keyed_empty⟩)
  constructor
  case ordered => exact ordered
  case once => exact once
  case keys => exact known.2.nodup
  case file =>
    refine ⟨_, fun markup ↦ ?_, node?_endsBody free h hl hc he⟩
    rw [run_withReferences]
    intro early late hb
    exact he.first free h hb
  case present => rw [Ne, referenceList_eq_empty_iff, Bibliography.works_eq_nil_iff ordered]
  case linked =>
    intro early style records late hb
    exact citesFrom_run hb once

/-- The reference list in the file of a closed document holds each work that had been cited when the
body was ended, once and in the order of first citation, and is there if anything had been cited.
Every link of a citation shows the position of the work that is cited and leads to its item. Works
keep their positions and their keys for the rest of a run. -/
theorem citations_run (context used : Context) (serial : Nat) (files : FileSystem) (s : Session)
    (hs : context.createDocument backend serial files = .ok (s, used)) (calls : List Call)
    (summary : Summary) (final : FileSystem)
    (hc : (s.run backend calls).close backend = (.ok summary, final)) :
    (∃ before after, s.EndsBody calls before after) ∧
    (∀ before after, s.EndsBody calls before after → s.Listed before final) ∧
    (∀ early late, (s.run backend early).document.bibliography.works <+:
      (s.run backend (early ++ late)).document.bibliography.works) := by
  obtain ⟨path, place, hd⟩ := context.exists_document_of_createDocument hs
  have start : s.document.Settled fun _ ↦ True := hd ▸ context.settled_document path place serial
  have ending := context.endsIn_createDocument hs (c := 'l') (by decide) (by decide) (by decide)
  have there : (s.run backend calls).document.place = s.document.place :=
    congrArg (·.2.2.2.2) (run_keeps (keeps_origin_action backend) calls s)
  constructor
  · have done := (node?_of_close (there ▸ ending) hc).2.1
    have begun : s.document.phase = .start := hd ▸ rfl
    exact exists_endsBody (fun _ ↦ trivial) start (fun hp ↦ by cases begun.symm.trans hp) done
  constructor
  · intro before after he
    exact listed_of_endsBody (fun _ ↦ trivial) start (hd ▸ rfl) ending hc he
  · intro early late
    rw [run_append]
    exact works_prefix_run backend late _

/-- A web page of an author. -/
def page (family : String) (year : Nat) : Record :=
  { authors := [⟨"A.", family⟩], title := "Search", date := some ⟨year, .year⟩,
    kind := .website none }

/-- A paragraph that cites two works, and the second of them again. -/
def twoCitations : List Call :=
  [.beginElement .header, .endElement .header, .beginElement .body, .beginElement .paragraph,
    .cite .authorsAndNumbers [page "Chiong" 2020, page "Weise" 2019],
    .cite .numbers [page "Weise" 2019], .endElement .paragraph]

/-- The second work is second in the list, under the key that both citations link to. -/
theorem citations_run_two :
    ∃ s used summary final,
      (⟨⟨"/"⟩, "index", {}, false⟩ : Context).createDocument backend 0 {} = .ok (s, used) ∧
      (s.run backend (twoCitations ++ [.endElement .body])).close backend = (.ok summary, final) ∧
      s.Listed twoCitations final ∧
      (s.run backend twoCitations).document.bibliography.works =
        [⟨page "Chiong" 2020, "chiong2020"⟩, ⟨page "Weise" 2019, "weise2019"⟩] := by
  obtain ⟨s, used, made, accepted, works, closed⟩ : ∃ s used,
      (⟨⟨"/"⟩, "index", {}, false⟩ : Context).createDocument backend 0 {} = .ok (s, used) ∧
      ((s.run backend twoCitations).perform backend (.endElement .body)).1.isOk = true ∧
      (s.run backend twoCitations).document.bibliography.works =
        [⟨page "Chiong" 2020, "chiong2020"⟩, ⟨page "Weise" 2019, "weise2019"⟩] ∧
      ((s.run backend (twoCitations ++ [.endElement .body])).close backend).1.isOk = true :=
    ⟨_, _, rfl, by decide +kernel, by decide +kernel, by decide +kernel⟩
  cases hc : (s.run backend (twoCitations ++ [.endElement .body])).close backend with
  | mk answer final =>
    rw [hc] at closed
    cases answer with
    | error error => cases closed
    | ok summary =>
      have listed := (citations_run _ used 0 {} s made _ summary final hc).2.1
      exact ⟨s, used, summary, final, made, hc, listed twoCitations [] ⟨rfl, accepted⟩, works⟩

end Session

end Manuscript
