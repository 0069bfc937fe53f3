import Manuscript.Proofs.Xhtml.References

/-!
# The number of cited works

A closed document tells how many works have been cited in it, and its reference list has those that
had been cited when the body was ended. What is cited afterwards is cited inside of a macro
(`Session.outermost_of_cites`), and is counted though it is not listed: the count is that of the
items if, and only if, nothing is cited there for the first time (`Session.counted_run`).
-/

namespace Manuscript

open Markup Xhtml

/-- What follows a list adds nothing new to it if all of it has been in the list before. -/
theorem length_eraseDups_append_eq_iff {α : Type} [BEq α] [LawfulBEq α] {front back : List α} :
    (front ++ back).eraseDups.length = front.eraseDups.length ↔ ∀ a ∈ back, a ∈ front := by
  have nothing_new : (back.removeAll front).eraseDups = [] ↔ ∀ a ∈ back, a ∈ front := by
    simp [List.eq_nil_iff_forall_not_mem, List.removeAll]
  rw [List.eraseDups_append, List.length_append, ← nothing_new, ← List.length_eq_zero_iff]
  omega

/-- The outermost open element may stand at the root. -/
theorem Frames.Nested.allowedAtRoot {frames : Frames} (h : frames.Nested) {frame : Frame}
    (hl : frames.getLast? = some frame) : frame.kind.allowedAtRoot = true := by
  induction frames with
  | nil => cases hl
  | cons inner outer ih =>
    cases outer with
    | nil =>
      cases hl
      exact h.1.allowed
    | cons next rest => exact ih h.2 (by rwa [List.getLast?_cons_cons] at hl)

namespace Session

variable {loose : String → Prop} {s : Session} {calls before after : List Call}

/-- After the body a work can only be cited inside of a macro that is begun at the root. -/
theorem outermost_of_cites {call : Call} (h : s.document.Settled loose)
    (hp : s.document.phase = .done) (hc : call.cites (s.perform backend call).1.isOk ≠ []) :
    ∃ frame, s.document.frames.getLast? = some frame ∧ frame.kind = .macroDefinition := by
  obtain ⟨style, records, rfl⟩ : ∃ style records, call = .cite style records := by
    cases call with
    | cite style records => exact ⟨style, records, rfl⟩
    | _ => exact absurd rfl hc
  have some_ : records ≠ [] := by
    rintro rfl
    rw [Call.cites] at hc
    split at hc <;> exact hc rfl
  cases ho : s.document.frames.getLast? with
  | none =>
    -- Nothing is open, and no text is allowed at the root.
    have root : s.document.innermost = none := by
      rw [Document.innermost, List.getLast?_eq_none_iff.mp ho]
      rfl
    rw [perform_cite, if_neg some_, Document.textError, root] at hc
    exact absurd rfl hc
  | some frame =>
    have placed := h.placed frame (List.mem_of_getLast? ho)
    refine ⟨frame, rfl, ?_⟩
    rcases Kind.eq_of_allowedAtRoot (h.nested.frames.allowedAtRoot ho) with hk | hk | hk
    · cases hp.symm.trans (placed.header hk)
    · cases hp.symm.trans (placed.body hk)
    · exact hk

/-- How many works are counted in a closed document whose body is ended between two parts of its
calls, and how many of them are listed. -/
structure Tallied (s : Session) (calls before after : List Call) (citations : Nat) : Prop where
  listed : (s.run backend before).document.bibliography.works.length =
    (s.cited backend before).eraseDups.length
  counted : citations = (s.cited backend calls).eraseDups.length
  le : (s.run backend before).document.bibliography.works.length ≤ citations
  /-- All that is counted is listed if nothing is cited for the first time after the body. -/
  eq_iff : citations = (s.run backend before).document.bibliography.works.length ↔
    ∀ record ∈ s.cited backend calls, record ∈ s.cited backend before
  /-- What is cited after the body is cited in a macro that was begun there. -/
  within : ∀ early call late, after = early ++ call :: late →
    let there := s.run backend (before ++ .endElement .body :: early)
    call.cites (there.perform backend call).1.isOk ≠ [] →
      ∃ frame, there.document.frames.getLast? = some frame ∧ frame.kind = .macroDefinition

theorem tallied_of_endsBody (free : ∀ id, loose id) (h : s.document.Settled loose)
    (fresh : s.document.bibliography = {}) (he : s.EndsBody calls before after) :
    s.Tallied calls before after (s.run backend calls).document.bibliography.works.length := by
  have records (calls : List Call) : (s.run backend calls).document.bibliography.works.length =
      (s.cited backend calls).eraseDups.length := by
    have none_ : s.document.bibliography.records = List.eraseDups [] := by
      rw [fresh]
      rfl
    have cited := congrArg List.length (records_run none_ backend calls)
    rwa [Bibliography.records, List.length_map, List.nil_append] at cited
  obtain ⟨rfl, accepted⟩ := he
  constructor
  case listed => exact records before
  case counted => exact records _
  case le =>
    rw [run_append]
    exact (works_prefix_run backend _ _).length_le
  case eq_iff =>
    rw [records, records, cited_append, length_eraseDups_append_eq_iff]
    simp only [List.mem_append]
    exact forall_congr' fun record ↦ ⟨fun new hr ↦ hr.elim id new, fun all hr ↦ all (.inr hr)⟩
  case within =>
    rintro early call late rfl there cites
    have settled : (s.run backend before).document.Settled loose :=
      settled_run_of_forall before free h
    have done := (whole_endBody settled (innermost_of_endElement accepted)).1
    have later := (settled_perform_of_forall (.endElement .body) free settled).1
    have same : there = ((s.run backend before).perform backend (.endElement .body)).2.run
        backend early := run_append ..
    rw [same] at cites ⊢
    exact outermost_of_cites (settled_run_of_forall early free later)
      (run_done early free later done).1 cites

/-- The count of a closed document is the number of the works cited in it, and its reference list
has an item for each of those that had been cited when the body was ended. Both are the same exactly
when nothing is cited for the first time after the body, where nothing is cited but in macros. -/
theorem counted_run (context used : Context) (serial : Nat) (files : FileSystem) (s : Session)
    (hs : context.createDocument backend serial files = .ok (s, used)) (calls : List Call)
    (summary : Summary) (final : FileSystem)
    (hc : (s.run backend calls).close backend = (.ok summary, final)) :
    (∃ before after, s.EndsBody calls before after) ∧
    ∀ before after, s.EndsBody calls before after →
      s.Listed before final ∧ s.Tallied calls before after summary.citations := by
  obtain ⟨path, place, hd⟩ := context.exists_document_of_createDocument hs
  have start : s.document.Settled fun _ ↦ True := hd ▸ context.settled_document path place serial
  have ending := context.endsIn_createDocument hs (c := 'l') (by decide) (by decide) (by decide)
  obtain ⟨closed, _, summed⟩ := closeFault_of_close hc
  have citations : summary.citations =
      (s.run backend calls).document.bibliography.works.length := by
    rw [summed]
    rfl
  constructor
  · have begun : s.document.phase ≠ .done := by
      rw [hd]
      exact nofun
    exact exists_endsBody (fun _ ↦ trivial) start begun (closeFault_eq_none closed).2
  · intro before after he
    rw [citations]
    exact ⟨listed_of_endsBody (fun _ ↦ trivial) start (hd ▸ rfl) ending hc he,
      tallied_of_endsBody (fun _ ↦ trivial) start (hd ▸ rfl) he⟩

/-- A paragraph that cites a work. -/
def oneCitation : List Call :=
  [.beginElement .header, .endElement .header, .beginElement .body, .beginElement .paragraph,
    .cite .numbers [page "Chiong" 2020], .endElement .paragraph]

/-- A macro in which the same work and another one are cited. -/
def citingMacro : List Call :=
  [.beginElement (.macroDefinition ⟨"late", 0, Nat.zero_le _⟩),
    .cite .numbers [page "Chiong" 2020, page "Weise" 2019], .endElement .macroDefinition]

/-- With a new work in a macro after the body, two works are counted and one is listed. -/
theorem counted_run_late :
    ∃ s used summary final,
      (⟨⟨"/"⟩, "index", {}, false⟩ : Context).createDocument backend 0 {} = .ok (s, used) ∧
      (s.run backend (oneCitation ++ .endElement .body :: citingMacro)).close backend =
        (.ok summary, final) ∧
      s.Listed oneCitation final ∧
      (s.run backend oneCitation).document.bibliography.works =
        [⟨page "Chiong" 2020, "chiong2020"⟩] ∧
      summary.citations = 2 := by
  obtain ⟨s, used, made, accepted, works, closed, cited⟩ : ∃ s used,
      (⟨⟨"/"⟩, "index", {}, false⟩ : Context).createDocument backend 0 {} = .ok (s, used) ∧
      ((s.run backend oneCitation).perform backend (.endElement .body)).1.isOk = true ∧
      (s.run backend oneCitation).document.bibliography.works =
        [⟨page "Chiong" 2020, "chiong2020"⟩] ∧
      ((s.run backend (oneCitation ++ .endElement .body :: citingMacro)).close backend).1.isOk =
        true ∧
      s.cited backend (oneCitation ++ .endElement .body :: citingMacro) =
        [page "Chiong" 2020, page "Chiong" 2020, page "Weise" 2019] :=
    ⟨_, _, rfl, by decide +kernel, by decide +kernel, by decide +kernel, by decide +kernel⟩
  cases hc : (s.run backend (oneCitation ++ .endElement .body :: citingMacro)).close backend with
  | mk answer final =>
    rw [hc] at closed
    cases answer with
    | error error => cases closed
    | ok summary =>
      obtain ⟨listed, counted⟩ := (counted_run _ used 0 {} s made _ summary final hc).2
        oneCitation citingMacro ⟨rfl, accepted⟩
      have two := counted.counted
      rw [cited] at two
      exact ⟨s, used, summary, final, made, hc, listed, works, two⟩

end Session

end Manuscript
