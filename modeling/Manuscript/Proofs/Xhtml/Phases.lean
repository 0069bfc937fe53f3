import Manuscript.Proofs.Xhtml.References

/-!
# The phases of a document and its file

The phases of a document come in order, and none comes again (`Session.Forward`). The file of a
closed document holds the cover of the backend around what has been written into the body, and
nothing else, whatever the cover is (`Session.Enclosed`).
-/

namespace Manuscript

open Markup Xhtml

variable {loose : String → Prop}

/-- Where the phase comes in the order of the phases. -/
def Phase.rank : Phase → Nat
  | .start => 0
  | .header => 1
  | .headerDone => 2
  | .body => 3
  | .done => 4

/-- A document at the end of its phases can be closed where nothing is open. -/
theorem Document.closeFault_eq_none_of_closed {d : Document} (nested : d.Nested) (hf : d.frames = [])
    (hp : d.phase = .done) : d.closeFault = none := by
  have captures := nested.captures_eq
  rw [hf] at captures
  have free : d.output.captures = [] := List.length_eq_zero_iff.mp captures
  simp [Document.closeFault, Document.innermost, Frames.innermost, hf, hp, free]

/-! ### The head -/

/-- Where a part of the head is open, so is the header. -/
theorem Frames.Nested.exists_header {frame : Frame} {outer : Frames}
    (h : Nested (frame :: outer)) (hk : frame.kind.isHeadline = true) :
    ∃ header ∈ outer, header.kind = .header := by
  have inside {frames : Frames} (hi : frames.innermost = some .header) :
      ∃ header ∈ frames, header.kind = .header := by
    obtain ⟨header, hf, hk⟩ := Option.map_eq_some_iff.mp hi
    exact ⟨header, List.mem_of_head? hf, hk⟩
  have allowed := h.1.allowed
  revert allowed hk
  generalize frame.kind = kind
  intro hk allowed
  cases kind with
  | title => exact inside (Kind.parent_eq rfl (fun _ ↦ rfl) allowed)
  | date => exact inside (Kind.parent_eq rfl (fun _ ↦ rfl) allowed)
  | author =>
    have parent := Kind.parent_eq rfl (fun _ ↦ rfl) allowed
    cases outer with
    | nil => cases parent
    | cons authors outer =>
      have allowed : Kind.authors.allowedIn (Frames.innermost outer) = true :=
        Option.some.inj parent ▸ h.2.1.allowed
      obtain ⟨header, hm, hk⟩ := inside (Kind.parent_eq rfl (fun _ ↦ rfl) allowed)
      exact ⟨header, List.mem_cons_of_mem _ hm, hk⟩
  | _ => cases hk

namespace Session

variable {s : Session}

/-- Unless the header is open, no call adds to the head. -/
theorem head_perform_outside (call : Call) (h : s.document.Settled loose)
    (hp : s.document.phase ≠ .header) :
    (s.perform backend call).2.document.head = s.document.head := by
  by_cases he : ∃ kind, call = .endElement kind
  · obtain ⟨kind, rfl⟩ := he
    by_cases hi : s.document.innermost = some kind
    · obtain ⟨frame, outer, hf, rfl⟩ := Document.exists_of_innermost hi
      refine head_endElement h.nested hf ?_
      cases hk : frame.kind.isHeadline with
      | false => rfl
      | true =>
        obtain ⟨header, hm, header_⟩ := (hf ▸ h.nested.frames : Frames.Nested _).exists_header hk
        exact absurd ((h.placed header (hf ▸ List.mem_cons_of_mem _ hm)).header header_) hp
    · rw [perform_endElement_unbalanced hi]
  · exact head_perform_of_ne call fun kind hc ↦ he ⟨kind, hc⟩

end Session

/-! ### Two covers -/

/-- With some content in the body the document has written its cover as far as it has come, and so
has another cover in another output. -/
structure Document.Covered (cover : Cover) (content : String) (d : Document) (other : Output) :
    Prop where
  captures : other.captures = d.output.captures
  whole : d.output.whole = backend.cover.page d.head content d.phase
  other : other.whole = cover.page d.head content d.phase
  fresh : d.phase ≠ .body → d.phase ≠ .done → content = ""

/-- What a document nests it nests with another output as well. -/
theorem Document.Covered.nested {cover : Cover} {content : String} {d : Document} {other : Output}
    (h : d.Covered cover content other) (nested : d.Nested) :
    ({ d with output := other } : Document).Nested := by
  refine Document.nested_of_outline nested ?_
  exact congrArg (fun captures ↦ (_, _, List.length captures)) h.captures

/-- What is gained while nothing is held back reaches the root. -/
theorem Output.Gains.whole {output output' : Output} {passage : Passage}
    (h : output.Gains passage output') (root : output.captures = []) :
    output'.captures = [] ∧ output'.whole = output.whole ++ passage.markup := by
  induction h with
  | nothing => exact ⟨root, String.append_empty.symm⟩
  | @write passage output' last _ ih =>
    refine ⟨?_, ?_⟩
    · rw [← List.length_eq_zero_iff, length_captures_write, ih.1, List.length_nil]
    · rw [whole_write, ih.1, ih.2, if_pos List.length_nil, String.append_assoc]
      rfl
  | stream _ ih => exact ⟨(captures_stream _).trans ih.1, (whole_stream _).trans ih.2⟩

/-- A part of the cover or of the content that is written at the root brings the document on. -/
theorem Document.Covered.gain {cover : Cover} {content content' : String} {d e : Document}
    {other other' : Output} {part part' : Passage} (h : d.Covered cover content other)
    (root : d.output.captures = []) (own : d.output.Gains part e.output)
    (new : other.Gains part' other')
    (turn : backend.cover.page d.head content d.phase ++ part.markup =
      backend.cover.page e.head content' e.phase)
    (turn' : cover.page d.head content d.phase ++ part'.markup = cover.page e.head content' e.phase)
    (fresh : e.phase ≠ .body → e.phase ≠ .done → content' = "") :
    e.Covered cover content' other' := by
  obtain ⟨captures, whole⟩ := own.whole root
  obtain ⟨captures', whole'⟩ := new.whole (h.captures.trans root)
  exact ⟨captures'.trans captures.symm, by rw [whole, h.whole, turn], by rw [whole', h.other, turn'],
    fresh⟩

namespace Session

variable {s : Session} {cover : Cover} {content : String} {other : Output}

/-- A call that is no turn of the document does the same with both covers. -/
theorem covered_perform_aside {call : Call} (h : s.document.Covered cover content other)
    (hs : s.document.Settled loose)
    (ht : (s.perform backend call).1.isOk = true → call.turns = false)
    (hp : (s.perform backend call).2.document.phase = s.document.phase) :
    ∃ more other', (s.withOutput other).perform (backend.withCover cover) call =
        ((s.perform backend call).1, (s.perform backend call).2.withOutput other') ∧
      (s.perform backend call).2.document.Covered cover (content ++ more) other' := by
  obtain ⟨steps, performed⟩ := exists_steps_perform backend call s
  have same := performed other h.captures
  have own : (s.perform backend call).2.document.output = s.document.output.follow steps :=
    congrArg (·.2.document.output) (performed s.document.output rfl)
  have uncovered : (s.withOutput other).perform (backend.withCover cover) call =
      (s.withOutput other).perform backend call :=
    perform_withCover (h.nested hs.nested) (by rw [same]; exact ht)
  have depth : other.captures.length = s.document.output.captures.length :=
    congrArg List.length h.captures
  let more := Output.rooted s.document.output.captures.length steps
  have whole : (s.perform backend call).2.document.output.whole =
      s.document.output.whole ++ more := by rw [own, Output.whole_follow]
  have whole' : (other.follow steps).whole = other.whole ++ more := by
    rw [Output.whole_follow, depth]
  have captures : (other.follow steps).captures =
      (s.perform backend call).2.document.output.captures := by
    rw [own]
    exact Output.captures_follow h.captures steps
  by_cases hb : s.document.phase = .body
  · have head : (s.perform backend call).2.document.head = s.document.head :=
      head_perform_outside call hs (by rw [hb]; decide)
    have body (cover : Cover) : cover.page s.document.head content .body ++ more =
        cover.page s.document.head (content ++ more) .body := String.append_assoc
    refine ⟨more, other.follow steps, uncovered.trans same, captures, ?_, ?_, fun hn ↦ ?_⟩
    · rw [whole, h.whole, head, hp, hb, body]
    · rw [whole', h.other, head, hp, hb, body]
    · exact absurd (hp.trans hb) hn
  · have nothing : more = "" := by
      have still := perform_outside call hs hb ht
      rw [whole] at still
      simpa using still
    have page (cover : Cover) : cover.page (s.perform backend call).2.document.head content
        (s.perform backend call).2.document.phase =
          cover.page s.document.head content s.document.phase := by
      rw [hp]
      by_cases hh : s.document.phase = .header
      · rw [hh]
        rfl
      · rw [head_perform_outside call hs hh]
    refine ⟨"", other.follow steps, uncovered.trans same, captures, ?_, ?_, fun hn hd ↦ ?_⟩
    · rw [whole, nothing, String.append_empty, String.append_empty, page, h.whole]
    · rw [whole', nothing, String.append_empty, String.append_empty, page, h.other]
    · rw [String.append_empty]
      rw [hp] at hn hd
      exact h.fresh hn hd

/-- What may be begun at the root alone is begun where nothing is open. -/
theorem nothing_open_of_begin {element : Element} (hs : s.document.Nested)
    (hw : ∀ parent, element.kind.allowedWithin parent = false)
    (allowed : element.kind.allowedIn s.document.innermost = true) :
    s.document.frames = [] ∧ s.document.output.captures = [] := by
  have nothing : s.document.frames = [] := Frames.eq_nil_of_allowedIn hw allowed
  have captures := hs.captures_eq
  rw [nothing] at captures
  exact ⟨nothing, List.length_eq_zero_iff.mp captures⟩

/-- At the end of the header the rest of the head is written. -/
theorem covered_endHeader (h : s.document.Covered cover content other) (hs : s.document.Settled loose)
    (hp : s.document.phase = .header) (hi : s.document.innermost = some .header) :
    ∃ other', (s.withOutput other).perform (backend.withCover cover) (.endElement .header) =
        ((s.perform backend (.endElement .header)).1,
          (s.perform backend (.endElement .header)).2.withOutput other') ∧
      (s.perform backend (.endElement .header)).2.document.Covered cover content other' := by
  obtain ⟨frame, hf, -, open_, root⟩ :=
    hs.nested.exists_outermost hi (fun _ ↦ rfl) (by decide) rfl
  have head : (s.document.endHeader backend).head = s.document.head := by
    simp [Document.endHeader, Document.pop, Document.emit, Document.append, Document.stream, hf]
  have own : (s.document.endHeader backend).output =
      (s.document.output.write ⟨backend.cover.metadata s.document.head, ""⟩).stream := by
    simp [Document.endHeader, Document.pop, Document.emit, Document.append, Document.stream, hf,
      open_]
  have new : (s.withOutput other).modifyDocument (Document.endHeader (backend.withCover cover)) =
      (s.modifyDocument (Document.endHeader backend)).withOutput
        (other.write ⟨cover.metadata s.document.head, ""⟩).stream := by
    simp only [Session.withOutput, Session.modifyDocument, Document.endHeader, Document.pop, hf,
      open_]
    rfl
  have page (cover : Cover) : cover.page s.document.head content s.document.phase ++
      cover.metadata s.document.head =
        cover.page (s.document.endHeader backend).head content .headerDone := by
    rw [hp, head]
    rfl
  have gains : s.document.output.Gains ⟨backend.cover.metadata s.document.head, ""⟩
      (s.document.endHeader backend).output := own ▸ (Output.gains_write _ _).stream
  rw [perform_endHeader hs.nested hi,
    perform_endHeader (s := s.withOutput other) (h.nested hs.nested) hi, new]
  refine ⟨_, rfl, h.gain root gains (Output.gains_write _ _).stream (page _) (page _) ?_⟩
  exact fun _ _ ↦ h.fresh (by rw [hp]; decide) (by rw [hp]; decide)

/-- At the end of the body the reference list and the end of the body are written. -/
theorem covered_endBody (h : s.document.Covered cover content other) (hs : s.document.Settled loose)
    (hp : s.document.phase = .body) (hi : s.document.innermost = some .body) :
    ∃ more other', (s.withOutput other).perform (backend.withCover cover) (.endElement .body) =
        ((s.perform backend (.endElement .body)).1,
          (s.perform backend (.endElement .body)).2.withOutput other') ∧
      (s.perform backend (.endElement .body)).2.document.Covered cover (content ++ more) other' := by
  have root := (@perform_endBody backend s hs.nested hi).1
  have performed := @perform_endBody_withCover backend backend.cover s hs.nested hi
  have performed' := @perform_endBody_withCover backend cover (s.withOutput other)
    (h.nested hs.nested) hi
  rw [Backend.withCover_cover] at performed
  generalize hl : backend.references
    ({ s.document with frames := [], tagDepth := 0 } : Document).lineBreak
      s.document.bibliography.works = list at performed
  have gains (output : Output) (bodyEnd : String) :
      output.Gains (list ++ ⟨bodyEnd, ""⟩) (output.write (list ++ ⟨bodyEnd, ""⟩)).stream :=
    (Output.gains_write _ _).stream
  have page (cover : Cover) : cover.page s.document.head content s.document.phase ++
      (list ++ (⟨cover.bodyEnd, ""⟩ : Passage)).markup =
        cover.page s.document.head (content ++ list.markup) .done := by
    rw [hp]
    simp only [Cover.page, String.append_assoc]
    rfl
  rw [performed, performed']
  subst hl
  exact ⟨_, _, rfl, h.gain root (gains _ backend.bodyEnd) (gains _ cover.bodyEnd)
    (page backend.cover) (page cover) fun _ hd ↦ absurd rfl hd⟩

/-- A turn of the document writes its part of the cover, and the end of the body writes the reference
list before it. -/
theorem covered_perform_turn {call : Call} (h : s.document.Covered cover content other)
    (hs : s.document.Settled loose) (accepted : (s.perform backend call).1.isOk = true)
    (turn : Turn s.document.phase call (s.perform backend call).2.document.phase) :
    ∃ more other', (s.withOutput other).perform (backend.withCover cover) call =
        ((s.perform backend call).1, (s.perform backend call).2.withOutput other') ∧
      (s.perform backend call).2.document.Covered cover (content ++ more) other' := by
  have fresh (hb : s.document.phase ≠ .body) (hd : s.document.phase ≠ .done) :
      content ++ "" = "" := by rw [h.fresh hb hd, String.append_empty]
  generalize hp : s.document.phase = phase at turn
  generalize (s.perform backend call).2.document.phase = phase' at turn
  cases turn with
  | beginHeader =>
    have fits := (exists_of_begin accepted).1
    have root := (nothing_open_of_begin hs.nested (fun _ ↦ rfl) fits.allowed).2
    rw [perform_beginHeader fits, perform_beginHeader (s := s.withOutput other)
      ⟨fits.allowed, fits.timely, fits.attachable⟩]
    have page (cover : Cover) : cover.page s.document.head content s.document.phase ++
        cover.documentStart = cover.page s.document.head (content ++ "") .header := by
      rw [hp]
      exact String.empty_append
    exact ⟨"", other.write ⟨cover.documentStart, ""⟩, rfl, h.gain root (Output.gains_write _ _)
      (Output.gains_write _ _) (page backend.cover) (page cover)
      fun _ _ ↦ fresh (by rw [hp]; decide) (by rw [hp]; decide)⟩
  | endHeader =>
    obtain ⟨other', performed, covered⟩ :=
      covered_endHeader h hs hp (innermost_of_endElement accepted)
    exact ⟨"", other', performed, by rwa [String.append_empty]⟩
  | beginBody =>
    have fits := (exists_of_begin accepted).1
    have root := (nothing_open_of_begin hs.nested (fun _ ↦ rfl) fits.allowed).2
    rw [perform_beginBody fits, perform_beginBody (s := s.withOutput other)
      ⟨fits.allowed, fits.timely, fits.attachable⟩]
    have page (cover : Cover) : cover.page s.document.head content s.document.phase ++
        cover.title s.document.head = cover.page s.document.head (content ++ "") .body := by
      rw [fresh (by rw [hp]; decide) (by rw [hp]; decide), hp]
      exact String.append_empty.symm
    exact ⟨"", other.write ⟨cover.title s.document.head, ""⟩, rfl, h.gain root
      (Output.gains_write _ _) (Output.gains_write _ _) (page backend.cover) (page cover)
      fun hn _ ↦ absurd rfl hn⟩
  | endBody => exact covered_endBody h hs hp (innermost_of_endElement accepted)

/-- Every call does the same with both covers, and adds to the content. -/
theorem covered_perform (call : Call) (free : ∀ id, loose id)
    (h : s.document.Covered cover content other) (hs : s.document.Settled loose) :
    ∃ more other', (s.withOutput other).perform (backend.withCover cover) call =
        ((s.perform backend call).1, (s.perform backend call).2.withOutput other') ∧
      (s.perform backend call).2.document.Covered cover (content ++ more) other' := by
  rcases turn_perform call free hs with ⟨accepted, turn⟩ | ⟨ht, hp⟩
  · exact covered_perform_turn h hs accepted turn
  · exact covered_perform_aside h hs ht hp

/-- Every run does the same with both covers. -/
theorem covered_run (calls : List Call) (free : ∀ id, loose id)
    (h : s.document.Covered cover content other) (hs : s.document.Settled loose) :
    ∃ more other', (s.withOutput other).run (backend.withCover cover) calls =
        (s.run backend calls).withOutput other' ∧
      (s.run backend calls).document.Covered cover (content ++ more) other' := by
  induction calls generalizing s content other with
  | nil => exact ⟨"", other, rfl, by rwa [String.append_empty]⟩
  | cons call calls ih =>
    obtain ⟨more, other', performed, covered⟩ := covered_perform call free h hs
    obtain ⟨others, last, run, covered⟩ :=
      ih covered (settled_perform_of_forall call free hs).1
    rw [run_cons, run_cons, performed, run]
    exact ⟨more ++ others, last, rfl, String.append_assoc ▸ covered⟩

/-! ### The order of the phases -/

theorem Turn.rank {phase phase' : Phase} {call : Call} (h : Turn phase call phase') :
    phase'.rank = phase.rank + 1 := by
  cases h <;> rfl

/-- No call leads back to an earlier phase. -/
theorem rank_perform (call : Call) (free : ∀ id, loose id) (hs : s.document.Settled loose) :
    s.document.phase.rank ≤ (s.perform backend call).2.document.phase.rank := by
  rcases turn_perform call free hs with ⟨_, turn⟩ | ⟨_, same⟩
  · rw [turn.rank]
    exact Nat.le_succ _
  · rw [same]

/-- No run leads back to an earlier phase. -/
theorem rank_run (calls : List Call) (free : ∀ id, loose id) (hs : s.document.Settled loose) :
    s.document.phase.rank ≤ (s.run backend calls).document.phase.rank := by
  induction calls generalizing s with
  | nil => exact Nat.le_refl _
  | cons call calls ih =>
    rw [run_cons]
    exact (rank_perform call free hs).trans (ih (settled_perform_of_forall call free hs).1)

/-- Once the header has been ended, a run leaves the head. -/
theorem head_run_outside (calls : List Call) (free : ∀ id, loose id)
    (hs : s.document.Settled loose) (hp : Phase.headerDone.rank ≤ s.document.phase.rank) :
    (s.run backend calls).document.head = s.document.head := by
  induction calls generalizing s with
  | nil => rfl
  | cons call calls ih =>
    have after : s.document.phase ≠ .header := by
      intro hh
      rw [hh] at hp
      exact absurd hp (by decide)
    rw [run_cons, ih (settled_perform_of_forall call free hs).1
      (hp.trans (rank_perform call free hs)), head_perform_outside call hs after]

/-- The call is accepted after the calls. -/
def Takes (s : Session) (calls : List Call) (call : Call) : Prop :=
  ((s.run backend calls).perform backend call).1.isOk = true

/-- The document has come to its phase in order. -/
structure Forward (s : Session) (calls : List Call) : Prop where
  /-- The next call leaves the phase, or is a turn to the next one. -/
  turn : ∀ call,
    let before := (s.run backend calls).document.phase
    let after := ((s.run backend calls).perform backend call).2.document.phase
    after = before ∨ s.Takes calls call ∧ Turn before call after
  /-- No run leads back. -/
  rank : ∀ more, (s.run backend calls).document.phase.rank ≤
    (s.run backend (calls ++ more)).document.phase.rank
  /-- The header begins once, and so does the body. -/
  once : ∀ element more, (Call.beginElement element).turns = true →
    s.Takes calls (.beginElement element) →
      ¬ s.Takes (calls ++ .beginElement element :: more) (.beginElement element)
  /-- The body begins after the end of the header. -/
  header : s.Takes calls (.beginElement .body) → ∃ before after,
    calls = before ++ .endElement .header :: after ∧ s.Takes before (.endElement .header)

/-- Where a turn of the document begins, the document has come to the phase before it. -/
theorem turn_of_begin {element : Element} (free : ∀ id, loose id) (hs : s.document.Settled loose)
    (ht : (Call.beginElement element).turns = true)
    (accepted : (s.perform backend (.beginElement element)).1.isOk = true) :
    Turn s.document.phase (.beginElement element)
      (s.perform backend (.beginElement element)).2.document.phase := by
  rcases turn_perform (.beginElement element) free hs with ⟨_, turn⟩ | ⟨aside, _⟩
  · exact turn
  · rw [aside accepted] at ht
    cases ht

theorem forward_run (calls : List Call) (free : ∀ id, loose id) (hs : s.document.Settled loose)
    (begun : s.document.phase = .start) : s.Forward calls where
  turn call := by
    rcases turn_perform call free (settled_run_of_forall calls free hs) with turn | ⟨_, same⟩
    · exact .inr turn
    · exact .inl same
  rank more := by
    rw [run_append]
    exact rank_run more free (settled_run_of_forall calls free hs)
  once element more ht first again := by
    have settled := settled_run_of_forall calls free hs
    have settled' := (settled_perform_of_forall (.beginElement element) free settled).1
    have turn := turn_of_begin free settled ht first
    have later := rank_run more free settled'
    rw [Takes, run_append, run_cons] at again
    have turn' := turn_of_begin free (settled_run_of_forall more free settled') ht again
    rw [turn.rank, turn.source_eq turn'] at later
    exact absurd later (Nat.not_succ_le_self _)
  header accepted := by
    have turn := turn_of_begin free (settled_run_of_forall calls free hs) rfl accepted
    have come : (s.run backend calls).document.phase = .headerDone := turn.source_eq .beginBody
    obtain ⟨before, call, after, rfl, accepted, turn⟩ :=
      exists_turn free hs (by rw [begun]; decide) come
    obtain rfl := turn.call_eq .endHeader
    exact ⟨before, after, rfl, accepted⟩

/-! ### Closed documents -/

/-- The document can be closed when nothing is open and the end of the body has been accepted. -/
theorem close_iff (calls : List Call) (free : ∀ id, loose id) (hs : s.document.Settled loose)
    (begun : s.document.phase = .start) :
    (∀ fault, ((s.run backend calls).close backend).1 ≠ .error (.lifecycle fault)) ↔
      (s.run backend calls).document.frames = [] ∧
        ∃ before after, s.EndsBody calls before after := by
  have settled := settled_run_of_forall calls free hs
  have passes : (∀ fault, ((s.run backend calls).close backend).1 ≠ .error (.lifecycle fault)) ↔
      (s.run backend calls).document.closeFault = none := by
    unfold close
    cases hf : (s.run backend calls).document.closeFault with
    | some fault => simp
    | none =>
      simp only [iff_true]
      intro fault
      split <;> simp
  rw [passes]
  constructor
  · intro hf
    obtain ⟨closed, done⟩ := closeFault_eq_none hf
    exact ⟨closed, exists_endsBody free hs (by rw [begun]; decide) done⟩
  · rintro ⟨closed, before, after, rfl, accepted⟩
    have settled_ := settled_run_of_forall before free hs
    obtain ⟨done, _⟩ := whole_endBody settled_ (innermost_of_endElement accepted)
    have later := (settled_perform_of_forall (.endElement .body) free settled_).1
    have phase := (run_done after free later done).1
    rw [← run_cons, ← run_append] at phase
    exact Document.closeFault_eq_none_of_closed settled.nested closed phase

/-- When the body has begun, the opening of the cover has been written. -/
theorem whole_beginBody (h : s.document.Covered cover "" other) (hs : s.document.Settled loose)
    (hp : s.document.phase = .headerDone)
    (accepted : (s.perform backend (.beginElement .body)).1.isOk = true) :
    (s.perform backend (.beginElement .body)).2.document.output.whole =
      backend.cover.opening s.document.head := by
  have fits := (exists_of_begin accepted).1
  have root := (nothing_open_of_begin hs.nested (fun _ ↦ rfl) fits.allowed).2
  rw [perform_beginBody fits]
  change (s.document.output.write ⟨backend.cover.title s.document.head, ""⟩).whole = _
  rw [Output.whole_write, root, if_pos List.length_nil, h.whole, hp]
  rfl

/-- The calls begin the body behind the opening of the cover, write the content, of which the
reference list is the last part, and end the body. -/
structure Fills (s : Session) (before inside : List Call) (head : Head) (content : String) :
    Prop where
  begun : s.Takes before (.beginElement .body)
  ended : s.Takes (before ++ .beginElement .body :: inside) (.endElement .body)
  opening : (s.run backend (before ++ [.beginElement .body])).document.output.whole =
    backend.cover.opening head
  content :
    let filled := (s.run backend (before ++ .beginElement .body :: inside)).document
    filled.output.whole ++
      referenceList s.document.settings.lineBreak filled.bibliography.works =
        backend.cover.opening head ++ content

variable {calls : List Call}

/-- A document whose phase is the last has had its body begun and ended. -/
theorem exists_fills (free : ∀ id, loose id) (hs : s.document.Settled loose)
    (hc : s.document.Covered cover "" other) (begun : s.document.phase = .start)
    (done : (s.run backend calls).document.phase = .done) :
    ∃ before inside after content,
      calls = before ++ .beginElement .body :: (inside ++ .endElement .body :: after) ∧
      s.Fills before inside (s.run backend calls).document.head content ∧
      (s.run backend calls).document.output.whole =
        backend.cover.opening (s.run backend calls).document.head ++ content ++ backend.bodyEnd := by
  have settled (calls : List Call) := settled_run_of_forall (s := s) calls free hs
  obtain ⟨filled, call, after, rfl, ended, turn⟩ := exists_turn free hs (by rw [begun]; decide) done
  obtain rfl := turn.call_eq .endBody
  have inBody : (s.run backend filled).document.phase = .body := turn.source_eq .endBody
  obtain ⟨before, call, inside, rfl, begins, turn⟩ :=
    exists_turn free hs (by rw [begun]; decide) inBody
  obtain rfl := turn.call_eq .beginBody
  have headed : (s.run backend before).document.phase = .headerDone := turn.source_eq .beginBody
  -- From the end of the header on the head stays.
  have same (more : List Call) : (s.run backend (before ++ more)).document.head =
      (s.run backend before).document.head := by
    rw [run_append]
    exact head_run_outside more free (settled before) (by rw [headed])
  obtain ⟨more, _, _, here⟩ := covered_run before free hc hs
  obtain ⟨others, _, _, there⟩ := covered_run (before ++ .beginElement .body :: inside) free hc hs
  have nothing : "" ++ more = "" := here.fresh (by rw [headed]; decide) (by rw [headed]; decide)
  rw [nothing] at here
  have whole := there.whole
  rw [inBody, same] at whole
  obtain ⟨ended_, list⟩ := whole_endBody (settled _) (innermost_of_endElement ended)
  have rest := (run_done after free
    (settled_perform_of_forall (.endElement .body) free (settled _)).1 ended_).2
  have settings : (s.run backend (before ++ .beginElement .body :: inside)).document.settings =
      s.document.settings := congrArg Prod.fst (run_keeps (keeps_origin_action backend) _ s)
  rw [settings] at list
  refine ⟨before, inside, after, ("" ++ others) ++ referenceList s.document.settings.lineBreak
    (s.run backend (before ++ .beginElement .body :: inside)).document.bibliography.works,
    by rw [List.append_assoc, List.cons_append], ⟨begins, ended, ?_, ?_⟩, ?_⟩
  · rw [List.append_assoc, same, run_append]
    exact whole_beginBody here (settled before) headed begins
  · rw [List.append_assoc, same]
    dsimp only
    rw [whole, Cover.page, String.append_assoc]
  · rw [List.append_assoc, same, ← List.append_assoc, run_append, run_cons, rest, list, whole]
    simp only [Cover.page, String.append_assoc]

/-- The document goes through its phases in order. It can be closed when nothing is open and its body
has been ended. Then its file holds what stands in front of the body, with the last title, all
authors and the last date, then what has been written into the body, and then what stands behind it.
With any other cover the same content stands in the other cover, and nothing of the cover in it. -/
theorem phases_run (context used : Context) (serial : Nat) (files : FileSystem) (s : Session)
    (hs : context.createDocument backend serial files = .ok (s, used)) (calls : List Call) :
    s.Forward calls ∧
    ((∀ fault, ((s.run backend calls).close backend).1 ≠ .error (.lifecycle fault)) ↔
      (s.run backend calls).document.frames = [] ∧
        ∃ before after, s.EndsBody calls before after) ∧
    (∀ summary final, (s.run backend calls).close backend = (.ok summary, final) →
      ∃ before inside after content,
        calls = before ++ .beginElement .body :: (inside ++ .endElement .body :: after) ∧
        s.Fills before inside (s.gatheredHead backend calls) content ∧
        final.node? s.document.place = some (.text
          (backend.cover.opening (s.gatheredHead backend calls) ++ content ++ backend.bodyEnd)) ∧
        ∀ cover : Cover,
          ((s.run (backend.withCover cover) calls).close (backend.withCover cover)).2.node?
            s.document.place = some (.text
              (cover.opening (s.gatheredHead backend calls) ++ content ++ cover.bodyEnd))) := by
  obtain ⟨path, place, hd⟩ := context.exists_document_of_createDocument hs
  have free : ∀ id, (fun _ : String ↦ True) id := fun _ ↦ trivial
  have start : s.document.Settled fun _ ↦ True := hd ▸ context.settled_document path place serial
  have begun : s.document.phase = .start := hd ▸ rfl
  have ending := context.endsIn_createDocument hs (c := 'l') (by decide) (by decide) (by decide)
  have there : (s.run backend calls).document.place = s.document.place :=
    congrArg (·.2.2.2.2) (run_keeps (keeps_origin_action backend) calls s)
  have head : (s.run backend calls).document.head = s.gatheredHead backend calls :=
    @head_run backend s [] [] [] start.nested (hd ▸ rfl) calls
  have uncovered (cover : Cover) : s.document.Covered cover "" s.document.output := by
    rw [hd]
    exact ⟨rfl, rfl, rfl, fun _ _ ↦ rfl⟩
  refine ⟨forward_run calls free start begun, close_iff calls free start begun, ?_⟩
  intro summary final hc
  obtain ⟨closed, done, node⟩ := node?_of_close (there ▸ ending) hc
  obtain ⟨before, inside, after, content, split, fills, whole⟩ :=
    exists_fills free start (uncovered backend.cover) begun done
  rw [head] at fills whole
  refine ⟨before, inside, after, content, split, fills, ?_, fun cover ↦ ?_⟩
  · rw [← there, node, whole]
  · obtain ⟨more, other, covering, covered⟩ := covered_run calls free (uncovered cover) start
    obtain rfl : content = "" ++ more := by
      have own := whole.symm.trans covered.whole
      rw [done, head] at own
      exact (String.append_right_inj _).mp ((String.append_left_inj _).mp own)
    have run : s.run (backend.withCover cover) calls = (s.run backend calls).withOutput other :=
      covering
    have settled := settled_run_of_forall calls free start
    have passes : ((s.run backend calls).withOutput other).document.closeFault = none :=
      Document.closeFault_eq_none_of_closed (covered.nested settled.nested) closed done
    have file := node?_close (s := (s.run backend calls).withOutput other) (there ▸ ending)
    rw [if_pos passes] at file
    have page := covered.other
    rw [done, head] at page
    rw [run, ← there]
    exact file.trans (congrArg (fun whole ↦ some (Node.text whole)) page)

/-- A macro with some text, and with as many parameters as it can have. -/
def aside (name : String) : List Call :=
  [.beginElement (.macroDefinition ⟨name, Limit.maxArity, le_rfl⟩), .write name,
    .endElement .macroDefinition]

/-- A document with a title and a paragraph, and with macros before, between and after the header
and the body. -/
def asides : List Call :=
  aside "before" ++ [.beginElement .header, .beginElement .title, .write "T", .endElement .title,
    .endElement .header] ++ aside "between" ++ [.beginElement .body, .beginElement .paragraph,
    .write "P", .endElement .paragraph, .endElement .body] ++ aside "after"

/-- With macros around them, the header and the body still make up the file alone. -/
theorem phases_run_asides :
    ∃ s used summary final content,
      (⟨⟨"/"⟩, "index", {}, false⟩ : Context).createDocument backend 0 {} = .ok (s, used) ∧
      (s.run backend asides).close backend = (.ok summary, final) ∧
      final.node? s.document.place = some (.text
        (backend.cover.opening ⟨some ⟨"T", "T"⟩, [], none⟩ ++ content ++ backend.bodyEnd)) := by
  obtain ⟨s, used, made, head, closed⟩ : ∃ s used,
      (⟨⟨"/"⟩, "index", {}, false⟩ : Context).createDocument backend 0 {} = .ok (s, used) ∧
      s.gatheredHead backend asides = ⟨some ⟨"T", "T"⟩, [], none⟩ ∧
      ((s.run backend asides).close backend).1.isOk = true :=
    ⟨_, _, rfl, by decide +kernel, by decide +kernel⟩
  cases hc : (s.run backend asides).close backend with
  | mk answer final =>
    rw [hc] at closed
    cases answer with
    | error error => cases closed
    | ok summary =>
      obtain ⟨_, _, _, content, _, _, node, _⟩ :=
        (phases_run _ used 0 {} s made asides).2.2 summary final hc
      exact ⟨s, used, summary, final, content, made, hc, head ▸ node⟩

end Session

end Manuscript
