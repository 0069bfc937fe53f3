import Manuscript.Proofs.Document.Showing

/-!
# What the header says

The head of a document holds what was captured of the last title, of all authors in order, and of
the last date that has been ended (`Session.head_run`).
-/

namespace Manuscript

/-- A head with the last of some titles, with authors, and with the last of some dates. -/
def Head.of (titles authors dates : List Passage) : Head :=
  ⟨titles.getLast?, authors, dates.getLast?⟩

/-- Keep the content of an element that is a part of the head. -/
def Document.takeHeadline (kind : Kind) (content : Passage) (d : Document) : Document :=
  match kind with
  | .title => d.takeTitle content
  | .author => d.takeAuthor content
  | .date => d.takeDate content
  | _ => d

/-- Whether the call ends an element of the kind. -/
def Call.ends (kind : Kind) : Call → Bool
  | .endElement other => other == kind
  | _ => false

namespace Session

open Action

/-- What was captured of the elements of a kind that the calls end, one after the other. -/
def gathered (backend : Backend) (kind : Kind) : List Call → Session → List Passage
  | [], _ => []
  | call :: calls, s =>
    (if call.ends kind && (s.perform backend call).1.isOk then [s.document.held] else []) ++
      gathered backend kind calls (s.perform backend call).2

/-- The head that the calls come to: the last title, all authors and the last date that they end. -/
def gatheredHead (backend : Backend) (calls : List Call) (s : Session) : Head :=
  .of (s.gathered backend .title calls) (s.gathered backend .author calls)
    (s.gathered backend .date calls)

variable {backend : Backend} {s : Session} {frame : Frame} {outer : Frames}

/-- The end of an element that is a part of the head is accepted, and its content is kept. -/
theorem perform_endElement_headline (nested : s.document.Nested)
    (hf : s.document.frames = frame :: outer) (hk : frame.kind.isHeadline = true) :
    s.perform backend (.endElement frame.kind) =
      (.ok .done, ((s.modifyDocument Document.pop).modifyDocument
        (Document.takeHeadline frame.kind s.document.held)).modifyDocument Document.stream) := by
  have frames := nested.frames
  rw [hf] at frames
  have ended : endElement backend frame.kind s = _ := endElement_eq hf nested
  obtain ⟨kind, captured, state⟩ := frame
  refine perform_of_ok rfl (ended.trans ?_)
  cases kind with
  | title | author | date =>
    obtain rfl : state = .plain := FrameState.eq_plain_of_suits rfl (fun hp ↦ by cases hp)
      frames.1.suits
    rfl
  | _ => cases hk

/-- The end of any other element leaves the head. -/
theorem head_endElement (nested : s.document.Nested) (hf : s.document.frames = frame :: outer)
    (hk : frame.kind.isHeadline = false) :
    (s.perform backend (.endElement frame.kind)).2.document.head = s.document.head := by
  have closed : Keeps (·.document.head)
      (do closeFrame backend frame s.document.held; change Document.stream : Action Unit) :=
    ((composed_closeFrame_of_head backend frame _ fun _ ↦ hk).keeps.comp (·.1.head)).bind fun _ ↦
      keeps_change fun _ ↦ rfl
  have ended : Ensures (· = s) (endElement backend frame.kind)
      (fun _ t ↦ t.document.head = s.document.head) fun _ t ↦
        t.document.head = s.document.head := by
    rintro _ rfl
    rw [endElement_eq hf nested]
    refine closed _ _ ?_
    simp only [Session.modifyDocument, Document.pop, hf]
  have performed : Ensures (· = s) ((Call.endElement frame.kind).action backend)
      (fun _ t ↦ t.document.head = s.document.head) fun _ t ↦
        t.document.head = s.document.head := ended.bind fun _ ↦ ensures_pure fun _ ht ↦ ht
  exact perform_of_ensures performed rfl

/-- What is not the innermost element cannot be ended. -/
theorem perform_endElement_unbalanced {kind : Kind} (h : s.document.innermost ≠ some kind) :
    s.perform backend (.endElement kind) =
      (.error (.unbalancedEnd s.document.innermost kind), s) :=
  perform_of_error rfl (endElement_of_ne h)

/-- Only ends add to the head. -/
theorem head_perform_of_ne (call : Call) (he : ∀ kind, call ≠ .endElement kind) :
    (s.perform backend call).2.document.head = s.document.head := by
  have attached (kind : Kind) (label : Option Label) : Keeps (·.document.head) (attach kind label) :=
    keeps_attach kind label fun _ _ ↦ rfl
  have kept : Keeps (·.document.head) (call.action backend) := by
    obtain ⟨element, rfl⟩ | ⟨kind, rfl⟩ | ⟨begins, ends⟩ := call.begins_or_ends_or
    · exact (keeps_current fun d ↦ keeps_refuse.bind fun _ ↦ keeps_refuse.bind fun _ ↦
        keeps_refuse.bind fun _ ↦ ((free_start backend element).keeps.comp Standing.head).bind
          fun _ ↦ (attached _ _).bind fun _ ↦ keeps_change fun _ ↦ rfl).bind fun _ ↦ keeps_pure
    · exact absurd rfl (he kind)
    · exact keeps_writing (fun _ ↦ keeps_writePhrase backend _ fun _ ↦ rfl) (fun _ ↦ rfl)
        (fun _ _ ↦ keeps_paint _ fun _ ↦ rfl) (fun _ _ ↦ keeps_createLabel _ fun _ _ ↦ rfl)
        (fun _ ↦ keeps_registerWorks _ fun _ _ ↦ rfl) begins ends
  exact perform_of_ensures (kept s.document.head) rfl

theorem gathered_singleton (kind : Kind) (call : Call) :
    s.gathered backend kind [call] =
      if call.ends kind && (s.perform backend call).1.isOk then [s.document.held] else [] :=
  List.append_nil _

/-- A call that ends no element of the kind gathers nothing. -/
theorem gathered_eq_nil {kind : Kind} {call : Call}
    (h : call = .endElement kind → (s.perform backend call).1.isOk = false) :
    s.gathered backend kind [call] = [] := by
  rw [gathered_singleton, ite_eq_right_iff, Bool.and_eq_true]
  rintro ⟨ends, accepted⟩
  cases call with
  | endElement other =>
    obtain rfl := eq_of_beq ends
    rw [h rfl] at accepted
    cases accepted
  | _ => cases ends

theorem gathered_append (kind : Kind) (calls more : List Call) :
    s.gathered backend kind (calls ++ more) =
      s.gathered backend kind calls ++ (s.run backend calls).gathered backend kind more := by
  induction calls generalizing s with
  | nil => rfl
  | cons call calls ih => rw [List.cons_append, gathered, ih, gathered, List.append_assoc]; rfl

variable {titles authors dates : List Passage}

/-- The end of a part of the head adds what has been held back. -/
theorem head_perform_headline (nested : s.document.Nested)
    (h : s.document.head = .of titles authors dates) (hf : s.document.frames = frame :: outer)
    (hk : frame.kind.isHeadline = true) :
    (s.perform backend (.endElement frame.kind)).2.document.head =
      .of (titles ++ s.gathered backend .title [.endElement frame.kind])
        (authors ++ s.gathered backend .author [.endElement frame.kind])
        (dates ++ s.gathered backend .date [.endElement frame.kind]) := by
  have performed := @perform_endElement_headline backend s frame outer nested hf hk
  have popped : s.document.pop.head = s.document.head := by rw [Document.pop, hf]
  have taken : (s.perform backend (.endElement frame.kind)).2.document.head =
      (Document.takeHeadline frame.kind s.document.held s.document.pop).head := by
    rw [performed]
    rfl
  have accepted : (s.perform backend (.endElement frame.kind)).1.isOk = true := by
    rw [performed]
    rfl
  simp only [taken, gathered_singleton, accepted, Call.ends]
  cases hk' : frame.kind with
  | title | author | date =>
    simp [Document.takeHeadline, Document.takeTitle, Document.takeAuthor, Document.takeDate,
      popped, h, Head.of]
  | _ =>
    rw [hk'] at hk
    cases hk

/-- Every call adds to the head what it ends. -/
theorem head_perform (nested : s.document.Nested) (h : s.document.head = .of titles authors dates)
    (call : Call) :
    (s.perform backend call).2.document.head =
      .of (titles ++ s.gathered backend .title [call]) (authors ++ s.gathered backend .author [call])
        (dates ++ s.gathered backend .date [call]) := by
  have kept (hk : ∀ kind, kind.isHeadline = true → call = .endElement kind →
      (s.perform backend call).1.isOk = false)
      (same : (s.perform backend call).2.document.head = s.document.head) :
      (s.perform backend call).2.document.head =
        .of (titles ++ s.gathered backend .title [call])
          (authors ++ s.gathered backend .author [call])
          (dates ++ s.gathered backend .date [call]) := by
    rw [same, h, gathered_eq_nil (hk .title rfl), gathered_eq_nil (hk .author rfl),
      gathered_eq_nil (hk .date rfl), List.append_nil, List.append_nil, List.append_nil]
  by_cases he : ∃ kind, call = .endElement kind
  · obtain ⟨kind, rfl⟩ := he
    by_cases hi : s.document.innermost = some kind
    · obtain ⟨frame, outer, hf, rfl⟩ := Document.exists_of_innermost hi
      cases hk : frame.kind.isHeadline with
      | true => exact head_perform_headline nested h hf hk
      | false =>
        refine kept (fun kind hk' hc ↦ ?_) (head_endElement nested hf hk)
        cases hc
        rw [hk] at hk'
        cases hk'
    · have performed : s.perform backend (.endElement kind) = _ := perform_endElement_unbalanced hi
      exact kept (fun _ _ _ ↦ by rw [performed]; rfl) (by rw [performed])
  · exact kept (fun kind _ hc ↦ absurd ⟨kind, hc⟩ he)
      (head_perform_of_ne call fun kind hc ↦ he ⟨kind, hc⟩)

/-- The head of a document is made of what has been ended. -/
theorem head_run (nested : s.document.Nested) (h : s.document.head = .of titles authors dates)
    (calls : List Call) :
    (s.run backend calls).document.head =
      .of (titles ++ s.gathered backend .title calls) (authors ++ s.gathered backend .author calls)
        (dates ++ s.gathered backend .date calls) := by
  induction calls generalizing s titles authors dates with
  | nil =>
    simp only [gathered, List.append_nil]
    exact h
  | cons call calls ih =>
    have split (kind : Kind) : s.gathered backend kind (call :: calls) =
        s.gathered backend kind [call] ++
          (s.perform backend call).2.gathered backend kind calls := gathered_append kind [call] calls
    have after : (s.perform backend call).2.document.Nested := nested_run backend [call] nested
    rw [run_cons, ih after (head_perform nested h call)]
    simp only [split, List.append_assoc]

end Session

end Manuscript
