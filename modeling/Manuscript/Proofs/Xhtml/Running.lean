import Manuscript.Proofs.Storage.Location
import Manuscript.Proofs.Xhtml.Beginning
import Manuscript.Proofs.Xhtml.Ending

/-!
# Runs of settled documents

A document starts out settled, and every call keeps it so. What a document leaves in its file when
it is closed is the prolog and closed markup with its identifiers.
-/

namespace Manuscript

open Markup Xhtml

variable {loose : String → Prop}

theorem Context.settled_document (context : Context) (path : Path) (place : Location)
    (serial : Nat) : (context.document path place serial).Settled loose where
  nested := context.nested_document path place serial
  legible := by
    have empty : RootReads loose [] .start "" [] [] :=
      ⟨[], .refl [], fun _ ↦ ⟨rfl, rfl⟩, fun h ↦ absurd rfl h⟩
    exact ⟨rfl, .bottom empty, List.forall_mem_nil _, ⟨nofun, List.forall_mem_nil _, nofun⟩,
      List.forall_mem_nil _⟩
  placed := List.forall_mem_nil _

theorem Context.exists_document_of_createDocument {context used : Context} {backend : Backend}
    {serial : Nat} {files : FileSystem} {s : Session}
    (h : context.createDocument backend serial files = .ok (s, used)) :
    ∃ path place, s.document = context.document path place serial := by
  rw [createDocument] at h
  split at h
  · cases h
  · dsimp only at h
    split at h
    · cases h
    · cases h
      exact ⟨_, _, rfl⟩

/-- The phase of a document after a call. -/
def Phase.after (phase : Phase) (call : Call) (accepted : Bool) : Phase :=
  match call with
  | .beginElement element => if accepted then phase.begun element.kind else phase
  | .endElement kind => if accepted then phase.ended kind else phase
  | _ => phase

theorem Phase.after_of_ne {phase : Phase} {call : Call} {accepted : Bool}
    (hb : ∀ element, call ≠ .beginElement element) (he : ∀ kind, call ≠ .endElement kind) :
    phase.after call accepted = phase := by
  cases call with
  | beginElement element => exact absurd rfl (hb element)
  | endElement kind => exact absurd rfl (he kind)
  | _ => rfl

namespace Session

open Action

/-- Every call keeps a document settled if the labels of the elements that are begun are welcome,
and brings it into another phase only at the beginning and the end of the header and of the body. -/
theorem settled_perform {call : Call} {s : Session} (h : s.document.Settled loose)
    (hw : ∀ element, call = .beginElement element → (s.perform backend call).1.isOk = true →
      s.document.Welcomes loose element) :
    (s.perform backend call).2.document.Settled loose ∧
      (s.perform backend call).2.document.phase =
        s.document.phase.after call (s.perform backend call).1.isOk := by
  obtain ⟨element, rfl⟩ | ⟨kind, rfl⟩ | ⟨begins, ends⟩ := call.begins_or_ends_or
  · cases ho : (s.perform backend (.beginElement element)).1.isOk with
    | false =>
      rw [perform_beginElement_eq ho]
      exact ⟨h, rfl⟩
    | true =>
      have begun : Ensures (·.document = s.document) ((Call.beginElement element).action backend)
          (fun _ t ↦ t.document.Settled loose ∧
            t.document.phase = s.document.phase.begun element.kind)
          fun _ t ↦ t.document = s.document :=
        (ensures_beginElement_settled h (hw element rfl ho)).bind fun _ ↦
          ensures_pure fun _ ht ↦ ht
      have answered := perform_of_ensures_answer begun rfl
      rwa [ho] at answered
  · have ended : Ensures
        (fun t ↦ t.document.Settled loose ∧ t.document.phase = s.document.phase)
        ((Call.endElement kind).action backend)
        (fun _ t ↦ t.document.Settled loose ∧ t.document.phase = s.document.phase.ended kind)
        fun _ t ↦ t.document.Settled loose ∧ t.document.phase = s.document.phase :=
      (ensures_endElement_settled kind s.document.phase).bind fun _ ↦ ensures_pure fun _ ht ↦ ht
    exact perform_ensures (P := fun answer t ↦ t.document.Settled loose ∧
      t.document.phase = s.document.phase.after (.endElement kind) answer.isOk) ended ⟨h, rfl⟩
  · refine ⟨perform_of_ensures (ensures_action call begins ends) h, ?_⟩
    rw [Phase.after_of_ne begins ends]
    exact perform_of_ensures (keeps_phase_action backend call begins ends s.document.phase) rfl

/-- A run keeps a document settled if the labels of the elements that are begun are welcome. -/
theorem settled_run {calls : List Call} {s : Session} (h : s.document.Settled loose)
    (hw : ∀ before element after, calls = before ++ .beginElement element :: after →
      ((s.run backend before).perform backend (.beginElement element)).1.isOk = true →
        (s.run backend before).document.Welcomes loose element) :
    (s.run backend calls).document.Settled loose := by
  induction calls generalizing s with
  | nil => exact h
  | cons call calls ih =>
    refine ih (settled_perform h fun element hc ho ↦ ?_).1 fun before element after hc ↦ ?_
    · subst hc
      exact hw [] element calls rfl ho
    · exact hw (call :: before) element after (congrArg (call :: ·) hc)

/-- Calls leave the output file where it was made. Its name is not that of a style sheet. -/
theorem place_run {context used : Context} {serial : Nat} {files : FileSystem} {s : Session}
    (hs : context.createDocument backend serial files = .ok (s, used)) (calls : List Call) :
    (s.run backend calls).document.place = s.document.place ∧
      FileSystem.EndsIn (s.run backend calls).document.place 'l' := by
  have place : (s.run backend calls).document.place = s.document.place :=
    congrArg (·.2.2.2.2) (run_keeps (keeps_origin_action backend) calls s)
  exact ⟨place, place ▸ context.endsIn_createDocument hs (by decide) (by decide) (by decide)⟩

/-- A document that can be closed has everything ended. -/
theorem closeFault_eq_none {d : Document} (h : d.closeFault = none) :
    d.frames = [] ∧ d.phase = .done := by
  unfold Document.closeFault at h
  split at h
  · cases h
  · next hi =>
    refine ⟨?_, ?_⟩
    · cases hd : d.frames with
      | nil => rfl
      | cons frame outer =>
        rw [Document.innermost, hd] at hi
        cases hi
    · by_cases hp : d.phase = .done
      · exact hp
      · rw [if_pos hp] at h
        cases h

/-- Closing leaves all that has been written in the file if the document can be closed, also if a
style sheet cannot be installed, and otherwise what has been streamed. -/
theorem node?_close {s : Session} (hl : FileSystem.EndsIn s.document.place 'l') :
    (s.close backend).2.node? s.document.place = some (.text
      (if s.document.closeFault = none then s.document.output.whole
        else s.document.output.streamed)) := by
  have css : ∀ resource ∈ backend.resources, resource.name.toList.getLast? = some 's' := by decide
  have installed (files : FileSystem) :
      (installResources s.document.directory backend.resources files).2.node? s.document.place =
        files.node? s.document.place :=
    node?_installResources css (by decide) (by decide) hl (by decide)
  unfold close
  split
  · next fault hf =>
    rw [if_neg (by rw [hf]; exact Option.some_ne_none fault)]
    exact FileSystem.node?_put _ _ hl.ne_nil
  · next hf =>
    rw [if_pos hf]
    dsimp only
    split <;> next hi =>
      have kept := installed
        (s.modifyDocument fun d ↦ { d with output := d.output.drain }).settle
      rw [hi] at kept
      exact kept.trans (FileSystem.node?_put _ _ hl.ne_nil)

/-- What is closed can be closed, and the summary tells what it has produced. -/
theorem closeFault_of_close {backend : Backend} {s : Session} {summary : Summary}
    {final : FileSystem} (hc : s.close backend = (.ok summary, final)) :
    s.document.closeFault = none ∧ ∃ resources, summary = s.document.summary resources := by
  unfold close at hc
  split at hc
  · cases hc
  · next hf =>
    dsimp only at hc
    split at hc <;> cases hc
    exact ⟨hf, _, rfl⟩

/-- A closed document has everything ended, and its file holds all that has been written. -/
theorem node?_of_close {s : Session} {summary : Summary} {final : FileSystem}
    (hl : FileSystem.EndsIn s.document.place 'l') (hc : s.close backend = (.ok summary, final)) :
    s.document.frames = [] ∧ s.document.phase = .done ∧
      final.node? s.document.place = some (.text s.document.output.whole) := by
  have closed := node?_close hl
  rw [hc] at closed
  have hf := (closeFault_of_close hc).1
  obtain ⟨hd, hp⟩ := closeFault_eq_none hf
  rw [if_pos hf] at closed
  exact ⟨hd, hp, closed⟩

/-- The file of a closed document holds the prolog and closed markup. -/
theorem exists_text_of_close {s : Session} {summary : Summary} {final : FileSystem}
    (h : s.document.Settled loose) (hl : FileSystem.EndsIn s.document.place 'l')
    (hc : s.close backend = (.ok summary, final)) :
    ∃ text, final.node? s.document.place = some (.text (prolog ++ text)) ∧
      Closed loose text s.document.anchors := by
  obtain ⟨hd, hp, closed⟩ := node?_of_close hl hc
  obtain ⟨_, spent, covered, _, written⟩ := h.legible.bottom hd
  obtain ⟨text, hw, leads⟩ := written (by rw [hp]; decide)
  rw [hw] at closed
  refine ⟨text, closed, ?_⟩
  rw [hp] at leads
  rw [List.append_nil] at covered
  exact leads.mono covered

/-- The bytes of a file. Comparing them takes the kernel far less than comparing texts. -/
def bytes? : Option Node → Option (List UInt8)
  | some (.text text) => some text.toByteArray.data.toList
  | _ => none

theorem eq_text_of_bytes? {node : Option Node} {chars : List Char}
    (h : bytes? node = some (chars.flatMap String.utf8EncodeChar)) :
    node = some (.text (.ofList chars)) := by
  unfold bytes? at h
  split at h
  · congr 2
    rw [← String.toByteArray_inj, String.toByteArray_ofList, List.utf8Encode]
    ext1
    rw [← Array.toList_inj, Option.some.inj h, List.data_toByteArray]
  · cases h

end Session

end Manuscript
