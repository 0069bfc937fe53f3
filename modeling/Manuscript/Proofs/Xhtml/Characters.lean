import Manuscript.Proofs.Document.Citing
import Manuscript.Proofs.Document.Streaming
import Manuscript.Proofs.Markup.Wording
import Manuscript.Proofs.Xhtml.Placeholders

/-!
# Characters of a closed file

The prolog announces XML 1.0. Nothing that a document writes of its own accord holds a character
that XML does not allow, and every reference stands for one that it allows. But escaping replaces
only what would be taken for markup, and copies everything else (`Xhtml.mem_escape`), so the file
holds whatever the caller has handed in (`Session.characters_run`).
-/

namespace Manuscript

open Markup

namespace Markup

/-- The references that are written stand for characters that XML allows. -/
theorem exists_isXmlChar_of_reference {name : String} (h : name ∈ referenceNames) :
    ∃ c ∈ character? name.toList, isXmlChar c = true := by
  have each : ∀ name ∈ referenceNames, (character? name.toList).any isXmlChar = true := by decide
  exact (Option.any_eq_true _ _).mp (each name h)

end Markup

namespace Xhtml

/-- Escaping keeps the characters that XML does not allow. -/
theorem mem_escape {text : String} {c : Char} (hc : c ∈ text.toList) (h : isXmlChar c = false) :
    c ∈ (escape text).toList := by
  have legal : ∀ entry ∈ escapes, isXmlChar entry.1 = true := by decide
  have plain : Unescaped c := by
    rintro entry listed rfl
    rw [legal entry listed] at h
    cases h
  rw [toList_escape, List.mem_flatMap]
  exact ⟨c, hc, by rw [plain.escapeChar_eq]; exact List.mem_singleton_self c⟩

end Xhtml

/-- The character is in something that the caller hands in: the base name of the file, or a string
of one of the calls. -/
def Context.Supplies (context : Context) (calls : List Call) (c : Char) : Prop :=
  c ∈ context.stem.toList ∨ ∃ call ∈ calls, ∃ text ∈ call.strings, c ∈ text.toList

namespace Frames

/-- What the innermost element has gathered is held. -/
theorem exists_held_of_topState? {frames : Frames} {state : FrameState} (captures : List Passage)
    (h : frames.topState? = some state) :
    ∃ place ∈ frames.held captures, state.texts ⊆ place.2 := by
  cases frames with
  | nil => cases h
  | cons frame outer =>
    obtain rfl : frame.state = state := Option.some.inj h
    rw [held]
    split
    · exact ⟨_, List.mem_cons_self, List.subset_append_left _ _⟩
    · exact ⟨_, List.mem_cons_self, List.Subset.refl _⟩

end Frames

namespace Session

open Action Xhtml

variable {s : Session} {calls : List Call}

/-- Text is written where text is allowed. -/
theorem perform_write (written : String) :
    s.perform backend (.write written) =
      match s.document.textError with
      | some error => (.error error, s)
      | none =>
        (.ok .done, s.modifyDocument fun d ↦ (d.appendPhrase backend [.text written]).stream) := by
  cases ht : s.document.textError with
  | some error => exact perform_of_error rfl (streamedPhrase_of_textError ht)
  | none => exact perform_of_ok rfl (streamedPhrase_of_free ht)

/-- Text that is accepted while nothing is held back comes behind all that has been written. -/
theorem whole_perform_write {written : String}
    (accepted : (s.perform backend (.write written)).1.isOk = true)
    (root : s.document.output.captures = []) :
    (s.perform backend (.write written)).2.document.output.whole =
      s.document.output.whole ++ escape written := by
  rw [perform_write] at accepted ⊢
  cases ht : s.document.textError with
  | some error =>
    rw [ht] at accepted
    cases accepted
  | none =>
    have passage : (backend.passage [.text written]).markup = escape written := String.append_empty
    change (s.document.output.write (backend.passage [.text written])).stream.whole = _
    rw [Output.whole_stream, Output.whole_write, root, passage]
    rfl

/-- What has been written at the root is never taken back. -/
theorem whole_prefix_run (s : Session) (calls : List Call) :
    s.document.output.whole.toList <+: (s.run backend calls).document.output.whole.toList := by
  obtain ⟨steps, hs⟩ := exists_steps_run backend calls s
  have same : (s.run backend calls).document.output = s.document.output.follow steps :=
    congrArg (·.document.output) (hs s.document.output rfl)
  rw [same, Output.whole_follow, String.toList_append]
  exact List.prefix_append _ _

/-- What XML does not allow comes to the root as well, if it is written while nothing is held
back. -/
theorem mem_whole_of_write {before after : List Call} {written : String} {c : Char}
    (accepted : ((s.run backend before).perform backend (.write written)).1.isOk = true)
    (root : (s.run backend before).document.output.captures = []) (hc : c ∈ written.toList)
    (h : isXmlChar c = false) :
    c ∈ (s.run backend (before ++ .write written :: after)).document.output.whole.toList := by
  rw [run_append, run_cons]
  refine (whole_prefix_run _ after).subset ?_
  rw [whole_perform_write accepted root, String.toList_append]
  exact List.mem_append_right _ (mem_escape hc h)

/-- A document holds nothing that XML does not allow but what the caller has handed in. -/
theorem spelt_run {context used : Context} {serial : Nat} {files : FileSystem}
    (hs : context.createDocument backend serial files = .ok (s, used)) (calls : List Call) :
    (s.run backend calls).document.Tidy (.spelling (context.Supplies calls))
      (Placed backend s calls) := by
  refine tidy_created hs (fun c hc ↦ .inr (.inl hc))
    (fun call hc text ht c hm ↦ .inr (.inr ⟨call, hc, text, ht, hm⟩)) ?_
  -- What describes an image has been gathered before, so it is spelt already.
  intro before kind after state _ tidy top text ht
  obtain ⟨place, held, gathered⟩ :=
    Frames.exists_held_of_topState? (s.run backend before).document.output.captures top
  exact tidy.zones.texts place held text (gathered (state.descriptions_subset ht))

/-- Characters that XML does not allow come into the file of a closed document from the caller
alone, and they do come there if they are written while nothing is held back. Every ampersand in the
file begins a reference, and that denotes a character that XML allows. -/
theorem characters_run (context used : Context) (serial : Nat) (files : FileSystem) (s : Session)
    (hs : context.createDocument backend serial files = .ok (s, used)) (calls : List Call)
    (summary : Summary) (final : FileSystem)
    (hc : (s.run backend calls).close backend = (.ok summary, final)) :
    ∃ text, final.node? s.document.place = some (.text text) ∧
      (∀ c ∈ text.toList, isXmlChar c = true ∨ context.Supplies calls c) ∧
      (∀ before written after, calls = before ++ .write written :: after →
        ((s.run backend before).perform backend (.write written)).1.isOk = true →
          (s.run backend before).document.output.captures = [] →
            ∀ c ∈ written.toList, isXmlChar c = false → c ∈ text.toList) ∧
      ∀ rest, '&' :: rest <:+ text.toList → ∃ name after, rest = name ++ ';' :: after ∧
        ';' ∉ name ∧ ∃ c ∈ character? name, isXmlChar c = true := by
  obtain ⟨place, ending⟩ := place_run hs calls
  rw [← place]
  obtain ⟨_, _, file⟩ := node?_of_close ending hc
  have spelt := spelt_run hs calls
  have clean := tidy_called hs calls
  refine ⟨_, file, spelt.streamed.append spelt.root.markup, ?_, fun rest hr ↦ ?_⟩
  · rintro before written after rfl accepted root c hm h
    exact mem_whole_of_write accepted root hm h
  · have tidy : Tidy (fun _ ↦ False) True (s.run backend calls).document.output.whole :=
      clean.streamed.append clean.root.markup
    obtain ⟨name, known, _, after, rfl⟩ := tidy.exists_reference hr
    exact ⟨name.toList, after, rfl, semicolon_not_mem known,
      exists_isXmlChar_of_reference known⟩

/-- A paragraph with a control character. -/
def controlCalls : List Call :=
  [.beginElement .header, .endElement .header, .beginElement .body, .beginElement .paragraph,
    .write "a\x01b", .endElement .paragraph, .endElement .body]

/-- The control character is in the file. -/
theorem characters_run_control :
    isXmlChar '\x01' = false ∧ ∃ s used summary final,
      (⟨⟨"/"⟩, "index", {}, false⟩ : Context).createDocument backend 0 {} = .ok (s, used) ∧
      (s.run backend controlCalls).close backend = (.ok summary, final) ∧
      ∃ text, final.node? s.document.place = some (.text text) ∧ '\x01' ∈ text.toList := by
  obtain ⟨s, used, made, closed, accepted, root⟩ : ∃ s used,
      (⟨⟨"/"⟩, "index", {}, false⟩ : Context).createDocument backend 0 {} = .ok (s, used) ∧
      ((s.run backend controlCalls).close backend).1.isOk = true ∧
      ((s.run backend (controlCalls.take 4)).perform backend (.write "a\x01b")).1.isOk = true ∧
      (s.run backend (controlCalls.take 4)).document.output.captures = [] :=
    ⟨_, _, rfl, by decide +kernel⟩
  refine ⟨by decide, ?_⟩
  cases hc : (s.run backend controlCalls).close backend with
  | mk answer final =>
    rw [hc] at closed
    cases answer with
    | error error => cases closed
    | ok summary =>
      obtain ⟨text, file, _, inside, _⟩ := characters_run _ used 0 {} s made _ summary final hc
      exact ⟨s, used, summary, final, made, hc, text, file,
        inside (controlCalls.take 4) _ _ rfl accepted root '\x01' (by decide) (by decide)⟩

end Session

end Manuscript
