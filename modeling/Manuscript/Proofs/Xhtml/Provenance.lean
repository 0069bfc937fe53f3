import Manuscript.Proofs.Xhtml.Release
import Manuscript.Proofs.Xhtml.Running
import Mathlib.Data.List.Induction

/-!
# Where markers come from

Every call keeps a document tidy, and only a placeholder writes a marker. So whatever was called,
each marker stands in the zone of a definition that is still open, and was placed there by a
placeholder of one of its parameters (`Session.markers_run`). Markers in texts of the caller are
written as something else and are never taken for one.
-/

namespace Manuscript

open Markup Xhtml

variable {O : Orthography} {P : Nat → Nat → Prop} {definition : Option (Nat × Macro.Signature)}

/-! ### Writing -/

namespace Session

open Action

theorem contained_writePhrase {phrase : Phrase} (h : phrase.Admitted O) :
    Contained O P definition (writePhrase backend phrase) :=
  confined_current fun _ _ ↦ contained_refuse.bind fun _ _ ↦ contained_change fun _ hd ↦
    hd.appendPhrase h

/-- Streaming may follow a phrase. -/
theorem contained_streamedPhrase {phrase : Phrase} (h : phrase.Admitted O) :
    Contained O P definition (do writePhrase backend phrase; change Document.stream) :=
  (contained_writePhrase h).bind fun _ _ ↦ contained_change fun _ hd ↦ hd.stream

/-- The numbers of labels are unmarked. -/
theorem confined_labelStates (labels : List Label) :
    Confined O P definition
      (fun states ↦ ∀ number, .resolved number ∈ states → O.source number)
      (labelStates labels) := by
  induction labels with
  | nil => exact confined_pure fun _ hn ↦ by cases hn
  | cons label others ih =>
    refine confined_current fun d hd ↦ ?_
    split
    · exact confined_throw
    · next state hs =>
      refine Confined.bind ih fun states known ↦ confined_pure fun number hn ↦ ?_
      rcases List.mem_cons.mp hn with rfl | hn
      · have entry : ∃ entry ∈ d.labels.entries, entry.state = .resolved number := by
          unfold Document.labelState Registry.state Registry.entry at hs
          split at hs
          · split at hs
            · next entry he =>
              exact ⟨entry, List.mem_of_getElem? he, Except.ok.inj hs⟩
            · cases hs
          · cases hs
        obtain ⟨entry, he, hs⟩ := entry
        exact hd.tidy.numbers entry he number hs
      · exact known number hn

theorem confined_registerWorks {records : List Record}
    (h : O.Admits (records.flatMap Record.strings)) :
    Confined O P definition (fun citations ↦ ∀ citation ∈ citations, citation.Admitted O)
      (registerWorks records) := by
  refine confined_current fun d hd ↦ ?_
  refine Confined.bind (contained_change fun e he ↦ ⟨{ he.tidy with keyed := ?_, entries := ?_ },
    he.definition_eq⟩) fun _ _ ↦ confined_pure (Bibliography.admitted_cite hd.tidy.keyed h)
  · exact hd.tidy.keyed.cite records
  · intro work hw
    rcases Bibliography.mem_works_cite hw with hw | hr
    · exact hd.tidy.entries work hw
    · exact Record.admitted_entry (admits_flatMap.mp h work.record hr)

theorem contained_createLabel (target : Target) :
    Contained O P definition (createLabel target) := by
  refine confined_current fun d hd ↦ Confined.bind (contained_change fun e he ↦
    ⟨{ he.tidy with numbers := ?_ }, he.definition_eq⟩) fun _ _ ↦ confined_pure trivial
  intro entry hm number hn
  rcases List.mem_append.mp hm with hm | hm
  · exact hd.tidy.numbers entry hm number hn
  · rw [List.mem_singleton.mp hm] at hn
    cases hn

theorem contained_paint (fills : List Fill) : Contained O P definition (paint fills) := by
  refine confined_current fun d _ ↦ ?_
  split
  · exact (contained_change fun _ hd ↦ hd.offer (FrameState.takesTidy_paint fills)).bind
      fun _ _ ↦ confined_pure trivial
  · exact confined_throw

theorem admitted_writeSeries {items : List Phrase}
    (h : O.Admits (items.flatten.flatMap Span.strings)) (joiner : Joiner) (bound : Bool) :
    (Series.join joiner bound items).Admitted O :=
  Phrase.admitted_join joiner bound fun _ hi span hs ↦
    admits_flatMap.mp h span (List.mem_flatten_of_mem hi hs)

theorem plain_numberText (number : Int) : Plain (numberText number) := by
  unfold numberText
  split
  · exact .append (by decide) (plain_toString _)
  · exact plain_toString_int number

/-- Every call but the beginning and the end of an element stays in its zone. -/
theorem contained_action {call : Call} (hb : ∀ element, call ≠ .beginElement element)
    (he : ∀ kind, call ≠ .endElement kind) (h : O.Admits call.strings) :
    Contained O P definition (call.action backend) := by
  have done {act : Action Unit} (h : Contained O P definition act) :
      Contained O P definition (do act; return Reply.done) :=
    h.bind fun _ _ ↦ confined_pure trivial
  cases call with
  | createLabel target =>
    exact (contained_createLabel target).bind fun _ _ ↦ confined_pure trivial
  | beginElement element => exact absurd rfl (hb element)
  | endElement kind => exact absurd rfl (he kind)
  | write text =>
    exact done (contained_streamedPhrase (Phrase.admitted_text (h text List.mem_cons_self)))
  | writeNumber number =>
    exact done (contained_streamedPhrase (Phrase.admitted_text
      (O.source_plain (plain_numberText number))))
  | writeSpace => exact done (contained_writePhrase Phrase.admitted_space)
  | writeSeries joiner bound items =>
    exact done (contained_streamedPhrase (admitted_writeSeries h joiner bound))
  | reference joiner bound labels =>
    exact done ((confined_labelStates labels).bind fun _ known ↦
      contained_streamedPhrase (Reference.admitted_phrase joiner bound labels known))
  | cite style records =>
    refine done ?_
    unfold cite
    split
    · exact confined_pure trivial
    · exact confined_current fun _ _ ↦ contained_refuse.bind fun _ _ ↦
        (confined_registerWorks h).bind fun _ known ↦
          contained_streamedPhrase (Citation.admitted_phrase style known)
  | paint fills => exact (contained_paint fills).bind fun _ _ ↦ confined_pure trivial

/-! ### Runs -/

/-- Among the calls a placeholder of parameter `index` was begun while the innermost definition had
`height` elements around it, and that definition has not been ended since. -/
def Placed (backend : Backend) (s : Session) (calls : List Call) (height index : Nat) : Prop :=
  ∃ before after, calls = before ++ .beginElement (.macroParameter index) :: after ∧
    (s.run backend before).document.innermost ≠ some .macroInvocation ∧
    ((s.run backend before).perform backend
      (.beginElement (.macroParameter index))).1.isOk = true ∧
    (∃ signature, (s.run backend before).document.frames.innermostDefinition? =
      some (height, signature)) ∧
    ∀ later, later <+: after → height < (s.run backend
      (before ++ .beginElement (.macroParameter index) :: later)).document.frames.length

/-- What was placed in a definition is placed there until the definition is ended. -/
theorem Placed.snoc {s : Session} {calls : List Call} {call : Call} {height index : Nat}
    (h : Placed backend s calls height index)
    (open' : height < (s.run backend (calls ++ [call])).document.frames.length) :
    Placed backend s (calls ++ [call]) height index := by
  obtain ⟨before, after, rfl, outside, begun, inside, still⟩ := h
  refine ⟨before, after ++ [call], by simp, outside, begun, inside, fun later hl ↦ ?_⟩
  rcases List.prefix_concat_iff.mp hl with rfl | hl
  · simpa using open'
  · exact still later hl

/-- Beginning an element leaves a document tidy if the marker of a placeholder is allowed for. -/
theorem tidy_perform_beginElement {element : Element} {s : Session} (h : s.document.Tidy O P)
    (nested : s.document.Nested)
    (hm : ∀ index, element = .macroParameter index → s.document.innermost ≠ some .macroInvocation →
      ∀ height signature, s.document.frames.innermostDefinition? = some (height, signature) →
        P height index) :
    (s.perform backend (.beginElement element)).2.document.Tidy O P := by
  have marked : ∀ index, element = .macroParameter index →
      (∀ signature arguments,
        s.document.frames.topState? ≠ some (.macroInvocation signature arguments)) →
      ∀ height signature, s.document.frames.innermostDefinition? = some (height, signature) →
        P height index := by
    rintro index rfl top
    refine hm index rfl fun hi ↦ ?_
    obtain ⟨state, hs, suits⟩ := nested.frames.exists_topState? hi
    obtain ⟨signature, arguments, rfl, _⟩ := FrameState.suits_macroInvocation suits
    exact top signature arguments hs
  have tidy : Ensures (· = s) (beginElement backend element) (fun _ t ↦ t.document.Tidy O P)
      fun _ _ ↦ True :=
    (ensures_beginElement_tidy element s.document marked).mono
      (by rintro _ rfl; exact ⟨rfl, h, nested⟩) (fun _ _ ht ↦ ht) fun _ _ ht ↦ ht
  have begun : Ensures (· = s) ((Call.beginElement element).action backend)
      (fun _ t ↦ t.document.Tidy O P) fun _ t ↦ t.document.Tidy O P :=
    ((careful_beginElement backend element s).and tidy |>.mono (fun _ ht ↦ ⟨ht, ht⟩)
      (fun _ _ ht ↦ ht.2) fun _ _ ht ↦ ht.1 ▸ h).bind fun _ ↦ ensures_pure fun _ ht ↦ ht
  exact perform_of_ensures begun rfl

/-- A call leaves a document tidy if the descriptions of images are admitted and a new marker is
allowed for. -/
theorem tidy_perform {call : Call} {s : Session} (h : s.document.Tidy O P)
    (nested : s.document.Nested) (hc : O.Admits call.strings)
    (hd : ∀ kind state, call = .endElement kind → s.document.frames.topState? = some state →
      O.Admits state.descriptions)
    (hm : ∀ index, call = .beginElement (.macroParameter index) →
      (s.perform backend call).1.isOk = true → s.document.innermost ≠ some .macroInvocation →
        ∀ height signature, s.document.frames.innermostDefinition? = some (height, signature) →
          P height index) :
    (s.perform backend call).2.document.Tidy O P := by
  obtain ⟨element, rfl⟩ | ⟨kind, rfl⟩ | ⟨begins, ends⟩ := call.begins_or_ends_or
  · cases ho : (s.perform backend (.beginElement element)).1.isOk with
    | false =>
      rw [perform_beginElement_eq ho]
      exact h
    | true =>
      exact tidy_perform_beginElement h nested fun index he ↦
        hm index (congrArg Call.beginElement he) ho
  · have ended : Ensures (· = s) ((Call.endElement kind).action backend)
        (fun _ t ↦ t.document.Tidy O P) fun _ t ↦ t.document.Tidy O P :=
      ((ensures_endElement_tidy kind).mono
        (by rintro _ rfl; exact ⟨h, nested, fun state ↦ hd kind state rfl⟩) (fun _ _ ht ↦ ht)
          fun _ _ ht ↦ ht).bind fun _ ↦ ensures_pure fun _ ht ↦ ht
    exact perform_of_ensures ended rfl
  · have contained : Contained O P s.document.frames.innermostDefinition?
        (call.action backend) := contained_action begins ends hc
    exact perform_of_ensures (contained.mono (fun _ ht ↦ ht) (fun _ _ ht ↦ ht.2.tidy)
      fun _ _ ht ↦ ht.tidy) ⟨h, rfl⟩

/-- After a run every marker stands in an open definition, and was placed there. That the
descriptions of images are admitted may rest on what the document has been till then. -/
theorem tidy_run {s : Session} {calls : List Call} (h : s.document.Tidy O (fun _ _ ↦ False))
    (nested : s.document.Nested) (hc : ∀ call ∈ calls, O.Admits call.strings)
    (hd : ∀ before kind after state, calls = before ++ .endElement kind :: after →
      (s.run backend before).document.Tidy O (Placed backend s before) →
        (s.run backend before).document.frames.topState? = some state →
          O.Admits state.descriptions) :
    (s.run backend calls).document.Tidy O (Placed backend s calls) := by
  induction calls using List.reverseRecOn with
  | nil => exact h.mono fun _ _ _ hf ↦ hf.elim
  | append_singleton calls call ih =>
    rw [List.forall_mem_append, List.forall_mem_singleton] at hc
    have before := ih hc.1 fun before kind after state he ↦
      hd before kind (after ++ [call]) state (by rw [he]; simp)
    -- During the call the marker that it places is allowed for as well.
    let t := s.run backend calls
    let allowed (height index : Nat) : Prop := Placed backend s calls height index ∨
      call = .beginElement (.macroParameter index) ∧ (t.perform backend call).1.isOk = true ∧
        t.document.innermost ≠ some .macroInvocation ∧
          ∃ signature, t.document.frames.innermostDefinition? = some (height, signature)
    have after : (t.perform backend call).2.document.Tidy O allowed := by
      refine tidy_perform (before.mono fun _ _ _ hp ↦ .inl hp) (nested_run backend calls nested)
        hc.2 (fun kind state he hs ↦ hd calls kind [] state (by rw [he]) before hs) ?_
      exact fun index hb ho outside height signature hd ↦ .inr ⟨hb, ho, outside, signature, hd⟩
    rw [run_append]
    refine after.mono fun height hh index hp ↦ ?_
    have here : height < (s.run backend (calls ++ [call])).document.frames.length := by
      rw [run_append]
      exact hh
    rcases hp with hp | ⟨rfl, begun, outside, inside⟩
    · exact hp.snoc here
    · refine ⟨calls, [], rfl, outside, begun, inside, fun later hl ↦ ?_⟩
      rw [List.prefix_nil.mp hl]
      exact here

end Session

/-- A new document holds nothing. -/
theorem Context.tidy_document (context : Context) (path : Path) (place : Location) (serial : Nat)
    (h : O.source context.stem) :
    (context.document path place serial).Tidy O P where
  zones := .bottom
  streamed := O.markup_empty
  root := .empty
  head := ⟨fun _ ht ↦ (by cases ht), List.forall_mem_nil _, fun _ ht ↦ (by cases ht)⟩
  macros := List.forall_mem_nil _
  keyed := Bibliography.keyed_empty
  entries := List.forall_mem_nil _
  numbers := List.forall_mem_nil _
  stem := h

namespace Session

variable {context used : Context} {serial : Nat} {files : FileSystem} {s : Session}
  (hs : context.createDocument backend serial files = .ok (s, used))

include hs

/-- What was made in a context is tidy whatever has been called. -/
theorem tidy_created (hn : O.source context.stem) {calls : List Call}
    (hc : ∀ call ∈ calls, O.Admits call.strings)
    (hd : ∀ before kind after state, calls = before ++ .endElement kind :: after →
      (s.run backend before).document.Tidy O (Placed backend s before) →
        (s.run backend before).document.frames.topState? = some state →
          O.Admits state.descriptions) :
    (s.run backend calls).document.Tidy O (Placed backend s calls) := by
  obtain ⟨path, location, document⟩ := context.exists_document_of_createDocument hs
  exact tidy_run (document ▸ context.tidy_document path location serial hn)
    (document ▸ context.nested_document path location serial) hc hd

/-- Whatever has been called with whatever texts, markers stand where they were placed. -/
theorem tidy_called (calls : List Call) :
    (s.run backend calls).document.Tidy (.hygienic True) (Placed backend s calls) := by
  have all (strings : List String) : (Orthography.hygienic True).Admits strings :=
    fun _ _ _ _ _ _ ↦ trivial
  exact tidy_created hs (fun _ _ _ _ ↦ trivial) (fun _ _ ↦ all _) fun _ _ _ _ _ _ _ ↦ all _

/-- A tidy document leaves a tidy file, whether it is closed or dropped. -/
theorem tidy_file (calls : List Call) (tidy : (s.run backend calls).document.Tidy O P) :
    ∀ final ∈ [(s.run backend calls).settle, ((s.run backend calls).close backend).2],
      ∃ text, final.node? s.document.place = some (.text text) ∧
        O.markup (fun _ ↦ False) text := by
  obtain ⟨place, ending⟩ := place_run hs calls
  rw [← place]
  refine List.forall_mem_cons.mpr
    ⟨⟨_, FileSystem.node?_put _ _ ending.ne_nil, tidy.streamed⟩,
      List.forall_mem_singleton.mpr ⟨_, node?_close ending, ?_⟩⟩
  split
  · exact tidy.streamed.append tidy.root.markup
  · exact tidy.streamed

end Session

/-! ### Texts of the caller -/

/-- The parameters that the markers in a text stand for, in order. -/
def Marker.indices (text : String) : List Nat := text.toList.filterMap index?

theorem Marker.indices_append (text text' : String) :
    indices (text ++ text') = indices text ++ indices text' := by
  rw [indices, String.toList_append, List.filterMap_append]
  rfl

theorem Marker.Free.indices_eq_nil {text : String} (h : Free text) : indices text = [] :=
  List.filterMap_eq_nil_iff.mpr (free_iff.mp h)

/-- The parameters that the markers in the captures stand for, in both channels. -/
def Output.markers (output : Output) : List (List Nat × List Nat) :=
  output.captures.map fun capture ↦ (Marker.indices capture.markup, Marker.indices capture.text)

/-- What holds no markers adds none. -/
theorem Output.markers_write {esc : Prop} (output : Output) {passage : Passage}
    (h : passage.Tidy (.hygienic esc) (fun _ ↦ False)) :
    (output.write passage).markers = output.markers := by
  unfold Output.write
  split
  · rfl
  · next capture outer hc =>
    have same : ((capture ++ passage).markup = capture.markup ++ passage.markup) ∧
        (capture ++ passage).text = capture.text ++ passage.text := ⟨rfl, rfl⟩
    simp only [Output.markers, hc, List.map_cons, same, Marker.indices_append,
      Marker.Free.indices_eq_nil h.markup.text, Marker.Free.indices_eq_nil h.text,
      List.append_nil]

namespace Session

open Action

theorem keeps_markers_writePhrase (phrase : Phrase) :
    Keeps (·.document.output.markers) (writePhrase backend phrase) := by
  have admitted : phrase.Admitted (.hygienic True) := fun _ _ _ _ _ _ _ _ ↦ trivial
  obtain ⟨passage, appended, tidy⟩ := exists_passage_appendPhrase admitted
  refine keeps_writePhrase backend phrase fun s ↦ ?_
  change (s.document.appendPhrase backend phrase).output.markers = s.document.output.markers
  rw [appended]
  exact s.document.output.markers_write (tidy _)

/-- A call that neither begins nor ends an element adds no marker to anything that is held back. -/
theorem keeps_markers_action {call : Call} (hb : ∀ element, call ≠ .beginElement element)
    (he : ∀ kind, call ≠ .endElement kind) :
    Keeps (·.document.output.markers) (call.action backend) := by
  refine keeps_writing keeps_markers_writePhrase (fun s ↦ ?_) (fun _ _ ↦ keeps_paint _ fun _ ↦ rfl)
    (fun _ _ ↦ keeps_createLabel _ fun _ _ ↦ rfl) (fun _ ↦ keeps_registerWorks _ fun _ _ ↦ rfl) hb he
  change s.document.output.stream.markers = _
  rw [Output.markers, Output.captures_stream, Output.markers]

/-! ### The main result -/

/-- Whatever calls a document gets, and whatever markers their texts hold: no marker is in what has
been written at the root, in the header, in a literal of a macro, or in the file, whether the
document is closed or dropped. Where a marker is held for an open element, it belongs to the
innermost definition around it, and a placeholder of one of the parameters of that definition was
placed in it. Calls that hand in text leave all markers alone. -/
theorem markers_run (context used : Context) (serial : Nat) (files : FileSystem) (s : Session)
    (hs : context.createDocument backend serial files = .ok (s, used)) (calls : List Call) :
    let t := s.run backend calls
    let d := t.document
    (∀ text ∈ d.output.streamed :: d.output.root.texts, Marker.Free text) ∧
    (∀ kept ∈ d.head.title.toList ++ d.head.authors ++ d.head.date.toList,
      ∀ text ∈ kept.texts, Marker.Free text) ∧
    (∀ entry ∈ d.macros.definitions, ∀ literal,
      .literal literal ∈ entry.2.markup.parts ++ entry.2.text.parts →
        ∀ c ∈ literal, Marker.index? c = none) ∧
    (∀ final ∈ [t.settle, (t.close backend).2],
      ∃ text, final.node? s.document.place = some (.text text) ∧ Marker.Free text) ∧
    (∀ place ∈ d.frames.held d.output.captures, ∀ text ∈ place.2, ∀ c ∈ text.toList,
      ∀ index, Marker.index? c = some index →
        ∃ height signature, place.1.innermostDefinition? = some (height, signature) ∧
          index < signature.arity ∧ Placed backend s calls height index) ∧
    (∀ call, (∀ element, call ≠ .beginElement element) → (∀ kind, call ≠ .endElement kind) →
      (t.perform backend call).2.document.output.markers = d.output.markers) := by
  intro t d
  have tidy : d.Tidy (.hygienic True) (Placed backend s calls) := tidy_called hs calls
  refine ⟨List.forall_mem_cons.mpr ⟨tidy.streamed.text, tidy.root.texts⟩, ?_, ?_, ?_,
    tidy.zones.texts, ?_⟩
  · intro kept hk
    simp only [List.mem_append, Option.mem_toList] at hk
    rcases hk with (hk | hk) | hk
    · exact (tidy.head.title kept hk).texts
    · exact (tidy.head.authors kept hk).texts
    · exact (tidy.head.date kept hk).texts
  · intro entry hm literal hl
    obtain ⟨body, hb, _⟩ := tidy.macros entry hm
    rw [hb] at hl
    rcases List.mem_append.mp hl with hl | hl
    · exact free_of_literal_mem_parse hl
    · exact free_of_literal_mem_parse hl
  · intro final hf
    obtain ⟨text, file, obeys⟩ := tidy_file hs calls tidy final hf
    exact ⟨text, file, obeys.text⟩
  · exact fun call hb he ↦ perform_of_ensures (keeps_markers_action hb he d.output.markers) rfl

/-- A macro of one parameter. -/
def unary (name : String) : Macro.Signature := ⟨name, 1, by decide⟩

/-- Inside a definition a marker in a text is written as a reference, and the one that stands there
was placed by the placeholder. -/
theorem markers_run_placeholder :
    ∃ s used, (⟨⟨"/"⟩, "index", {}, false⟩ : Context).createDocument backend 0 {} = .ok (s, used) ∧
      let calls : List Call := [.beginElement .header, .endElement .header, .beginElement .body,
        .beginElement (.macroDefinition (unary "m")), .write "\ue001",
        .beginElement (.macroParameter 0)]
      (s.run backend calls).document.output.captures.map Passage.markup = ["&#xE001;\ue000"] ∧
        Placed backend s calls 1 0 := by
  obtain ⟨s, used, made, captured, place, hp, inside, text, ht, hc⟩ : ∃ s used,
      (⟨⟨"/"⟩, "index", {}, false⟩ : Context).createDocument backend 0 {} = .ok (s, used) ∧
      let d := (s.run backend [.beginElement .header, .endElement .header, .beginElement .body,
        .beginElement (.macroDefinition (unary "m")), .write "\ue001",
        .beginElement (.macroParameter 0)]).document
      d.output.captures.map Passage.markup = ["&#xE001;\ue000"] ∧
        ∃ place ∈ d.frames.held d.output.captures,
          place.1.innermostDefinition?.map Prod.fst = some 1 ∧
            ∃ text ∈ place.2, '\ue000' ∈ text.toList :=
    ⟨_, _, rfl, by decide +kernel, by decide +kernel⟩
  obtain ⟨height, signature, hd, _, placed⟩ :=
    (markers_run _ used 0 {} s made _).2.2.2.2.1 place hp text ht '\ue000' hc 0 (by decide)
  rw [hd] at inside
  cases inside
  exact ⟨s, used, made, captured, placed⟩

end Session

end Manuscript
