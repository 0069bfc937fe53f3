import Manuscript.Proofs.Document.Acceptance
import Manuscript.Proofs.Document.Citing
import Manuscript.Proofs.Document.Reception
import Manuscript.Proofs.Document.Showing
import Manuscript.Proofs.Markup.Wording
import Manuscript.Proofs.Xhtml.Running

/-!
# The wording of running text

Whatever is written as running text, the plain text beside the markup is what the markup says, with
markers replaced (`Session.wording_run`).
-/

namespace Manuscript

open Markup

namespace Xhtml

/-! ### Tags -/

theorem notMem_attributes {list : List Attribute} (h : ∀ item ∈ list, '>' ∉ item.1.toList) :
    '>' ∉ (attributes list).toList := by
  induction list with
  | nil => exact List.not_mem_nil
  | cons item list ih =>
    rw [List.forall_mem_cons] at h
    simp only [attributes, attr, List.map_cons, String.join_cons, String.toList_append,
      List.mem_append, not_or]
    refine ⟨⟨⟨⟨⟨by decide, h.1⟩, by decide⟩, (notMem_escape item.2).2⟩, by decide⟩, ih h.2⟩

/-- A start tag says nothing, whatever the values of its attributes are. -/
theorem says_startTag {name : String} {list : List Attribute} (hn : '>' ∉ name.toList)
    (h : ∀ item ∈ list, '>' ∉ item.1.toList) : Says (startTag name list) "" := by
  have split : startTag name list = "<" ++ (name ++ attributes list) ++ ">" := by
    rw [startTag, ← String.append_assoc]
  rw [split]
  refine says_tag ?_
  rw [String.toList_append, List.mem_append, not_or]
  exact ⟨hn, notMem_attributes h⟩

theorem says_endTag {name : String} (hn : '>' ∉ name.toList) : Says (endTag name) "" := by
  have split : endTag name = "<" ++ ("/" ++ name) ++ ">" := by
    rw [endTag, ← String.append_assoc]
    rfl
  rw [split]
  refine says_tag ?_
  rw [String.toList_append, List.mem_append, not_or]
  exact ⟨by decide, hn⟩

theorem says_element {name content text : String} {list : List Attribute} (hn : '>' ∉ name.toList)
    (h : ∀ item ∈ list, '>' ∉ item.1.toList) (hc : Says content text) :
    Says (element name list content) text := by
  have said := ((says_startTag hn h).append hc).append (says_endTag hn)
  rwa [String.empty_append, String.append_empty] at said

theorem says_inlineStart (style : InlineStyle) : Says (backend.inlineStart style) "" := by
  cases style <;> exact says_startTag (by decide) (by decide)

theorem says_inlineEnd (style : InlineStyle) : Says (backend.inlineEnd style) "" := by
  cases style <;> exact says_endTag (by decide)

theorem says_noBreakSpace : Says backend.noBreakSpace Span.noBreakSpace :=
  says_of_decode (by decide) fun _ ↦
    @decode_reference "#160".toList _ _ (by decide) (by decide)

end Xhtml

open Xhtml

/-! ### Passages -/

theorem Marker.hide_append (first second : String) :
    hide (first ++ second) = hide first ++ hide second := by
  apply String.toList_injective
  simp [hide]

namespace Passage

/-- The plain text is what the markup says, with markers replaced. -/
def Worded (passage : Passage) : Prop :=
  ∃ text, Says passage.markup text ∧ passage.text = Marker.hide text

variable {first second : Passage}

theorem Worded.eq {passage : Passage} (h : passage.Worded) :
    Marker.hide (wording passage.markup) = passage.text := by
  obtain ⟨text, said, ht⟩ := h
  rw [said.wording, ht]

theorem worded_empty : Worded {} := ⟨"", says_empty, rfl⟩

theorem Worded.append (h : first.Worded) (h' : second.Worded) : (first ++ second).Worded := by
  obtain ⟨text, said, ht⟩ := h
  obtain ⟨text', said', ht'⟩ := h'
  exact ⟨text ++ text', said.append said',
    (congrArg₂ _ ht ht').trans (Marker.hide_append text text').symm⟩

theorem worded_join {passages : List Passage} (h : ∀ passage ∈ passages, passage.Worded) :
    (join passages).Worded := by
  induction passages with
  | nil => exact worded_empty
  | cons passage passages ih =>
    rw [List.forall_mem_cons] at h
    exact h.1.append (ih h.2)

/-- Markup that says nothing has no plain text beside it. -/
theorem worded_of_silent {markup : String} (h : Says markup "") : Worded ⟨markup, ""⟩ :=
  ⟨"", h, rfl⟩

end Passage

/-- A phrase says the same in both channels. -/
theorem worded_passage (phrase : Phrase) : (backend.passage phrase).Worded := by
  refine Passage.worded_join (List.forall_mem_map.mpr fun span _ ↦ ?_)
  cases span with
  | text text => exact ⟨text, says_escape text, rfl⟩
  | space => exact ⟨Span.noBreakSpace, says_noBreakSpace, by decide⟩
  | emphasized text =>
    refine ⟨text, ?_, rfl⟩
    have said := ((says_inlineStart .emphasize).append (says_escape text)).append
      (says_inlineEnd .emphasize)
    rwa [String.empty_append, String.append_empty] at said
  | link target text =>
    exact ⟨text, says_element (by decide) (List.forall_mem_singleton.mpr
      (show '>' ∉ "href".toList by decide)) (says_escape text), rfl⟩

/-! ### Running text -/

/-- The calls write running text: each writes text, numbers, spaces, series, references or
citations, and styled text is ended where its style began. -/
inductive RunningText : List Call → Prop where
  | nothing : RunningText []
  | seq {first second : List Call} :
    RunningText first → RunningText second → RunningText (first ++ second)
  | text (text : String) : RunningText [.write text]
  | number (number : Int) : RunningText [.writeNumber number]
  | space : RunningText [.writeSpace]
  | series (joiner : Joiner) (bound : Bool) (items : List Phrase) :
    RunningText [.writeSeries joiner bound items]
  | reference (joiner : Joiner) (bound : Bool) (labels : List Label) :
    RunningText [.reference joiner bound labels]
  | citation (style : CitationStyle) (records : List Record) : RunningText [.cite style records]
  | styled (style : InlineStyle) {calls : List Call} :
    RunningText calls → RunningText ((Element.styled style).around calls)

/-! ### Calls -/

namespace Session

open Action

/-- The elements are open, and a passage that is worded stands behind the capture. -/
def Continues (frames : Frames) (capture : Passage) (rest : List Passage) (s : Session) : Prop :=
  s.document.frames = frames ∧ ∃ passage : Passage, passage.Worded ∧
    s.document.output.captures = (capture ++ passage) :: rest

variable {frames outer : Frames} {frame : Frame} {capture passage : Passage} {rest : List Passage}
  {s : Session}

theorem Continues.append (h : s.Continues frames capture rest) (hp : passage.Worded) :
    (s.modifyDocument (·.append passage)).Continues frames capture rest := by
  obtain ⟨hf, first, worded, hc⟩ := h
  refine ⟨hf, first ++ passage, worded.append hp, ?_⟩
  change (s.document.output.write passage).captures = _
  rw [Output.write, hc, ← Passage.append_assoc]

theorem Continues.stream (h : s.Continues frames capture rest) :
    (s.modifyDocument Document.stream).Continues frames capture rest := by
  obtain ⟨hf, first, worded, hc⟩ := h
  exact ⟨hf, first, worded, (Output.captures_stream _).trans hc⟩

/-- Whatever is written goes behind the capture. -/
theorem continues_perform {call : Call} (h : s.Continues frames capture rest)
    (hb : ∀ element, call ≠ .beginElement element) (he : ∀ kind, call ≠ .endElement kind)
    (hp : ∀ fills, call ≠ .paint fills) :
    (s.perform backend call).2.Continues frames capture rest := by
  refine perform_of_ensures (ensures_writing ?_ (fun _ hs ↦ hs.stream)
    (fun fills hc ↦ absurd hc (hp fills)) ?_ ?_ hb he) h
  · exact fun phrase ↦ ensures_current fun d ↦ Ensures.bind
      ((ensures_of_keeps keeps_refuse).mono (fun _ hs ↦ hs.1) (fun _ _ hs ↦ hs) fun _ _ hs ↦ hs)
      fun _ ↦ ensures_change fun _ hs ↦ hs.append (worded_passage phrase)
  · exact fun target _ ↦ ensures_current fun d ↦ Ensures.bind
      (ensures_change fun _ hs ↦ hs.1) fun _ ↦ ensures_pure fun _ hs ↦ hs
  · exact fun _ records _ ↦ ensures_current fun d ↦ Ensures.bind
      (ensures_change fun _ hs ↦ hs.1) fun _ ↦ ensures_pure fun _ hs ↦ hs

/-- A styled text while it is open. -/
def styledFrame (style : InlineStyle) : Frame := ⟨style.kind, false, .styled style⟩

/-- A style may begin where text and formulas stand, and its start tag is appended. -/
theorem continues_beginStyled (style : InlineStyle)
    (takes : (frame.kind.acceptsInline || frame.kind.acceptsMath) = true)
    (h : s.Continues (frame :: outer) capture rest) :
    (s.perform backend (.beginElement (.styled style))).2.Continues
      (styledFrame style :: frame :: outer) capture rest := by
  have allowed : style.kind.allowedIn s.document.innermost = true := by
    rw [Document.innermost, h.1]
    cases style <;> exact takes
  have started : start backend (.styled style) (s.withOutput s.document.output) =
      .ok (.styled style, false)
        (s.modifyDocument (·.append ⟨backend.inlineStart style, ""⟩)) := by
    cases style <;> rfl
  have timely : s.document.phaseFault (Element.styled style).kind = none := by cases style <;> rfl
  have begun := perform_beginElement rfl timely allowed started
  have appended := h.append (Passage.worded_of_silent (says_inlineStart style))
  change s.perform backend _ = _ at begun
  rw [begun]
  exact ⟨congrArg (styledFrame style :: ·) appended.1, appended.2⟩

/-- The end tag of a style is appended where its text ends. -/
theorem continues_endStyled (style : InlineStyle) (nested : s.document.Nested)
    (h : s.Continues (styledFrame style :: frames) capture rest) :
    (s.perform backend (.endElement style.kind)).2.Continues frames capture rest := by
  have popped : (s.modifyDocument Document.pop).Continues frames capture rest := by
    simp only [Session.modifyDocument, Document.pop, h.1]
    exact ⟨rfl, h.2⟩
  have ended : endElement backend style.kind s = .ok () (((s.modifyDocument
      Document.pop).modifyDocument (·.append ⟨backend.inlineEnd style, ""⟩)).modifyDocument
        Document.stream) := endElement_eq h.1 nested
  rw [perform_of_ok rfl ended]
  exact (popped.append (Passage.worded_of_silent (says_inlineEnd style))).stream

end Session

/-- Running text leaves the same elements open, and what it appends is worded. -/
theorem RunningText.continues {calls : List Call} (h : RunningText calls) {frame : Frame}
    {outer : Frames} {capture : Passage} {rest : List Passage} {s : Session}
    (nested : s.document.Nested)
    (takes : (frame.kind.acceptsInline || frame.kind.acceptsMath) = true)
    (hs : s.Continues (frame :: outer) capture rest) :
    (s.run backend calls).Continues (frame :: outer) capture rest := by
  induction h generalizing frame outer s with
  | nothing => exact hs
  | seq _ _ ih ih' =>
    rw [Session.run_append]
    exact ih' (Session.nested_run backend _ nested) takes (ih nested takes hs)
  | styled style inner ih =>
    have begun := Session.continues_beginStyled style takes hs
    have nested := Session.nested_run backend [.beginElement (.styled style)] nested
    rw [Element.around, Session.run_cons, Session.run_append]
    refine Session.continues_endStyled style (Session.nested_run backend _ nested)
      (ih nested ?_ begun)
    cases style <;> rfl
  | _ =>
    exact Session.continues_perform hs (fun _ hc ↦ by cases hc) (fun _ hc ↦ by cases hc)
      fun _ hc ↦ by cases hc

/-! ### What is kept of an element -/

/-- The caption of an element that has captions. -/
def FrameState.caption? : FrameState → Option Passage
  | figure f | subFigure f => some f.caption
  | figureSeries s => some s.caption
  | table t => some t.caption
  | _ => none

/-- The content that is kept of the last element of a kind: a title, an author, a date, or the
caption of the element around. -/
def Document.kept? (d : Document) : Kind → Option Passage
  | .title => d.head.title
  | .author => d.head.authors.getLast?
  | .date => d.head.date
  | .caption => d.frames.topState?.bind FrameState.caption?
  | _ => none

namespace Frames

/-- What a caption stands in takes the caption. -/
theorem Nested.caption?_takeCaption {frames : Frames} (h : frames.Nested)
    (hp : Kind.caption.allowedIn frames.innermost = true) (caption : Passage) :
    ((frames.changeTop? (FrameState.takeCaption? caption)).getD frames).topState?.bind
      FrameState.caption? = some caption := by
  cases frames with
  | nil => cases hp
  | cons frame outer =>
    obtain ⟨kind, captured, state⟩ := frame
    have state_ := FrameState.exists_of_suits h.1.suits
    rcases Kind.allowedIn_caption hp with hk | hk | hk | hk <;> cases hk <;>
      obtain ⟨pending, rfl⟩ := state_ <;> rfl

end Frames

namespace Session

open Action

variable {s : Session} {frame : Frame} {outer : Frames} {capture : Passage} {rest : List Passage}

/-- The content of a title, an author, a date or a caption is kept when the element ends. -/
theorem kept?_endElement (nested : s.document.Nested) (hf : s.document.frames = frame :: outer)
    (hc : s.document.output.captures = capture :: rest)
    (hk : frame.kind ∈ [.title, .author, .date, .caption]) :
    (s.perform backend (.endElement frame.kind)).2.document.kept? frame.kind = some capture := by
  have frames := nested.frames
  rw [hf] at frames
  have ended : endElement backend frame.kind s = _ := endElement_eq hf nested
  obtain ⟨kind, captured, state⟩ := frame
  simp only [List.mem_cons, List.not_mem_nil, or_false] at hk
  have held : s.document.held = if captured then capture else {} := by
    rw [Document.held, hf, Output.release?, hc]
    rfl
  have popped : s.document.pop.frames = outer := by rw [Document.pop, hf]
  rcases hk with rfl | rfl | rfl | rfl
  all_goals
    obtain rfl : captured = true := frames.1.captured fun hp ↦ by cases hp
    obtain rfl : state = .plain := FrameState.eq_plain_of_suits rfl (fun hp ↦ by cases hp)
      frames.1.suits
    rw [held, if_pos rfl] at ended
    rw [perform_of_ok rfl ended]
  · rfl
  · exact List.getLast?_concat
  · rfl
  · change (((s.document.pop.frames.changeTop? (FrameState.takeCaption? capture)).getD
      s.document.pop.frames).topState?.bind FrameState.caption?) = some capture
    rw [popped]
    exact frames.2.caption?_takeCaption frames.1.allowed capture

/-- Nothing has been captured yet of an element that has just been begun. -/
theorem captures_beginElement {element : Element}
    (h : (s.perform backend (.beginElement element)).1.isOk = true)
    (hf : (s.perform backend (.beginElement element)).2.document.frames = frame :: outer)
    (held : frame.captured = true) :
    ∃ captures, (s.perform backend (.beginElement element)).2.document.output.captures =
      {} :: captures := by
  obtain ⟨_, answer, _, u, _, _, begun⟩ := exists_of_begin h
  rw [begun] at hf ⊢
  obtain ⟨rfl, rfl⟩ := List.cons.inj hf
  exact ⟨u.document.output.captures,
    congrArg Output.captures (if_pos held : (if answer.2 then _ else _) = _)⟩

/-- Running text inside an element whose content is held back stands behind what has been captured
of the element, and its plain text is what its markup says: tags are dropped, references decoded and
markers replaced. So titles, authors, dates and captions are kept with a plain text that says what
is shown. -/
theorem wording_run {context used : Context} {serial : Nat} {files : FileSystem} {s : Session}
    (hs : context.createDocument backend serial files = .ok (s, used)) {before inside : List Call}
    {frame : Frame} {outer : Frames} (hf : (s.run backend before).document.frames = frame :: outer)
    (held : frame.captured = true) (text : frame.kind.acceptsText = true)
    (running : RunningText inside) :
    ∃ capture rest passage,
      (s.run backend before).document.output.captures = capture :: rest ∧
      (∀ earlier element, before = earlier ++ [.beginElement element] →
        ((s.run backend earlier).perform backend (.beginElement element)).1.isOk = true →
          capture = {}) ∧
      (s.run backend (before ++ inside)).document.frames = frame :: outer ∧
      (s.run backend (before ++ inside)).document.output.captures =
        (capture ++ passage) :: rest ∧
      Marker.hide (wording passage.markup) = passage.text ∧
      (frame.kind ∈ [.title, .author, .date, .caption] →
        (s.run backend (before ++ inside ++ [.endElement frame.kind])).document.kept? frame.kind =
          some (capture ++ passage)) := by
  obtain ⟨path, place, hd⟩ := context.exists_document_of_createDocument hs
  have nested : s.document.Nested := hd ▸ context.nested_document path place serial
  have nested_ (calls : List Call) : (s.run backend calls).document.Nested :=
    nested_run backend calls nested
  have takes : (frame.kind.acceptsInline || frame.kind.acceptsMath) = true := by
    have stands := (hf ▸ (nested_ before).frames : Frames.Nested (frame :: outer)).1
    have captures := stands.captured
    revert text captures
    rw [held]
    cases frame.kind <;> decide
  have open_ := (nested_ before).captures_eq
  rw [hf, List.countP_cons, if_pos held] at open_
  cases hc : (s.run backend before).document.output.captures with
  | nil => simp [hc] at open_
  | cons capture rest =>
    have start : (s.run backend before).Continues (frame :: outer) capture rest :=
      ⟨hf, {}, Passage.worded_empty, by rw [Passage.append_empty, hc]⟩
    obtain ⟨same, passage, worded, captured⟩ := running.continues (nested_ before) takes start
    rw [← run_append] at same captured
    refine ⟨capture, rest, passage, rfl, ?_, same, captured, worded.eq, fun hk ↦ ?_⟩
    · rintro earlier element rfl accepted
      rw [run_append] at hf hc
      obtain ⟨captures, hn⟩ := captures_beginElement accepted hf held
      exact (List.cons.inj (hc.symm.trans hn)).1
    · rw [run_append _ _ (before ++ inside)]
      exact kept?_endElement (nested_ _) same captured hk

/-- A title in which a part is emphasised. -/
def emphaticTitle : List Call :=
  .write "a < b " ::
    (Element.styled .emphasize).around [.writeSpace, .write "\ue000 & \"c\"", .writeNumber (-1)]

theorem runningText_emphaticTitle : RunningText emphaticTitle :=
  .seq (.text _) (.styled .emphasize (.seq .space (.seq (.text _) (.number (-1)))))

/-- The title is kept as it is shown, but for a marker, which is replaced in the plain text. -/
theorem wording_run_title :
    ∃ s used passage,
      (⟨⟨"/"⟩, "index", {}, false⟩ : Context).createDocument backend 0 {} = .ok (s, used) ∧
      (s.run backend ([.beginElement .header, .beginElement .title] ++ emphaticTitle ++
        [.endElement .title])).document.head.title = some passage ∧
      passage.markup = "a &lt; b <em>&#160;&#xE000; &amp; &quot;c&quot;\u22121</em>" ∧
      Marker.hide (wording passage.markup) = passage.text := by
  obtain ⟨s, used, made, frames, begun, markup⟩ : ∃ s used,
      (⟨⟨"/"⟩, "index", {}, false⟩ : Context).createDocument backend 0 {} = .ok (s, used) ∧
      (s.run backend [.beginElement .header, .beginElement .title]).document.frames =
        [⟨.title, true, .plain⟩, ⟨.header, false, .plain⟩] ∧
      ((s.run backend [.beginElement .header]).perform backend
        (.beginElement .title)).1.isOk = true ∧
      (s.run backend ([.beginElement .header, .beginElement .title] ++ emphaticTitle ++
        [.endElement .title])).document.head.title.map Passage.markup =
          some "a &lt; b <em>&#160;&#xE000; &amp; &quot;c&quot;\u22121</em>" :=
    ⟨_, _, rfl, by decide +kernel, by decide +kernel, by decide +kernel⟩
  obtain ⟨capture, rest, passage, _, fresh, _, _, worded, kept⟩ :=
    wording_run made frames rfl rfl runningText_emphaticTitle
  have title := kept (by decide)
  rw [fresh [.beginElement .header] .title rfl begun, Passage.empty_append] at title
  change (s.run backend _).document.head.title = _ at title
  rw [title] at markup
  exact ⟨s, used, passage, made, title, Option.some.inj markup, worded⟩

end Session

end Manuscript
