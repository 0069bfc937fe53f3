import Manuscript.Proofs.Document.Cover
import Manuscript.Proofs.Xhtml.Running

/-!
# Outside of the body

A document goes from phase to phase when its header and its body begin and end
(`Session.turn_perform`), in that order. Unless the body is open, nothing else that is called writes
to the root (`Session.perform_outside`): what may be begun then is held back, or holds no text.
-/

namespace Manuscript

open Markup Xhtml

variable {loose : String → Prop} {d : Document}

/-! ### What may be open -/

/-- Nothing is open in which anything could be written: nothing but the header and the list of
authors in it. -/
def Frames.Silent (frames : Frames) : Prop :=
  ∀ frame ∈ frames, frame.kind = .header ∨ frame.kind = .authors

theorem Frames.Silent.of_innermost {frames : Frames} (h : frames.Silent) :
    ∀ kind ∈ frames.innermost, kind = .header ∨ kind = .authors := by
  intro kind hk
  obtain ⟨frame, hf, rfl⟩ := Option.map_eq_some_iff.mp hk
  exact h frame (List.mem_of_head? hf)

/-- What may stand at the root, in the header and in the list of authors. -/
theorem Kind.eq_of_allowedIn_silent {kind : Kind} {parent : Option Kind}
    (hp : ∀ kind ∈ parent, kind = .header ∨ kind = .authors)
    (h : kind.allowedIn parent = true) :
    kind = .body ∨ kind = .header ∨ kind = .authors ∨ kind = .macroDefinition ∨
      kind.isHeadline = true := by
  cases parent with
  | none =>
    rcases Kind.eq_of_allowedAtRoot h with hk | hk | hk
    · exact .inr (.inl hk)
    · exact .inl hk
    · exact .inr (.inr (.inr (.inl hk)))
  | some parent =>
    revert h
    rcases hp parent rfl with rfl | rfl <;> cases kind <;> decide

/-- Unless the body is open something is held back while anything is open in which something could
be written. -/
theorem Frames.Nested.silent_or_captured {frames : Frames} (h : frames.Nested)
    (hb : ∀ frame ∈ frames, frame.kind ≠ .body) :
    frames.Silent ∨ frames.countP Frame.captured ≠ 0 := by
  induction frames with
  | nil => exact .inl (List.forall_mem_nil _)
  | cons frame outer ih =>
    rw [List.forall_mem_cons] at hb
    cases hc : frame.captured with
    | true =>
      refine .inr ?_
      rw [List.countP_cons_of_pos hc]
      exact Nat.succ_ne_zero _
    | false =>
      rw [List.countP_cons_of_neg (by rw [hc]; decide)]
      refine (ih h.2 hb.2).imp_left fun silent ↦ ?_
      have open_ := h.1.captured
      rw [hc] at open_
      rcases Kind.eq_of_allowedIn_silent silent.of_innermost h.1.allowed with
        hk | hk | hk | hk | hk
      · exact absurd hk hb.1
      · exact List.forall_mem_cons.mpr ⟨.inl hk, silent⟩
      · exact List.forall_mem_cons.mpr ⟨.inr hk, silent⟩
      all_goals
        exfalso
        revert open_ hk
        cases frame.kind <;> decide

namespace Document

theorem whole_pop (d : Document) : d.pop.output.whole = d.output.whole := by
  unfold Document.pop
  cases d.frames with
  | nil => rfl
  | cons frame outer =>
    dsimp only
    split
    · cases hr : d.output.release? with
      | none => rfl
      | some released => exact Output.whole_release hr
    · rfl

variable {frame : Frame} {outer : Frames}

/-- Unless the body is open, something is held back or nothing can be written. -/
theorem Settled.silent_or_held (h : d.Settled loose) (hp : d.phase ≠ .body) :
    d.frames.Silent ∨ d.output.captures ≠ [] := by
  have none_ : ∀ frame ∈ d.frames, frame.kind ≠ .body :=
    fun frame hm hk ↦ hp ((h.placed frame hm).body hk)
  refine (h.nested.frames.silent_or_captured none_).imp_right fun held ↦ ?_
  rw [← h.nested.captures_eq] at held
  simpa using held

/-- The same without the innermost element. -/
theorem Settled.silent_or_held_pop (h : d.Settled loose) (hp : d.phase ≠ .body)
    (hf : d.frames = frame :: outer) : outer.Silent ∨ d.pop.output.captures ≠ [] := by
  have none_ : ∀ frame ∈ outer, frame.kind ≠ .body :=
    fun frame hm hk ↦ hp ((h.placed frame (hf ▸ List.mem_cons_of_mem _ hm)).body hk)
  have popped := h.nested.pop
  have frames := popped.frames
  have captures := popped.captures_eq
  rw [frames_pop hf] at frames captures
  refine (frames.silent_or_captured none_).imp_right fun held ↦ ?_
  rw [← captures] at held
  simpa using held

end Document

namespace Session

open Action

variable {s : Session}

/-! ### Calls outside of the body -/

/-- Where no identifier counts every call leaves the document settled. -/
theorem settled_perform_of_forall (call : Call) (free : ∀ id, loose id)
    (h : s.document.Settled loose) :
    (s.perform backend call).2.document.Settled loose ∧
      (s.perform backend call).2.document.phase =
        s.document.phase.after call (s.perform backend call).1.isOk :=
  settled_perform h fun element _ _ ↦ Document.welcomes_of_forall free _ element

/-- Where no identifier counts every run leaves the document settled. -/
theorem settled_run_of_forall (calls : List Call) (free : ∀ id, loose id)
    (h : s.document.Settled loose) : (s.run backend calls).document.Settled loose :=
  settled_run h fun _ element _ _ _ ↦ Document.welcomes_of_forall free _ element

/-- Where no text may be written, nothing is written. -/
theorem ensures_silent (call : Call) (hb : ∀ element, call ≠ .beginElement element)
    (he : ∀ kind, call ≠ .endElement kind) {innermost : Option Kind}
    (hi : innermost.any Kind.acceptsText = false) (whole : String) :
    Ensures (fun s ↦ s.document.innermost = innermost ∧ s.document.output.whole = whole)
      (call.action backend)
      (fun _ s ↦ s.document.innermost = innermost ∧ s.document.output.whole = whole)
      fun _ s ↦ s.document.innermost = innermost ∧ s.document.output.whole = whole := by
  refine ensures_writing ?_ ?_ ?_ ?_ ?_ hb he
  · intro phrase
    refine ensures_current fun d ↦ Ensures.through (fun _ _ ↦ False) (ensures_refuse ?_ ?_)
      fun _ ↦ ensures_change fun _ hf ↦ hf.elim
    · rintro free s ⟨⟨hn, _⟩, rfl⟩
      rw [Document.textError, hn, hi] at free
      cases free
    · exact fun _ _ _ hs ↦ hs.1
  · intro s hs
    exact ⟨hs.1, (Output.whole_stream _).trans hs.2⟩
  · intro fills _
    refine ensures_current fun d ↦ ?_
    split
    · refine Ensures.bind (ensures_change fun s hs ↦ ⟨?_, hs.1.2⟩) fun _ ↦
        ensures_pure fun _ hs ↦ hs
      have shape := congrArg (·.1.innermost) (Document.outline_offer
        (FrameState.keepsShape_takePaint? fills) s.document)
      simp only [Document.outline, Frames.innermost_shape] at shape
      exact shape.trans hs.1.1
    · exact ensures_throw fun _ hs ↦ hs.1
  · exact fun target _ ↦ ensures_current fun d ↦ Ensures.bind
      (ensures_change fun _ hs ↦ hs.1) fun _ ↦ ensures_pure fun _ hs ↦ hs
  · exact fun _ records _ ↦ ensures_current fun d ↦ Ensures.bind
      (ensures_change fun _ hs ↦ hs.1) fun _ ↦ ensures_pure fun _ hs ↦ hs

/-- While something is held back, what is written does not reach the root. -/
theorem ensures_held (call : Call) (hb : ∀ element, call ≠ .beginElement element)
    (he : ∀ kind, call ≠ .endElement kind) (whole : String) :
    Ensures (·.Behind whole) (call.action backend) (fun _ ↦ (·.Behind whole))
      fun _ ↦ (·.Behind whole) :=
  ensures_writing (fun phrase ↦ ensures_behind (free_writePhrase backend phrase) _)
    (fun _ hs ↦ behind_stream hs) (fun fills _ ↦ ensures_behind (free_paint fills) _)
    (fun target _ ↦ ensures_behind (free_createLabel target) _)
    (fun _ records _ ↦ ensures_behind (free_registerWorks records) _) hb he

/-- What may be begun where nothing can be written starts with nothing. -/
theorem start_of_silent {element : Element} {parent : Option Kind}
    (hp : ∀ kind ∈ parent, kind = .header ∨ kind = .authors)
    (allowed : element.kind.allowedIn parent = true) (hh : element.kind ≠ .header)
    (hb : element.kind ≠ .body) (s : Session) :
    ∃ answer, start backend element s = .ok answer s := by
  have aside := Kind.eq_of_allowedIn_silent hp allowed
  cases element with
  | header => exact absurd rfl hh
  | body => exact absurd rfl hb
  | title | authors | author | date | macroDefinition => exact ⟨_, rfl⟩
  | styled style => cases style <;> simp [Element.kind, InlineStyle.kind, Kind.isHeadline] at aside
  | list ordered => cases ordered <;> simp [Element.kind, Kind.ofList, Kind.isHeadline] at aside
  | _ => simp [Element.kind, Kind.isHeadline] at aside

/-- Unless the body is open, nothing that begins writes to the root, but for the header and the
body. -/
theorem ensures_beginElement_outside (element : Element) (h : s.document.Settled loose)
    (hp : s.document.phase ≠ .body) :
    Ensures (· = s) (beginElement backend element)
      (fun _ t ↦ element.kind ≠ .header → element.kind ≠ .body →
        t.document.output.whole = s.document.output.whole) fun _ _ ↦ True := by
  let same (t : Session) : Prop := element.kind ≠ .header → element.kind ≠ .body →
    t.document.output.whole = s.document.output.whole
  have started (allowed : element.kind.allowedIn s.document.innermost = true) :
      Ensures (· = s) (start backend element) (fun _ ↦ same) fun _ _ ↦ True := by
    rcases h.silent_or_held hp with silent | held
    · by_cases turns : element.kind = .header ∨ element.kind = .body
      · refine ((free_start backend element).keeps s.document.standing).mono (fun t ht ↦ ht ▸ rfl)
          (fun _ _ _ hh hb ↦ absurd turns (not_or.mpr ⟨hh, hb⟩)) fun _ _ _ ↦ trivial
      · obtain ⟨hh, hb⟩ := not_or.mp turns
        intro t ht
        subst ht
        obtain ⟨answer, started⟩ := start_of_silent silent.of_innermost allowed hh hb t
        rw [started]
        exact fun _ _ ↦ rfl
    · exact (ensures_behind (free_start backend element) s.document.output.whole).mono
        (fun t ht ↦ by subst ht; exact ⟨held, rfl⟩) (fun _ _ ht _ _ ↦ ht.2) fun _ _ _ ↦ trivial
  refine ensures_begin (fun _ ↦ same) (fun _ ↦ trivial) (fun fits ↦ started fits.allowed)
    fun _ answer ↦ ensures_of_forall fun t ht ↦ ?_
  have attached : Keeps (·.document.output.whole) (attach element.kind element.label?) :=
    keeps_attach _ _ fun _ _ ↦ rfl
  refine (attached t.document.output.whole).mono (fun _ hu ↦ hu ▸ rfl) (fun _ u hu hh hb ↦ ?_)
    fun _ _ _ ↦ trivial
  rw [← ht hh hb, ← show u.document.output.whole = _ from hu]
  cases answer.2 <;> rfl

/-- Unless the body is open, nothing that ends writes to the root, but for the header. -/
theorem ensures_endElement_outside {frame : Frame} {outer : Frames} (h : s.document.Settled loose)
    (hp : s.document.phase ≠ .body) (hf : s.document.frames = frame :: outer)
    (hk : frame.kind ≠ .header) :
    Ensures (· = s) (endElement backend frame.kind)
      (fun _ t ↦ t.document.output.whole = s.document.output.whole)
      fun _ t ↦ t.document.output.whole = s.document.output.whole := by
  let whole := s.document.output.whole
  have popped : (s.modifyDocument Document.pop).document.output.whole = whole :=
    s.document.whole_pop
  have closed : Ensures (· = s.modifyDocument Document.pop)
      (closeFrame backend frame s.document.held) (fun _ t ↦ t.document.output.whole = whole)
      fun _ t ↦ t.document.output.whole = whole := by
    rcases h.silent_or_held_pop hp hf with silent | held
    · have frames := h.nested.frames
      have placed := h.placed frame (hf ▸ List.mem_cons_self)
      rw [hf] at frames
      have aside := Kind.eq_of_allowedIn_silent silent.of_innermost frames.1.allowed
      rintro _ rfl
      obtain ⟨kind, captured, state⟩ := frame
      have plain (hs : FrameState.plain.suits kind = true) (hm : kind ≠ .macroParameter) :
          state = .plain := FrameState.eq_plain_of_suits hs hm frames.1.suits
      cases kind with
      | header => exact absurd rfl hk
      | body => exact absurd (placed.body rfl) hp
      | authors | title | author | date =>
        obtain rfl := plain rfl (fun hm ↦ by cases hm)
        exact popped
      | macroDefinition =>
        obtain ⟨signature, rfl⟩ := FrameState.eq_macroDefinition_of_suits frames.1.suits
        exact popped
      | _ => simp [Kind.isHeadline] at aside
    · exact (ensures_behind (composed_closeFrame backend frame _) whole).mono
        (fun t ht ↦ by subst ht; exact ⟨held, popped⟩) (fun _ _ ht ↦ ht.2) fun _ _ ht ↦ ht.2
  refine ensures_end h.nested (fun _ ↦ rfl) fun frame' outer' hf' _ ↦ ?_
  obtain ⟨rfl, -⟩ := List.cons.inj (hf.symm.trans hf')
  exact closed.mono (fun _ ht ↦ ht) (fun _ _ ht ↦ (Output.whole_stream _).trans ht) fun _ _ ht ↦ ht

/-! ### Turns -/

/-- The phase to which a call brings a document from another phase. -/
inductive Turn : Phase → Call → Phase → Prop where
  | beginHeader : Turn .start (.beginElement .header) .header
  | endHeader : Turn .header (.endElement .header) .headerDone
  | beginBody : Turn .headerDone (.beginElement .body) .body
  | endBody : Turn .body (.endElement .body) .done

/-- A call is a turn from one phase only. -/
theorem Turn.source_eq {first first' second second' : Phase} {call : Call}
    (h : Turn first call first') (h' : Turn second call second') : first = second := by
  cases h <;> cases h' <;> rfl

/-- One call only leads to a phase. -/
theorem Turn.call_eq {first second phase : Phase} {call call' : Call} (h : Turn first call phase)
    (h' : Turn second call' phase) : call = call' := by
  cases h <;> cases h' <;> rfl

/-- A call that is accepted may be a turn of the document. No other call changes the phase. -/
theorem turn_perform (call : Call) (free : ∀ id, loose id) (h : s.document.Settled loose) :
    ((s.perform backend call).1.isOk = true ∧
      Turn s.document.phase call (s.perform backend call).2.document.phase) ∨
    (((s.perform backend call).1.isOk = true → call.turns = false) ∧
      (s.perform backend call).2.document.phase = s.document.phase) := by
  have phase := (settled_perform_of_forall call free h).2
  cases ho : (s.perform backend call).1.isOk with
  | false =>
    rw [ho] at phase
    refine .inr ⟨nofun, phase.trans ?_⟩
    cases call <;> rfl
  | true =>
    rw [ho] at phase
    obtain ⟨element, rfl⟩ | ⟨kind, rfl⟩ | ⟨begins, ends⟩ := call.begins_or_ends_or
    · obtain ⟨started, ended⟩ := Document.phase_of_phaseFault (exists_of_begin ho).1.timely
      by_cases hh : element.kind = .header
      · obtain rfl := Element.eq_header_of_kind hh
        rw [phase, started rfl]
        exact .inl ⟨rfl, .beginHeader⟩
      by_cases hb : element.kind = .body
      · obtain rfl := Element.eq_body_of_kind hb
        rw [phase, ended rfl]
        exact .inl ⟨rfl, .beginBody⟩
      · exact .inr ⟨fun _ ↦ by simp [Call.turns, hh, hb], phase.trans (Phase.begun_eq hh hb)⟩
    · obtain ⟨frame, hf, rfl⟩ := Option.map_eq_some_iff.mp (innermost_of_endElement ho)
      have placed := h.placed frame (List.mem_of_head? hf)
      by_cases hh : frame.kind = .header
      · rw [phase, placed.header hh, hh]
        exact .inl ⟨rfl, .endHeader⟩
      by_cases hb : frame.kind = .body
      · rw [phase, placed.body hb, hb]
        exact .inl ⟨rfl, .endBody⟩
      · exact .inr ⟨fun _ ↦ by simp [Call.turns, hh, hb], phase.trans (Phase.ended_eq hh hb)⟩
    · refine .inr ⟨fun _ ↦ ?_, phase.trans (Phase.after_of_ne begins ends)⟩
      cases call with
      | beginElement element => exact absurd rfl (begins element)
      | endElement kind => exact absurd rfl (ends kind)
      | _ => rfl

/-- Unless the body is open, a call that is no turn of the document writes nothing to the root. -/
theorem perform_outside (call : Call) (h : s.document.Settled loose)
    (hp : s.document.phase ≠ .body)
    (ht : (s.perform backend call).1.isOk = true → call.turns = false) :
    (s.perform backend call).2.document.output.whole = s.document.output.whole := by
  obtain ⟨element, rfl⟩ | ⟨kind, rfl⟩ | ⟨begins, ends⟩ := call.begins_or_ends_or
  · cases ho : (s.perform backend (.beginElement element)).1.isOk with
    | false => rw [perform_beginElement_eq ho]
    | true =>
      have turns := ht ho
      simp only [Call.turns, Bool.or_eq_false_iff, beq_eq_false_iff_ne] at turns
      have begun : Ensures (· = s) ((Call.beginElement element).action backend)
          (fun _ t ↦ t.document.output.whole = s.document.output.whole) fun _ _ ↦ True :=
        (ensures_beginElement_outside element h hp).bind fun _ ↦
          ensures_pure fun _ ht ↦ ht turns.1 turns.2
      have answered := perform_of_ensures_answer begun rfl
      rwa [ho, if_pos rfl] at answered
  · by_cases hi : s.document.innermost = some kind
    · obtain ⟨frame, outer, hf, rfl⟩ := Document.exists_of_innermost hi
      have other : frame.kind ≠ .header := by
        intro hk
        rw [hk, perform_endHeader h.nested (hk ▸ hi)] at ht
        cases ht rfl
      have ended : Ensures (· = s) ((Call.endElement frame.kind).action backend)
          (fun _ t ↦ t.document.output.whole = s.document.output.whole)
          fun _ t ↦ t.document.output.whole = s.document.output.whole :=
        (ensures_endElement_outside h hp hf other).bind fun _ ↦ ensures_pure fun _ ht ↦ ht
      exact perform_of_ensures ended rfl
    · rw [perform_endElement_unbalanced hi]
  · rcases h.silent_or_held hp with silent | held
    · have mute : s.document.innermost.any Kind.acceptsText = false := by
        rw [Option.any_eq_false]
        intro kind hk
        rcases silent.of_innermost kind hk with rfl | rfl <;> decide
      exact (perform_of_ensures (ensures_silent call begins ends mute _) ⟨rfl, rfl⟩).2
    · exact (perform_of_ensures (ensures_held call begins ends _) ⟨held, rfl⟩).2

end Session

end Manuscript
