import Manuscript.Proofs.Document.Inlining
import Manuscript.Proofs.Macro.Algebra
import Manuscript.Proofs.Xhtml.Provenance

/-!
# Macros are inlined

Expanding the body of a macro gives what its calls write with the arguments in place of the
placeholders. The body is expanded as text, after its own invocations have been; so this rests on
expansion going through every hook that puts inline content together (`Inline.yield_fill`).
-/

namespace Manuscript

open Markup Xhtml

/-! ### Expanding passages -/

/-- The passage with arguments in place of its markers, and nothing where the argument is
missing. -/
def Passage.expand (values : List (Option Passage)) (passage : Passage) : Passage :=
  ⟨(Macro.Template.parse passage.markup).expand (values.map (·.map Passage.markup)),
    (Macro.Template.parse passage.text).expand (values.map (·.map Passage.text))⟩

/-- What is handed over, with arguments in place of its markers. -/
def Yield.expand (values : List (Option Passage)) (yield : Yield) : Yield :=
  ⟨yield.passage.expand values, yield.operands.map (Passage.expand values),
    yield.arguments.map fun argument ↦ (argument.1, argument.2.expand values)⟩

/-- Every macro was made from a body. -/
def Macro.Library.Parsed (library : Library) : Prop :=
  ∀ name definition, library.find? name = some definition →
    ∃ body : Passage, definition = ⟨.parse body.markup, .parse body.text⟩

theorem Macro.Library.Tidy.parsed {library : Library} {O : Orthography} (h : library.Tidy O) :
    library.Parsed := by
  intro name definition hf
  obtain ⟨entry, he, rfl⟩ := Option.map_eq_some_iff.mp hf
  obtain ⟨body, hb, _⟩ := h entry (List.mem_of_find?_eq_some he)
  exact ⟨body, hb⟩

theorem Macro.Library.find?_define (library : Library) (name : String) (definition : Definition) :
    (library.define name definition).find? name = some definition := by
  simp [define, find?]

namespace Passage

variable {values : List (Option Passage)} {passage passage' : Passage}

theorem expand_append : (passage ++ passage').expand values =
    passage.expand values ++ passage'.expand values := by
  have parts (arguments : List (Option String)) (text text' : String) :
      (Macro.Template.parse (text ++ text')).expand arguments =
        (Macro.Template.parse text).expand arguments ++
          (Macro.Template.parse text').expand arguments :=
    (concatenative_expand arguments).append rfl rfl
  exact congrArg₂ mk (parts _ _ _) (parts _ _ _)

/-- What holds no markers stays as it is. -/
theorem expand_eq_self (hm : Marker.Free passage.markup) (ht : Marker.Free passage.text) :
    passage.expand values = passage := by
  have same {text : String} (h : Marker.Free text) (arguments : List (Option String)) :
      (Macro.Template.parse text).expand arguments = text := by
    rw [← String.toList_inj, Macro.toList_expand_parse]
    exact Macro.flatMap_fill_eq_self arguments (Marker.free_iff.mp h)
  exact congrArg₂ mk (same hm _) (same ht _)

theorem expand_markup {markup : String} (h : Marker.Free markup) :
    expand values ⟨markup, ""⟩ = ⟨markup, ""⟩ := expand_eq_self h Marker.only_empty

theorem expand_marker {index : Nat} (h : index < Marker.count) :
    (Marker.passage index).expand values = values[index]?.join.getD {} := by
  have channel {marker : Char} (hc : Marker.char? index = some marker) (f : Passage → String)
      (hf : f {} = "") :
      (Macro.Template.parse (String.singleton marker)).expand (values.map (·.map f)) =
        f (values[index]?.join.getD {}) := by
    rw [← String.toList_inj, Macro.toList_expand_parse, String.toList_singleton,
      List.flatMap_singleton, Macro.fill, Marker.index?_char? hc]
    dsimp only
    rw [List.getElem?_map]
    rcases values[index]? with _ | _ | value
    · exact congrArg String.toList hf.symm
    · exact congrArg String.toList hf.symm
    · rfl
  have hc : Marker.char? index = some (Char.ofNat (Marker.base + index)) := if_pos h
  unfold Marker.passage
  rw [hc]
  exact congrArg₂ mk (channel hc markup rfl) (channel hc text rfl)

theorem expand_invoke {library : Macro.Library} (h : library.Parsed) (name : String)
    (slots : List (Option Passage)) :
    (library.invoke name slots).expand values =
      library.invoke name (slots.map (·.map (expand values))) := by
  unfold Macro.Library.invoke
  cases hf : library.find? name with
  | none => exact expand_eq_self Marker.only_empty Marker.only_empty
  | some definition =>
    obtain ⟨body, rfl⟩ := h name definition hf
    refine congrArg₂ mk ?_ ?_ <;> dsimp only <;>
      rw [Macro.Template.expand_parse_expand, List.map_map, List.map_map] <;>
      refine congrArg _ (List.map_congr_left fun slot _ ↦ ?_) <;>
      cases slot <;> rfl

end Passage

namespace Yield

variable {values : List (Option Passage)}

theorem expand_append (first second : Yield) :
    (first ++ second).expand values = first.expand values ++ second.expand values := by
  change Yield.mk (Passage.expand values (first.passage ++ second.passage))
    ((first.operands ++ second.operands).map _) ((first.arguments ++ second.arguments).map _) = _
  rw [Passage.expand_append, List.map_append, List.map_append]
  rfl

/-- What is a passage alone is expanded as a passage. -/
theorem expand_passage {passage passage' : Passage} (h : passage.expand values = passage') :
    Yield.expand values { passage } = { passage := passage' } :=
  congrArg (Yield.mk · [] []) h

/-- Assigning expanded arguments to empty slots expands what is assigned. -/
theorem assign_expand (yield : Yield) (count : Nat) :
    (yield.expand values).assign (List.replicate count none) =
      (yield.assign (List.replicate count none)).map (·.map (Passage.expand values)) := by
  have each (arguments : List (Nat × Passage)) (slots : List (Option Passage)) :
      assign { arguments := arguments.map fun argument ↦
          (argument.1, argument.2.expand values) } (slots.map (·.map (Passage.expand values))) =
        (assign { arguments } slots).map (·.map (Passage.expand values)) := by
    induction arguments generalizing slots with
    | nil => rfl
    | cons argument arguments ih =>
      refine Eq.trans ?_ (ih (slots.set argument.1 (some argument.2)))
      rw [List.map_set]
      rfl
  have empty : (List.replicate count none).map (·.map (Passage.expand values)) =
      List.replicate count none := List.map_replicate
  exact (congrArg (yield.expand values).assign empty.symm).trans (each yield.arguments _)

end Yield

namespace Inline

variable {level : Level} {library : Macro.Library} {values : List (Option Passage)}

theorem free_opening (wrapping : Wrapping) : Marker.Free (wrapping.opening backend) := by
  have clean : (Orthography.hygienic False).markup (fun _ ↦ False) (wrapping.opening backend) := by
    rcases wrapping with style | _ | _
    · exact tidy_startTag (plain_inlineName style) (tidyItems_inline style)
    all_goals exact tidy_startTag (by decide) (tidyItems_classed (by decide))
  exact clean.text

theorem free_closing (wrapping : Wrapping) : Marker.Free (wrapping.closing backend) := by
  have clean : (Orthography.hygienic False).markup (fun _ ↦ False) (wrapping.closing backend) := by
    rcases wrapping with style | _ | _
    · exact tidy_endTag (plain_inlineName style)
    all_goals exact tidy_endTag (by decide)
  exact clean.text

theorem expand_text (content : String) :
    Passage.expand values ⟨backend.escape content, Marker.hide content⟩ =
      ⟨backend.escape content, Marker.hide content⟩ := by
  have escaped : Tidy (fun _ ↦ False) True (escape content) := tidy_escape fun _ _ _ _ ↦ trivial
  exact Passage.expand_eq_self escaped.only (Marker.free_hide content)

theorem expand_formula (operator : Operator) (operands : List Passage) :
    Passage.expand values ⟨backend.mathOperator operator (operands.map Passage.markup),
        operator.plainText (operands.map Passage.text)⟩ =
      ⟨backend.mathOperator operator ((operands.map (Passage.expand values)).map Passage.markup),
        operator.plainText ((operands.map (Passage.expand values)).map Passage.text)⟩ := by
  refine congrArg₂ Passage.mk ((concatenative_expand _).woven.formula operator ?_)
    ((concatenative_expand _).plainText operator ?_)
  all_goals
    rw [List.forall₂_map_left_iff, List.forall₂_map_right_iff, List.forall₂_map_right_iff]
    exact List.forall₂_same.mpr fun _ _ ↦ rfl

/-- What a tree comes to with its placeholders filled is what it comes to, expanded: filling goes
through every kind of inline content, and through invocations of macros. -/
theorem yield_fill (tree : Inline level) (arguments : Inline .arguments) (h : library.Parsed)
    (hv : ∀ index ∈ tree.placeholders, index < Marker.count ∧ values[index]?.join.getD {} =
      (((arguments.argument? index).getD nothing).yield backend library).passage) :
    (tree.fill arguments).yield backend library = (tree.yield backend library).expand values := by
  induction tree with
  | nothing =>
    rw [fill, yield]
    exact (Yield.expand_passage (Passage.expand_eq_self Marker.only_empty Marker.only_empty)).symm
  | seq first second ih ih' =>
    rw [placeholders, List.forall_mem_append] at hv
    rw [fill, yield, ih hv.1, ih' hv.2, yield, Yield.expand_append]
  | text content =>
    rw [fill, yield]
    exact (Yield.expand_passage (expand_text _)).symm
  | number value =>
    rw [fill, yield]
    exact (Yield.expand_passage (expand_text _)).symm
  | space =>
    rw [fill, yield]
    have plain : Plain Span.noBreakSpace := by decide
    exact (Yield.expand_passage (Passage.expand_eq_self fixed_noBreakSpace.only
      (only_of_plain plain))).symm
  | placeholder index =>
    obtain ⟨small, hv⟩ := hv index (List.mem_singleton_self index)
    rw [fill, yield, Yield.expand_passage ((Passage.expand_marker small).trans hv)]
    exact (suits_yield backend _).eq_passage
  | wrapped wrapping inner ih =>
    rw [fill, yield, ih hv, yield]
    refine (Yield.expand_passage ?_).symm
    rw [Passage.expand_append, Passage.expand_append,
      Passage.expand_markup (free_opening wrapping), Passage.expand_markup (free_closing wrapping)]
    rfl
  | formula operator operands ih =>
    rw [fill, yield, ih hv, yield]
    exact (Yield.expand_passage (expand_formula operator _)).symm
  | invocation signature inner ih =>
    rw [fill, yield, ih hv, yield, Yield.assign_expand]
    exact (Yield.expand_passage (Passage.expand_invoke h _ _)).symm
  | operand inner ih =>
    rw [fill, yield, ih hv, yield]
    have empty : Passage.expand values {} = {} := Passage.expand_markup Marker.only_empty
    exact congrArg (Yield.mk · _ []) empty.symm
  | argument index inner ih =>
    rw [fill, yield, ih hv, yield]
    have empty : Passage.expand values {} = {} := Passage.expand_markup Marker.only_empty
    exact congrArg (Yield.mk · [] _) empty.symm

end Inline

/-- If a macro is defined with a body, then invoking it comes to the same as the body with the
arguments in place of its placeholders. -/
theorem Inline.yield_invocation {library : Macro.Library} (parsed : library.Parsed)
    {signature : Macro.Signature} {body : Inline .content} (arguments : Inline .arguments)
    (bounded : ∀ index ∈ body.placeholders, index < signature.arity)
    (defined : library.find? signature.name =
      some ⟨.parse (body.yield backend library).passage.markup,
        .parse (body.yield backend library).passage.text⟩) :
    (invocation signature arguments).yield backend library =
      (body.fill arguments).yield backend library := by
  let slots : List (Option Passage) := List.replicate signature.arity none
  let values := (arguments.yield backend library).assign slots
  have filled : (body.fill arguments).yield backend library =
      (body.yield backend library).expand values := by
    refine body.yield_fill arguments parsed fun index hi ↦ ?_
    have small := bounded index hi
    have empty : slots[index]?.join = none := by
      rw [List.getElem?_replicate, if_pos small]
      rfl
    refine ⟨Nat.lt_of_lt_of_le small signature.arity_le, ?_⟩
    rw [join_getElem?_assign_yield backend arguments (by rwa [List.length_replicate]), empty]
    cases arguments.argument? index <;> rfl
  rw [filled, (body.suits_yield backend).eq_passage, Yield.expand_passage rfl, yield,
    Macro.Library.invoke, defined]
  rfl

namespace Session

/-- Expanding a macro is inlining its body. Let a macro be defined with inline content, and invoked
later, when the macros that the content invokes and the macro itself are still the same. If the
invocation is accepted, and the calls of the body with the calls of the arguments in place of its
placeholders are accepted as well, then either of the two appends one and the same passage of markup
and plain text to the enclosing buffer, and changes nothing else. -/
theorem inlining_run (context used : Context) (serial : Nat) (files : FileSystem) (s : Session)
    (hs : context.createDocument backend serial files = .ok (s, used)) (before between : List Call)
    (signature : Macro.Signature) (body : Inline .content) (arguments : Inline .arguments)
    (s₀ s₁ s₂ : Session) (h₀ : s₀ = s.run backend before)
    (h₁ : s₁ = s₀.run backend ((Element.macroDefinition signature).around body.calls))
    (h₂ : s₂ = s₁.run backend between)
    (defined : s₀.accepts backend ((Element.macroDefinition signature).around body.calls) = true)
    (same : ∀ name ∈ body.names, s₂.document.macros.find? name = s₀.document.macros.find? name)
    (still : s₂.document.macros.find? signature.name = s₁.document.macros.find? signature.name)
    (invoked : s₂.accepts backend (Inline.invocation signature arguments).calls = true)
    (inlined : s₂.accepts backend (body.fill arguments).calls = true) :
    ∃ passage, ∀ appended,
      (s₂.Brings backend (Inline.invocation signature arguments).calls appended s₂ ↔
        appended = passage) ∧
      (s₂.Brings backend (body.fill arguments).calls appended s₂ ↔ appended = passage) := by
  obtain ⟨path, place, hd⟩ := context.exists_document_of_createDocument hs
  have new := hd ▸ context.nested_document path place serial
  have run : s₂ = s.run backend
      (before ++ ((Element.macroDefinition signature).around body.calls ++ between)) := by
    rw [h₂, h₁, h₀, run_append, run_append]
  have nested : s₂.document.Nested := run ▸ nested_run backend _ new
  have tidy : s₂.document.macros.Tidy (.hygienic True) := run ▸ (tidy_called hs _).macros
  obtain ⟨defines, bounded⟩ := brings_definition (admits_of_accepts defined)
  obtain ⟨output, _, _, made⟩ := defines s₀.document.output
  have entry : s₂.document.macros.find? signature.name =
      some ⟨.parse (body.yield backend s₂.document.macros).passage.markup,
        .parse (body.yield backend s₂.document.macros).passage.text⟩ := by
    rw [still, h₁, body.yield_congr backend same]
    exact (congrArg (·.document.macros.find? signature.name) made).trans
      (Macro.Library.find?_define _ _ _)
  -- An invocation stands in no other invocation, so what stands there is content.
  have stands : Inline.Level.content.Stands s₂.document.frames := by
    intro other slots top
    obtain ⟨kind, hk, suits⟩ := nested.frames.exists_innermost top
    obtain rfl := FrameState.kind_of_suits_macroInvocation suits
    have allowed := (admits_of_accepts invoked).started.1
    rw [Document.innermost, hk] at allowed
    cases allowed
  have invocation := brings_content stands invoked
  have direct := brings_content stands inlined
  rw [Inline.yield_invocation tidy.parsed arguments bounded entry] at invocation
  exact ⟨_, fun appended ↦ ⟨⟨fun h ↦ h.unique invocation, fun h ↦ h ▸ invocation⟩,
    ⟨fun h ↦ h.unique direct, fun h ↦ h ▸ direct⟩⟩⟩

/-- A macro that emphasizes its argument is defined in a title. -/
def markCalls : List Call :=
  .beginElement .header :: .beginElement .title ::
    (Element.macroDefinition (unary "mark")).around
      (Inline.wrapped (.styled .emphasize) (.placeholder 0)).calls

/-- A parameter over two, and the same parameter and another one marked. -/
def halfBody : Inline .content :=
  .seq
    (.wrapped .math (.formula .fraction (.seq (.operand (.placeholder 0)) (.operand (.number 2)))))
    (.invocation (unary "mark") (.argument 0 (.seq (.placeholder 0) (.placeholder 1))))

/-- The second parameter has no argument. -/
theorem inlining_run_fraction :
    let half : Macro.Signature := ⟨"half", 2, by decide⟩
    let arguments : Inline .arguments := .argument 0 (.text "x")
    let definition := (Element.macroDefinition half).around halfBody.calls
    ∃ s used, (⟨⟨"/"⟩, "index", {}, false⟩ : Context).createDocument backend 0 {} = .ok (s, used) ∧
      let s₀ := s.run backend markCalls
      let s₂ := s₀.run backend definition
      s₀.accepts backend definition = true ∧
        s₂.accepts backend (Inline.invocation half arguments).calls = true ∧
          s₂.accepts backend (halfBody.fill arguments).calls = true ∧
            ∃ passage, ∀ appended,
              (s₂.Brings backend (Inline.invocation half arguments).calls appended s₂ ↔
                appended = passage) ∧
              (s₂.Brings backend (halfBody.fill arguments).calls appended s₂ ↔
                appended = passage) := by
  intro half arguments definition
  obtain ⟨s, used, made, defined, same, invoked, inlined⟩ : ∃ s used,
      (⟨⟨"/"⟩, "index", {}, false⟩ : Context).createDocument backend 0 {} = .ok (s, used) ∧
      let s₀ := s.run backend markCalls
      let s₂ := s₀.run backend definition
      s₀.accepts backend definition = true ∧
        (∀ name ∈ halfBody.names,
          s₂.document.macros.find? name = s₀.document.macros.find? name) ∧
        s₂.accepts backend (Inline.invocation half arguments).calls = true ∧
          s₂.accepts backend (halfBody.fill arguments).calls = true :=
    ⟨_, _, rfl, by decide +kernel⟩
  refine ⟨s, used, made, defined, invoked, inlined, ?_⟩
  revert defined same invoked inlined
  generalize h₀ : s.run backend markCalls = s₀
  generalize h₁ : s₀.run backend definition = s₂
  intro defined same invoked inlined
  exact inlining_run _ used 0 {} s made markCalls [] half halfBody arguments s₀ s₂ s₂ h₀.symm
    h₁.symm rfl defined same rfl invoked inlined

end Session

end Manuscript
