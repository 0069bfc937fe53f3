import Manuscript.Proofs.Document.Openings
import Manuscript.Proofs.Formula.Arrangement
import Manuscript.Proofs.Xhtml.Concatenation
import Manuscript.Proofs.Xhtml.Formula

/-!
# Operators are written with all their operands

An operator that ends is written if it has as many operands as it takes, with the operands in the
order in which they have ended, and leaves nothing behind otherwise. What is written has every
operand in one place (`Arranges`), goes along with the expansion of macros, and is well-formed if
the operands are.
-/

namespace Manuscript

open Macro Markup Xhtml

namespace Markup

theorem WellFormed.closed {text : String} (h : WellFormed text) :
    Closed (fun _ ↦ True) text [] := by
  obtain ⟨tokens, ⟨valid, written⟩, _⟩ := h.split
  exact ⟨_, ⟨tokens, valid, written, h.balanced tokens ⟨valid, written⟩, rfl⟩,
    .of_forall_loose fun _ _ ↦ trivial⟩

theorem Closed.wellFormed {loose : String → Prop} {text : String} {anchors : List String}
    (h : Closed loose text anchors) : WellFormed text := by
  obtain ⟨ids, reads, _⟩ := h
  exact reads.wellFormed

end Markup

namespace Operator

/-- Filling the markers in the operands fills those in the markup and in the plain text. -/
theorem expand_formula (operator : Operator) (operands : List String)
    (values : List (Option String)) :
    (Template.parse (formula operator operands)).expand values =
      formula operator (operands.map fun operand ↦ (Template.parse operand).expand values) ∧
    (Template.parse (operator.plainText operands)).expand values =
      operator.plainText (operands.map fun operand ↦ (Template.parse operand).expand values) := by
  have each : List.Forall₂ (fun text filled ↦ (Template.parse text).expand values = filled)
      operands (operands.map fun operand ↦ (Template.parse operand).expand values) := by
    rw [List.forall₂_map_right_iff]
    exact List.forall₂_same.mpr fun _ _ ↦ rfl
  exact ⟨(concatenative_expand values).woven.formula operator each,
    (concatenative_expand values).plainText operator each⟩

end Operator

namespace Session

open Action

/-- The end of an operator writes it with the operands that have ended inside it, if it takes that
many. -/
theorem perform_end_mathOp (backend : Backend) {s : Session} {frame : Frame} {outer : Frames}
    {operator : Operator} {operands : List Passage} (nested : s.document.Nested)
    (hf : s.document.frames = frame :: outer) (hs : frame.state = .mathOp operator operands) :
    s.perform backend (.endElement .mathOp) =
        (if operator.accepts operands.length then
          (.ok .done, s.modifyDocument fun d ↦
            (d.pop.closeOperator backend operator operands).stream)
        else (.error (.operandCount operator operands.length),
          s.modifyDocument Document.pop)) ∧
      s.document.pop.output = s.document.output := by
  have standing : frame.StandsOn outer := (hf ▸ nested.frames : Frames.Nested (frame :: outer)).1
  have kind : frame.kind = .mathOp := by
    have suits := standing.suits
    rw [hs] at suits
    exact eq_of_beq suits
  have bare : frame.captured = false := by
    rw [standing.captured (by rw [kind]; decide), kind]
    rfl
  refine ⟨?_, by simp [Document.pop, hf, bare]⟩
  have closing : endElement backend .mathOp s =
      (do closeMathOp backend operator operands; change Document.stream : Action Unit)
        (s.modifyDocument Document.pop) := by
    rw [← kind, endElement_eq hf nested, closeFrame, hs]
  cases taken : operator.accepts operands.length with
  | true =>
    refine perform_of_ok rfl (closing.trans ?_)
    simp only [closeMathOp, taken, if_true]
    rfl
  | false =>
    refine perform_of_error rfl (closing.trans ?_)
    simp only [closeMathOp, taken]
    rfl

end Session

/-- An operator loses no operand. If it takes that many, then its markup and its plain text have
each operand in one place, whatever the operands are; its markup is never left out, fills the
markers in the operands as they are filled in it, and is well-formed if the operands are. And an
operator that ends is written if it takes as many operands as have ended directly inside it, with
those in their order; otherwise nothing is written. -/
theorem operands_kept (operator : Operator) (context : Context) (path : Path) (place : Location)
    (serial : Nat) (files : FileSystem) (calls : List Call) :
    (∀ operands, operator.accepts operands.length = true →
      Arranges operands.length (formula operator) ∧
      Arranges operands.length operator.plainText ∧
      formula operator operands ≠ "" ∧
      (∀ values, (Template.parse (formula operator operands)).expand values =
          formula operator (operands.map fun operand ↦ (Template.parse operand).expand values) ∧
        (Template.parse (operator.plainText operands)).expand values =
          operator.plainText
            (operands.map fun operand ↦ (Template.parse operand).expand values)) ∧
      ((∀ operand ∈ operands, WellFormed operand) → WellFormed (formula operator operands))) ∧
    let fresh : Session := ⟨context.document path place serial, files⟩
    let s := fresh.run backend calls
    ∀ opening around, fresh.openings backend [] calls = opening :: around →
      opening.element = .mathOp operator →
        s.perform backend (.endElement .mathOp) =
          (if operator.accepts opening.operands.length then
            (.ok .done, s.modifyDocument fun d ↦
              (d.pop.append ⟨formula operator (opening.operands.map Passage.markup),
                operator.plainText (opening.operands.map Passage.text)⟩).stream)
          else (.error (.operandCount operator opening.operands.length),
            s.modifyDocument Document.pop)) ∧
        s.document.pop.output = s.document.output := by
  refine ⟨fun operands h ↦ ⟨Operator.arranges_formula h, Operator.arranges_plainText h,
    Operator.formula_ne_empty h, operator.expand_formula operands, fun balanced ↦ ?_⟩, ?_⟩
  · exact (closed_formula (fun operand hm ↦ (balanced operand hm).closed) operator).wellFormed
  · intro fresh s opening around ho he
    obtain ⟨nested, frame, outer, hf, -, fits, -⟩ := Session.exists_frame_of_openings backend ho
    rw [Opening.Fits, he] at fits
    exact Session.perform_end_mathOp backend nested hf fits

/-- A formula with a fraction that has got its two operands. -/
def halfFraction : List Call :=
  [.beginElement .header, .endElement .header, .beginElement .body, .beginElement .paragraph,
    .beginElement .inlineMath, .beginElement (.mathOp .fraction),
    .beginElement .mathOpParam, .write "1", .endElement .mathOpParam,
    .beginElement .mathOpParam, .write "n", .endElement .mathOpParam]

/-- A fraction with two operands is written, and is well-formed. -/
theorem operands_kept_fraction :
    let fresh : Session :=
      ⟨(⟨⟨"/"⟩, "index", {}, false⟩ : Context).document ⟨"/index.xhtml"⟩ ["index.xhtml"] 0, {}⟩
    let s := fresh.run backend halfFraction
    WellFormed (formula .fraction ["1", "n"]) ∧
    ∃ opening around, fresh.openings backend [] halfFraction = opening :: around ∧
      opening.element = .mathOp .fraction ∧ opening.operands.map Passage.markup = ["1", "n"] ∧
      (s.perform backend (.endElement .mathOp)).1 = .ok .done := by
  intro fresh s
  obtain ⟨arranged, emitted⟩ := operands_kept .fraction ⟨⟨"/"⟩, "index", {}, false⟩
    ⟨"/index.xhtml"⟩ ["index.xhtml"] 0 {} halfFraction
  constructor
  · have digits : ∀ operand ∈ ["1", "n"], ∀ c ∈ operand.toList, c ≠ '<' ∧ c ≠ '&' := by decide
    exact (arranged ["1", "n"] rfl).2.2.2.2 fun operand hm ↦
      (closed_text (digits operand hm) : Closed (fun _ ↦ True) _ _).wellFormed
  · have element : (fresh.openings backend [] halfFraction).head?.map Opening.element =
        some (.mathOp .fraction) := rfl
    have operands : (fresh.openings backend [] halfFraction).head?.map
        (fun opening ↦ opening.operands.map Passage.markup) = some ["1", "n"] := by
      decide +kernel
    cases ho : fresh.openings backend [] halfFraction with
    | nil =>
      rw [ho] at element
      cases element
    | cons opening around =>
      rw [ho] at element operands
      have count : opening.operands.length = 2 := by
        simpa using congrArg List.length (Option.some.inj operands)
      have ended := (emitted opening around ho (Option.some.inj element)).1
      rw [count] at ended
      exact ⟨opening, around, rfl, Option.some.inj element, Option.some.inj operands,
        congrArg Prod.fst ended⟩

end Manuscript
