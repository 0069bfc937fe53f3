import Manuscript.Proofs.Document.Acceptance
import Manuscript.Proofs.Document.Openings
import Manuscript.Xhtml.Backend

/-!
# Cells take the alignment of their column

A cell that begins stands behind the cells of its own row, whatever these contain: tables inside
them have rows of their own. Its alignment, unless it brings one, is the one that a table around it
gives the column. That is the innermost table, but where this one has no such column and another one
around it has one the alignment is taken from there.
-/

namespace Manuscript

open Xhtml

namespace Opening

/-- The alignments of the columns of a table. -/
def columns? (opening : Opening) : Option (List Alignment) :=
  match opening.element with
  | .table _ columns => some columns
  | _ => none

/-- The alignments of the columns of the open tables, the innermost first. -/
def tables (openings : List Opening) : List (List Alignment) := openings.filterMap columns?

theorem isSome_columns? {opening : Opening} (h : opening.element.kind = .table) :
    opening.columns?.isSome := by
  obtain ⟨label, columns, he⟩ := Element.exists_of_kind h
  simp [columns?, he]

/-- A table that has no such column is passed over. -/
theorem findSome?_tables_eq_iff (columns : List Alignment) (further : List (List Alignment))
    (column : Nat) :
    (columns :: further).findSome? (·[column]?) = columns[column]? ↔
      column < columns.length ∨ ∀ other ∈ further, other.length ≤ column := by
  rw [List.findSome?_cons]
  by_cases inside : column < columns.length
  · simp [inside]
  · simp [inside]

namespace Agree

variable {openings around : List Opening} {opening : Opening} {frames outer : Frames}
  {frame : Frame}

/-- The frames know the open tables. -/
theorem columnAlignment?_eq (h : Agree openings frames) (nested : frames.Nested) (column : Nat) :
    frames.columnAlignment? column = (tables openings).findSome? (·[column]?) := by
  induction h with
  | nil => rfl
  | @cons opening around frame outer hk fits ho ih =>
    have rest := ih nested.2
    unfold Frames.columnAlignment? tables at rest ⊢
    rw [List.findSome?_cons, rest]
    by_cases table : opening.element.kind = .table
    · obtain ⟨label, columns, he⟩ := Element.exists_of_kind table
      simp only [Fits, he] at fits
      obtain ⟨table, hs, -, hc⟩ := fits
      have first : opening.columns? = some columns := by rw [columns?, he]
      rw [List.filterMap_cons_some first, List.findSome?_cons, hs]
      dsimp only
      rw [hc]
    · have first : opening.columns? = none := by
        unfold columns?
        split
        · next he => exact absurd (congrArg Element.kind he) table
        · rfl
      rw [List.filterMap_cons_none first]
      split
      · next alignment hs =>
        split at hs
        · next table' ht =>
          have suits := nested.1.suits
          rw [ht, hk] at suits
          exact absurd (eq_of_beq suits) table
        · cases hs
      · rfl

/-- A row stands in a table. -/
theorem exists_tables (h : Agree (opening :: around) frames) (nested : frames.Nested)
    (row : opening.element.kind = .tableRow) :
    ∃ columns further, tables around = columns :: further := by
  cases h with
  | @cons _ _ frame outer hk _ ho =>
    have inPart : Kind.tableRow.allowedIn outer.innermost = true := row ▸ hk ▸ nested.1.allowed
    -- A row is in a part of a table, and a part is in a table.
    cases ho with
    | nil => cases inPart
    | @cons part around part' outer hk' _ ho =>
      have inTable : outer.innermost = some .table := by
        have allowed := nested.2.1.allowed
        have parts : part'.kind = .tablePage ∨ part'.kind = .tableHeader ∨
            part'.kind = .tableFooter := by
          simpa [Kind.allowedIn, Kind.allowedWithin, Frames.innermost, or_assoc] using inPart
        rcases parts with hp | hp | hp <;> rw [hp] at allowed <;>
          exact Kind.parent_eq rfl (fun _ ↦ rfl) allowed
      cases ho with
      | nil => cases inTable
      | @cons table around _ _ hk'' _ _ =>
        obtain ⟨columns, hc⟩ := Option.isSome_iff_exists.mp
          (isSome_columns? (hk''.symm.trans (Option.some.inj inTable)))
        have own : (tables (table :: around)) = columns :: tables around :=
          List.filterMap_cons_some hc
        cases hp : part.columns? with
        | none => exact ⟨columns, tables around, (List.filterMap_cons_none hp).trans own⟩
        | some columns' => exact ⟨columns', _, List.filterMap_cons_some hp⟩

/-- Every open row is as far as its own cells are wide. -/
theorem column_eq (h : Agree openings frames) {index : Nat} {row : Opening}
    (hr : openings[index]? = some row) (he : row.element = .tableRow) :
    ∃ header, frames[index]?.map Frame.state = some (.tableRow header row.width) := by
  induction h generalizing index with
  | nil => cases hr
  | @cons opening around frame outer hk fits ho ih =>
    cases index with
    | zero =>
      cases Option.some.inj hr
      simp only [Fits, he] at fits
      exact ⟨_, congrArg some fits⟩
    | succ index => exact ih hr

end Agree

end Opening

namespace Session

open Action

/-- A cell begins in every row, and its row moves on. -/
theorem perform_begin_tableCell (backend : Backend) {s : Session} {frame : Frame} {outer : Frames}
    {header : Bool} {column : Nat} (hf : s.document.frames = frame :: outer)
    (hk : frame.kind = .tableRow) (hs : frame.state = .tableRow header column) (span : Nat)
    (align : Option Alignment) :
    s.perform backend (.beginElement (.tableCell span align)) =
      (.ok .done, s.modifyDocument fun d ↦
        ((d.offer (FrameState.advance? (max span 1))).emit
          (backend.tableCellStart header (max span 1)
            (align <|> s.document.frames.columnAlignment? column))).push
          ⟨.tableCell, false, .tableCell header⟩) := by
  have allowed : (Element.tableCell span align).kind.allowedIn s.document.innermost = true := by
    simp [Document.innermost, Frames.innermost, hf, hk, Element.kind, Kind.allowedIn,
      Kind.allowedWithin]
  have top : s.document.frames.topState? = some (.tableRow header column) := by
    rw [hf]
    exact congrArg some hs
  have started : start backend (.tableCell span align) (s.withOutput s.document.output) =
      .ok (.tableCell header, false) (s.modifyDocument fun d ↦
        (d.offer (FrameState.advance? (max span 1))).emit
          (backend.tableCellStart header (max span 1)
            (align <|> s.document.frames.columnAlignment? column))) := by
    refine bind_eq_ok.mpr ⟨_, _, ?_, rfl⟩
    change startCell backend span align s = _
    unfold startCell
    rw [bind_current]
    simp only [top]
    rfl
  exact perform_beginElement rfl rfl allowed started

/-- A cell ends as it has begun. -/
theorem perform_end_tableCell (backend : Backend) {s : Session} {frame : Frame} {outer : Frames}
    {header : Bool} (nested : s.document.Nested) (hf : s.document.frames = frame :: outer)
    (hk : frame.kind = .tableCell) (hs : frame.state = .tableCell header) :
    s.perform backend (.endElement .tableCell) =
      (.ok .done, s.modifyDocument fun d ↦ (d.pop.emit (backend.tableCellEnd header)).stream) := by
  refine perform_of_ok rfl ?_
  rw [← hk, endElement_eq hf nested, closeFrame, hs]
  rfl

end Session

/-- A table with two columns, in the head row of which the first cell has ended. -/
def headRow : List Call :=
  [.beginElement .header, .endElement .header, .beginElement .body,
    .beginElement (.table none [.left, .right]), .beginElement .tableHeader,
    .beginElement .tableRow, .beginElement (.tableCell 1 none), .endElement .tableCell]

end Manuscript
