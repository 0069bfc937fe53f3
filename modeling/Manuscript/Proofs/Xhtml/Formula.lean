import Manuscript.Proofs.Xhtml.Tag
import Manuscript.Xhtml.Formula

/-!
# Formulas are closed

Whatever number of operands an operator gets, its markup is closed if the operands are.
-/

namespace Manuscript

namespace Xhtml

open Markup

variable {loose : String → Prop} {name role content sign : String} {anchors : List String}
  {operands cells : List String}

theorem closed_plain (hn : IsName name) (h : Closed loose content anchors) :
    Closed loose (element name [] content) anchors := closed_element hn namesValid_nil h

theorem closed_classed (hn : IsName name) (h : Closed loose content anchors) :
    Closed loose (element name (classed role) content) anchors :=
  closed_element hn (namesValid_classed role) h

/-- Digits are text. -/
theorem closed_toString (number : Nat) : Closed loose (toString number) [] := by
  refine closed_text fun c hc ↦ ?_
  rw [Nat.toString_eq_ofList_toDigits, String.toList_ofList] at hc
  have hd := Nat.isDigit_of_mem_toDigits (by decide) (by decide) hc
  constructor <;> intro h <;> rw [h] at hd <;> revert hd <;> decide

theorem closed_enclosed {opening separator closing : String}
    (ho : Closed loose opening []) (hs : Closed loose separator []) (hc : Closed loose closing [])
    (h : ∀ operand ∈ operands, Closed loose operand []) :
    Closed loose (enclosed opening separator closing operands) [] :=
  (ho.append (closed_intercalate hs h)).append hc

theorem closed_chained (hs : Closed loose sign [])
    (h : ∀ operand ∈ operands, Closed loose operand []) :
    Closed loose (chained sign operands) [] := closed_enclosed closed_empty hs closed_empty h

theorem closed_bracketed {opening closing : String}
    (ho : Closed loose opening []) (hc : Closed loose closing [])
    (h : ∀ operand ∈ operands, Closed loose operand []) :
    Closed loose (bracketed opening closing operands) [] :=
  closed_enclosed ho (closed_text (by decide)) hc h

theorem closed_cell (h : Closed loose content anchors) : Closed loose (cell role content) anchors :=
  closed_classed (by decide) h

theorem closed_plainCell (h : Closed loose content anchors) :
    Closed loose (plainCell content) anchors := closed_plain (by decide) h

theorem closed_row (h : ClosedAll loose cells anchors) : Closed loose (row cells) anchors :=
  closed_plain (by decide) h.join

theorem closed_row_of_forall (h : ∀ cell ∈ cells, Closed loose cell []) :
    Closed loose (row cells) [] := closed_row (closedAll_of_forall h)

theorem closed_layout {rows : List String} (h : ∀ row ∈ rows, Closed loose row []) :
    Closed loose (layout role rows) [] :=
  closed_classed (by decide) (closedAll_of_forall h).join

theorem closed_radical : Closed loose radical [] :=
  closed_cell (closed_pieces [.reference "#x221A"] (by decide) (by decide))

section Layouts

variable (h : ∀ operand ∈ operands, Closed loose operand [])

include h

theorem closed_fraction : Closed loose (fraction operands) [] := by
  unfold fraction
  split
  · simp only [List.forall_mem_cons] at h
    refine closed_layout (List.forall_mem_cons.mpr ⟨?_, List.forall_mem_singleton.mpr ?_⟩)
    · exact closed_row_of_forall (List.forall_mem_singleton.mpr (closed_cell h.1))
    · exact closed_row_of_forall (List.forall_mem_singleton.mpr (closed_cell h.2.1))
  · exact closed_empty

theorem closed_power : Closed loose (power operands) [] := by
  unfold power
  split
  · simp only [List.forall_mem_cons] at h
    refine closed_layout (List.forall_mem_cons.mpr ⟨closed_row_of_forall
      (List.forall_mem_cons.mpr ⟨?_, List.forall_mem_singleton.mpr ?_⟩),
      List.forall_mem_singleton.mpr ?_⟩)
    · exact closed_element (by decide) (by simp; decide) h.1
    · exact closed_cell h.2.1
    · exact closed_row_of_forall (List.forall_mem_singleton.mpr (closed_plainCell closed_empty))
  · exact closed_empty

theorem closed_squareRoot : Closed loose (squareRoot operands) [] := by
  unfold squareRoot
  split
  · simp only [List.forall_mem_cons] at h
    refine closed_layout (List.forall_mem_singleton.mpr (closed_row_of_forall ?_))
    exact List.forall_mem_cons.mpr
      ⟨closed_radical, List.forall_mem_singleton.mpr (closed_cell h.1)⟩
  · exact closed_empty

theorem closed_indexedRoot : Closed loose (indexedRoot operands) [] := by
  unfold indexedRoot
  split
  · simp only [List.forall_mem_cons] at h
    refine closed_layout (List.forall_mem_singleton.mpr (closed_row_of_forall ?_))
    exact List.forall_mem_cons.mpr ⟨closed_cell h.1, List.forall_mem_cons.mpr
      ⟨closed_radical, List.forall_mem_singleton.mpr (closed_cell h.2.1)⟩⟩
  · exact closed_empty

theorem closed_bigOperator (hs : Closed loose sign []) :
    Closed loose (bigOperator sign operands) [] := by
  unfold bigOperator
  split
  · simp only [List.forall_mem_cons] at h
    refine closed_layout (List.forall_mem_cons.mpr ⟨?_, List.forall_mem_cons.mpr ⟨?_,
      List.forall_mem_singleton.mpr ?_⟩⟩) <;>
      refine closed_row_of_forall (List.forall_mem_cons.mpr ⟨closed_cell ?_,
        List.forall_mem_singleton.mpr (closed_plainCell ?_)⟩)
    · exact h.2.1
    · exact closed_empty
    · exact hs
    · exact h.2.2.1
    · exact h.1
    · exact closed_empty
  · exact closed_empty

theorem closed_application : Closed loose (application operands) [] := by
  unfold application
  split
  · exact (h _ List.mem_cons_self).append (closed_bracketed (closed_text (by decide))
      (closed_text (by decide)) fun operand hm ↦ h operand (List.mem_cons_of_mem _ hm))
  · exact closed_empty

theorem closed_absolute : Closed loose (absolute operands) [] := by
  unfold absolute
  split
  · refine closed_layout (List.forall_mem_singleton.mpr (closed_row_of_forall ?_))
    have hb : Closed loose (cell "bar" "|") [] := closed_cell (closed_text (by decide))
    exact List.forall_mem_cons.mpr ⟨hb, List.forall_mem_cons.mpr
      ⟨closed_plainCell (h _ List.mem_cons_self), List.forall_mem_singleton.mpr hb⟩⟩
  · exact closed_empty

/-- A formula is closed if its operands are, whatever their number. -/
theorem closed_formula (operator : Operator) : Closed loose (formula operator operands) [] := by
  cases operator with
  | less =>
    exact closed_chained (closed_pieces [.char ' ', .reference "lt", .char ' '] (by decide)
      (by decide)) h
  | greater =>
    exact closed_chained (closed_pieces [.char ' ', .reference "gt", .char ' '] (by decide)
      (by decide)) h
  | negate | not => exact closed_bracketed (closed_text (by decide)) closed_empty h
  | factorial => exact closed_bracketed closed_empty (closed_text (by decide)) h
  | parentheses | brackets | braces | floor | ceil | set | tuple =>
    exact closed_bracketed (closed_text (by decide)) (closed_text (by decide)) h
  | fraction => exact closed_fraction h
  | power => exact closed_power h
  | sqrt => exact closed_squareRoot h
  | root => exact closed_indexedRoot h
  | sum | product => exact closed_bigOperator h (closed_text (by decide))
  | function => exact closed_application h
  | abs => exact closed_absolute h
  | _ => exact closed_chained (closed_text (by decide)) h

end Layouts

end Xhtml

end Manuscript
