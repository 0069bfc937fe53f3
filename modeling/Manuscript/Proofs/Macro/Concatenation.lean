import Manuscript.Proofs.Macro.Hygiene
import Mathlib.Data.List.Forall2

/-!
# Relations that concatenation keeps

Most markup is put together from fixed texts and from texts that are handed in. What relates fixed
texts to themselves and is kept by concatenation (`Markup.Concatenative`) then relates the whole if
it relates the parts. That is how hygiene gets through an operator, and how the expansion of a
template does.
-/

namespace Manuscript

namespace Markup

/-- Concatenation keeps the relation. -/
structure Joining (R : String → String → Prop) : Prop where
  empty : R "" ""
  append : ∀ {text text' filled filled'},
    R text filled → R text' filled' → R (text ++ text') (filled ++ filled')

namespace Joining

variable {R : String → String → Prop} (hR : Joining R) {texts filleds : List String}

include hR

theorem join (h : List.Forall₂ R texts filleds) : R (String.join texts) (String.join filleds) := by
  induction h with
  | nil => exact hR.empty
  | cons first _ ih =>
    rw [String.join_cons, String.join_cons]
    exact hR.append first ih

theorem intercalate {separator : String} (hs : R separator separator)
    (h : List.Forall₂ R texts filleds) :
    R (separator.intercalate texts) (separator.intercalate filleds) := by
  induction h with
  | nil => exact hR.empty
  | cons first rest ih =>
    cases rest with
    | nil =>
      rw [String.intercalate_singleton, String.intercalate_singleton]
      exact first
    | cons second rest =>
      rw [String.intercalate_cons_cons, String.intercalate_cons_cons]
      exact hR.append (hR.append first hs) ih

end Joining

/-- What stands for a marker is related if the arguments are. -/
theorem Joining.argument {R : String → String → Prop} (hR : Joining R)
    {arguments arguments' : List (Option String)}
    (h : List.Forall₂ (Option.Rel R) arguments arguments') (index : Nat) :
    R ((arguments[index]?.join).getD "") ((arguments'[index]?.join).getD "") := by
  induction h generalizing index with
  | nil => exact hR.empty
  | cons first _ ih =>
    cases index with
    | zero =>
      cases first with
      | none => exact hR.empty
      | some h => exact h
    | succ index => exact ih index

/-- The relation holds between a fixed text and itself, and concatenation keeps it. -/
structure Concatenative (R : String → String → Prop) : Prop where
  fixed : ∀ {text}, Fixed text → R text text
  append : ∀ {text text' filled filled'},
    R text filled → R text' filled' → R (text ++ text') (filled ++ filled')

variable {marks : Nat → Prop} {esc : Prop} {R : String → String → Prop}

theorem concatenative_fixed : Concatenative fun text _ ↦ Fixed text := ⟨id, Fixed.append⟩

theorem concatenative_tidy : Concatenative fun text _ ↦ Tidy marks esc text :=
  ⟨Fixed.tidy, Tidy.append⟩

theorem concatenative_only : Concatenative fun text _ ↦ Marker.Only marks text :=
  ⟨Fixed.only, fun h h' ↦ Marker.only_append.mpr ⟨h, h'⟩⟩

theorem concatenative_spelt {given : Char → Prop} :
    Concatenative fun text _ ↦ Spelt given text :=
  ⟨fun h ↦ h.legal.spelt, fun h h' ↦ spelt_append.mpr ⟨h, h'⟩⟩

/-- Expanding a template leaves fixed texts as they are. -/
theorem concatenative_expand (arguments : List (Option String)) :
    Concatenative fun text filled ↦
      (Macro.Template.parse text).expand arguments = filled where
  fixed {text} h := by
    rw [← String.toList_inj, Macro.toList_expand_parse]
    exact Macro.flatMap_fill_eq_self arguments (Marker.free_iff.mp h.only)
  append {text text' filled filled'} h h' := by
    rw [← h, ← h', ← String.toList_inj, String.toList_append]
    simp only [Macro.toList_expand_parse, String.toList_append, List.flatMap_append]

namespace Concatenative

variable (hR : Concatenative R)

include hR

theorem plain {text : String} (h : Plain text) : R text text := hR.fixed (fixed_of_plain h)

theorem empty : R "" "" := hR.plain (by decide)

variable {text filled : String} {texts filleds : List String}

theorem joining : Joining R := ⟨hR.empty, hR.append⟩

theorem join (h : List.Forall₂ R texts filleds) : R (String.join texts) (String.join filleds) :=
  hR.joining.join h

theorem intercalate {separator : String} (hs : R separator separator)
    (h : List.Forall₂ R texts filleds) :
    R (separator.intercalate texts) (separator.intercalate filleds) :=
  hR.joining.intercalate hs h

/-- An operand between two delimiters. -/
theorem between {opening closing : String} (ho : Plain opening) (hc : Plain closing)
    (h : R text filled) : R (opening ++ text ++ closing) (opening ++ filled ++ closing) :=
  hR.append (hR.append (hR.plain ho) h) (hR.plain hc)

theorem listed {opening closing : String} (ho : Plain opening) (hc : Plain closing)
    (h : List.Forall₂ R texts filleds) :
    R (Operator.listed opening closing texts) (Operator.listed opening closing filleds) :=
  hR.append (hR.append (hR.plain ho) (hR.intercalate (hR.plain (by decide)) h)) (hR.plain hc)

omit hR in
theorem plain_symbol (operator : Operator) : Plain operator.symbol := by
  cases operator <;> decide

/-- The plain text of an operator is put together from its operands. -/
theorem plainText (operator : Operator) (h : List.Forall₂ R texts filleds) :
    R (operator.plainText texts) (operator.plainText filleds) := by
  have separated : R ((" " ++ operator.symbol ++ " ").intercalate texts)
      ((" " ++ operator.symbol ++ " ").intercalate filleds) := by
    refine hR.intercalate (hR.plain (.append (.append ?_ (plain_symbol operator)) ?_)) h <;> decide
  cases operator with
  | negate | not | sqrt =>
    rcases h with _ | ⟨hx, _ | _⟩
    · exact separated
    · exact hR.append (hR.plain (by decide)) hx
    · exact separated
  | factorial =>
    rcases h with _ | ⟨hx, _ | _⟩
    · exact separated
    · exact hR.append hx (hR.plain (by decide))
    · exact separated
  | parentheses | brackets | braces | floor | ceil | abs =>
    rcases h with _ | ⟨hx, _ | _⟩
    · exact separated
    · exact hR.between (by decide) (by decide) hx
    · exact separated
  | set | tuple => exact hR.listed (by decide) (by decide) h
  | function =>
    cases h with
    | nil => exact separated
    | cons applied others => exact hR.append applied (hR.listed (by decide) (by decide) others)
  | root | power =>
    rcases h with _ | ⟨hx, _ | ⟨hy, _ | _⟩⟩
    · exact separated
    · exact separated
    · exact hR.append (hR.append hx (hR.plain (by decide))) hy
    · exact separated
  | sum | product =>
    rcases h with _ | ⟨hx, _ | ⟨hy, _ | ⟨hz, _ | _⟩⟩⟩
    · exact separated
    · exact separated
    · exact separated
    · refine hR.append (hR.append (hR.append (hR.between ?_ ?_ hx) hy) (hR.plain ?_)) hz <;> decide
    · exact separated
  | _ => exact separated

end Concatenative

end Markup

end Manuscript
