import Manuscript.Proofs.CrossRef.Attachment
import Mathlib.Data.List.Induction

/-!
# Numbers for labels

When an element ends, labels get their numbers one after the other. Each label that gets one is
resolved, and all others stay what they were.
-/

namespace Manuscript

/-- A number for a label that may be missing. -/
def Label.given (label : Option Label) (number : String) : List (Label × String) :=
  label.toList.map (·, number)

theorem Label.mem_given {label : Option Label} {number : String} {n : Label × String} :
    n ∈ Label.given label number ↔ label = some n.1 ∧ n.2 = number := by
  obtain ⟨known, text⟩ := n
  cases label <;> simp [Label.given, eq_comm]

theorem Label.map_fst_given (label : Option Label) (number : String) :
    (Label.given label number).map Prod.fst = label.toList := by
  cases label <;> rfl

namespace Registry

variable {registry : Registry} {numbers : List (Label × String)} {index : Nat} {entry : LabelEntry}

/-- Give numbers to labels, one after the other. -/
def number (registry : Registry) (numbers : List (Label × String)) : Registry :=
  numbers.foldl (fun registry (label, number) ↦ registry.resolve label number) registry

theorem number_append (registry : Registry) (numbers others : List (Label × String)) :
    registry.number (numbers ++ others) = (registry.number numbers).number others :=
  List.foldl_append

theorem getElem?_resolve (registry : Registry) (label : Label) (number : String) (index : Nat) :
    (registry.resolve label number).entries[index]? =
      registry.entries[index]?.map fun entry ↦
        if label.index = index then { entry with state := .resolved number } else entry := by
  rw [resolve, update, List.getElem?_modify]
  split <;> rfl

/-- A label has one of the numbers that it gets, and nothing else of it changes. -/
theorem exists_of_getElem?_number
    (h : (registry.number numbers).entries[index]? = some entry) :
    ∃ first, registry.entries[index]? = some first ∧
      (entry = first ∧ (∀ n ∈ numbers, n.1.index ≠ index) ∨
        ∃ n ∈ numbers, n.1.index = index ∧ entry = { first with state := .resolved n.2 }) := by
  induction numbers using List.reverseRecOn generalizing entry with
  | nil => exact ⟨entry, h, .inl ⟨rfl, nofun⟩⟩
  | append_singleton numbers n ih =>
    rw [number_append] at h
    have last := (getElem?_resolve (registry.number numbers) n.1 n.2 index).symm.trans h
    obtain ⟨before, hb, rfl⟩ := Option.map_eq_some_iff.mp last
    obtain ⟨first, hf, ih⟩ := ih hb
    refine ⟨first, hf, ?_⟩
    by_cases hi : n.1.index = index
    · refine .inr ⟨n, by simp, hi, ?_⟩
      rw [if_pos hi]
      rcases ih with ⟨rfl, _⟩ | ⟨m, _, _, rfl⟩ <;> rfl
    · rw [if_neg hi]
      rcases ih with ⟨same, others⟩ | ⟨m, hm, ih⟩
      · refine .inl ⟨same, fun m hm ↦ ?_⟩
        rcases List.mem_append.mp hm with hm | hm
        · exact others m hm
        · exact List.mem_singleton.mp hm ▸ hi
      · exact .inr ⟨m, List.mem_append_left _ hm, ih⟩

/-- A label that is attached is begun, and all others stay what they were. -/
theorem exists_of_getElem?_attach {label : Label}
    (h : (registry.attach label).entries[index]? = some entry) :
    ∃ first, registry.entries[index]? = some first ∧
      (label.index ≠ index ∧ entry = first ∨
        label.index = index ∧ entry = { first with attached := true, state := .begun }) := by
  rw [attach, update, List.getElem?_modify] at h
  obtain ⟨first, hf, rfl⟩ := Option.map_eq_some_iff.mp h
  refine ⟨first, hf, ?_⟩
  by_cases hi : label.index = index
  · exact .inr ⟨hi, if_pos hi⟩
  · exact .inl ⟨hi, if_neg hi⟩

/-- A label that is made is pending, and all others stay what they were. -/
theorem exists_of_getElem?_create {target : Target}
    (h : (registry.create target).2.entries[index]? = some entry) :
    registry.entries[index]? = some entry ∨
      index = registry.entries.length ∧ entry = { target } := by
  rw [create, List.getElem?_append] at h
  split at h
  · exact .inl h
  · next hn =>
    obtain ⟨hl, he⟩ := List.getElem?_eq_some_iff.mp h
    rw [List.length_singleton] at hl
    refine .inr ⟨by omega, ?_⟩
    rw [← he, List.getElem_singleton]

end Registry

end Manuscript
