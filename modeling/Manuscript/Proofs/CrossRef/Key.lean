import Manuscript.CrossRef.Label
import Manuscript.Proofs.Markup.Token

/-!
# Keys of labels

A key is a name, and it tells the target and the ordinal of its label.
-/

namespace Manuscript

open Markup

theorem toString_injective {m n : Nat} (h : toString m = toString n) : m = n := by
  rw [Nat.toString_eq_ofList_toDigits, Nat.toString_eq_ofList_toDigits] at h
  have hd : Nat.toDigits 10 m = Nat.toDigits 10 n := by
    rw [← String.toList_ofList (l := Nat.toDigits 10 m), h, String.toList_ofList]
  rw [← Nat.ofDigitChars_toDigits (show 1 < 10 by decide) (show 10 ≤ 10 by decide) (n := m), hd,
    Nat.ofDigitChars_toDigits (by decide) (by decide)]

theorem isDigit_of_mem_toString {n : Nat} {c : Char} (h : c ∈ (toString n).toList) :
    c.isDigit = true := by
  rw [Nat.toString_eq_ofList_toDigits, String.toList_ofList] at h
  exact Nat.isDigit_of_mem_toDigits (by decide) (by decide) h

theorem isNameChar_of_isDigit {c : Char} (h : c.isDigit = true) : isNameChar c = true := by
  rw [isNameChar, Char.isAlphanum, h, Bool.or_true, Bool.true_or, Bool.true_or]

namespace Label

theorem isNameChar_of_mem_key (label : Label) : ∀ c ∈ label.key.toList, isNameChar c = true := by
  intro c hc
  rw [key, String.toList_append, List.mem_append] at hc
  rcases hc with hc | hc
  · have stem : ∀ target : Target, ∀ c ∈ target.keyStem.toList, isNameChar c = true := by
      intro target
      cases target <;> decide
    exact stem label.target c hc
  · exact isNameChar_of_isDigit (isDigit_of_mem_toString hc)

/-- The letters of a key end where its digits start. -/
theorem key_inj {label label' : Label} (h : label.key = label'.key) :
    label.target = label'.target ∧ label.ordinal = label'.ordinal := by
  have letters (target : Target) : ∀ c ∈ target.keyStem.toList, (!c.isDigit) = true := by
    cases target <;> decide
  have front (label : Label) :
      label.key.toList.takeWhile (!·.isDigit) = label.target.keyStem.toList := by
    rw [key, String.toList_append, List.takeWhile_append_of_pos (letters _)]
    cases hd : (toString label.ordinal).toList with
    | nil => rw [List.takeWhile_nil, List.append_nil]
    | cons c cs =>
      have hc := isDigit_of_mem_toString (hd ▸ List.mem_cons_self)
      rw [List.takeWhile_cons_of_neg (by rw [hc]; decide), List.append_nil]
  have hs : label.target.keyStem = label'.target.keyStem := by
    rw [← String.toList_inj, ← front, ← front, h]
  have ht : label.target = label'.target := by
    revert hs
    cases label.target <;> cases label'.target <;> decide
  refine ⟨ht, toString_injective ?_⟩
  rw [key, key, ht, ← String.toList_inj, String.toList_append, String.toList_append] at h
  exact String.toList_inj.mp (List.append_cancel_left h)

end Label

end Manuscript
