import Manuscript.Proofs.Markup.Token

/-!
# The characters of XML

XML 1.0 allows every character in a document but most control characters and two that are no
characters (`Markup.isXmlChar`). A text is spelt in given characters if it holds nothing else
besides what XML allows (`Markup.Spelt`).
-/

namespace Manuscript

/-- The code point of a marker tells its parameter. -/
theorem Marker.toNat_of_index? {c : Char} {index : Nat} (h : index? c = some index) :
    c.toNat = base + index ∧ index < count := by
  unfold index? at h
  split at h
  · next range =>
    rw [← Option.some.inj h]
    omega
  · cases h

namespace Markup

/-- Whether a document of XML 1.0 may hold the character with a code point. -/
def isXmlCode (code : Nat) : Bool :=
  code == 0x9 || code == 0xa || code == 0xd || (0x20 ≤ code && code ≤ 0xd7ff) ||
    (0xe000 ≤ code && code ≤ 0xfffd) || (0x10000 ≤ code && code ≤ 0x10ffff)

/-- Whether a document of XML 1.0 may hold the character. -/
def isXmlChar (c : Char) : Bool := isXmlCode c.toNat

/-- Names are made of characters of the ASCII range. -/
theorem toNat_of_isNameChar {c : Char} (h : isNameChar c = true) :
    0x2d ≤ c.toNat ∧ c.toNat ≤ 0x7a := by
  unfold isNameChar Char.isAlphanum Char.isAlpha Char.isUpper Char.isLower Char.isDigit at h
  simp only [Bool.or_eq_true, Bool.and_eq_true, decide_eq_true_eq, beq_iff_eq,
    UInt32.le_iff_toNat_le] at h
  change ((((65 ≤ c.toNat ∧ c.toNat ≤ 90) ∨ (97 ≤ c.toNat ∧ c.toNat ≤ 122)) ∨
    (48 ≤ c.toNat ∧ c.toNat ≤ 57)) ∨ c = ':') ∨ c = '-' at h
  rcases h with (((h | h) | h) | rfl) | rfl
  · omega
  · omega
  · omega
  · decide
  · decide

theorem isXmlChar_of_isNameChar {c : Char} (h : isNameChar c = true) : isXmlChar c = true := by
  have range := toNat_of_isNameChar h
  simp only [isXmlChar, isXmlCode, Bool.or_eq_true, Bool.and_eq_true, decide_eq_true_eq, beq_iff_eq]
  omega

theorem isXmlChar_of_index? {c : Char} {index : Nat} (h : Marker.index? c = some index) :
    isXmlChar c = true := by
  obtain ⟨code, small⟩ := Marker.toNat_of_index? h
  have each : ∀ i < Marker.count, isXmlCode (Marker.base + i) = true := by decide
  rw [isXmlChar, code]
  exact each index small

variable {given : Char → Prop} {text text' : String}

/-- XML allows every character of the text. -/
def Legal (text : String) : Prop := ∀ c ∈ text.toList, isXmlChar c = true

instance : DecidablePred Legal := fun text ↦ decidableForallMem text.toList

/-- The text holds characters that XML allows, and others only if they are given. -/
def Spelt (given : Char → Prop) (text : String) : Prop :=
  ∀ c ∈ text.toList, isXmlChar c = true ∨ given c

theorem Legal.spelt (h : Legal text) : Spelt given text := fun c hc ↦ .inl (h c hc)

theorem spelt_append : Spelt given (text ++ text') ↔ Spelt given text ∧ Spelt given text' := by
  rw [Spelt, String.toList_append]
  exact List.forall_mem_append

/-- What a text is made of is in the text. -/
theorem Spelt.of_subset (h : Spelt given text) (hs : ∀ c ∈ text'.toList, c ∈ text.toList) :
    Spelt given text' := fun c hc ↦ h c (hs c hc)

end Markup

end Manuscript
