import Manuscript.Bibliography.Citation
import Manuscript.Proofs.CrossRef.Key
import Mathlib.Data.List.Nodup

/-!
# Keys of cited works

No two works of a bibliography have one key, and every key is a name. A key may still be that of a
label: the two are counted apart.
-/

namespace Manuscript

open Markup

/-! ### Free keys -/

namespace Bibliography

theorem numberedKey_injective {base : String} {m n : Nat}
    (h : numberedKey base m = numberedKey base n) : m = n := by
  have ends : (base.toList ++ "-".toList) ++ (toString m).toList =
      (base.toList ++ "-".toList) ++ (toString n).toList := by
    simpa only [numberedKey, String.toList_append] using congrArg String.toList h
  exact toString_injective (String.toList_inj.mp (List.append_cancel_left ends))

/-- Among one more numbered keys than there are keys, one is free. -/
theorem exists_numberedKey_not_mem (taken : List String) (base : String) :
    ∃ key ∈ (List.range' 2 (taken.length + 1)).map (numberedKey base), key ∉ taken := by
  by_contra hn
  have inside : (List.range' 2 (taken.length + 1)).map (numberedKey base) ⊆ taken := by
    intro key hk
    by_contra ht
    exact hn ⟨key, hk, ht⟩
  have apart : ((List.range' 2 (taken.length + 1)).map (numberedKey base)).Nodup :=
    List.Nodup.map (fun _ _ h ↦ numberedKey_injective h) List.nodup_range'
  have few := apart.length_le_of_subset inside
  rw [List.length_map, List.length_range'] at few
  exact Nat.not_succ_le_self _ few

/-- A key that is to be new is the base or a numbered key, and not in use. -/
theorem freshKey_spec (taken : List String) (base : String) :
    freshKey taken base ∉ taken ∧
      (freshKey taken base = base ∨ ∃ serial, freshKey taken base = numberedKey base serial) := by
  rw [freshKey]
  split
  · cases hf : ((List.range' 2 (taken.length + 1)).map (numberedKey base)).find? (· ∉ taken) with
    | none =>
      obtain ⟨key, hk, ht⟩ := exists_numberedKey_not_mem taken base
      exact absurd (List.find?_eq_none.mp hf key hk) (by simpa using ht)
    | some key =>
      obtain ⟨serial, _, hs⟩ := List.mem_map.mp (List.mem_of_find?_eq_some hf)
      exact ⟨by simpa using List.find?_some hf, .inr ⟨serial, hs.symm⟩⟩
  · next ht => exact ⟨ht, .inl rfl⟩

end Bibliography

/-! ### Names -/

theorem isAlphanum_toLower {c : Char} (h : c.isAlphanum = true) :
    c.toLower.isAlphanum = true := by
  have each : ∀ n < 128, (Char.ofNat n).isAlphanum = true →
      (Char.ofNat n).toLower.isAlphanum = true := by decide +kernel
  have ascii : c.toNat < 128 := by
    have value : c.toNat = c.val.toNat := rfl
    unfold Char.isAlphanum Char.isAlpha Char.isUpper Char.isLower Char.isDigit at h
    simp only [Bool.or_eq_true, Bool.and_eq_true, decide_eq_true_eq, ge_iff_le,
      UInt32.le_iff_toNat_le] at h
    simp at h
    omega
  have lower := each c.toNat ascii
  rw [Char.ofNat_toNat] at lower
  exact lower h

theorem isNameChar_of_isAlphanum {c : Char} (h : c.isAlphanum = true) : isNameChar c = true := by
  rw [isNameChar, h, Bool.true_or, Bool.true_or]

theorem isNameChar_of_mem_toString {n : Nat} {c : Char} (h : c ∈ (toString n).toList) :
    isNameChar c = true := isNameChar_of_isDigit (isDigit_of_mem_toString h)

/-- A year is written with digits and perhaps a minus sign. -/
theorem isNameChar_of_mem_toString_int {n : Int} {c : Char} (h : c ∈ (toString n).toList) :
    isNameChar c = true := by
  cases n with
  | ofNat n => exact isNameChar_of_mem_toString h
  | negSucc n =>
    change c ∈ ("-" ++ toString (n + 1)).toList at h
    rw [String.toList_append, List.mem_append] at h
    rcases h with h | h
    · rw [List.mem_singleton.mp h]
      decide
    · exact isNameChar_of_mem_toString h

theorem Record.isNameChar_of_mem_baseKey {record : Record} {c : Char}
    (h : c ∈ record.baseKey.toList) : isNameChar c = true := by
  have letters (name : String) : ∀ c ∈ (keyLetters name).toList, isNameChar c = true := by
    intro c hc
    rw [keyLetters, String.toList_ofList] at hc
    obtain ⟨d, hd, rfl⟩ := List.mem_map.mp hc
    exact isNameChar_of_isAlphanum (isAlphanum_toLower (List.mem_filter.mp hd).2)
  simp only [baseKey, String.toList_append, List.mem_append] at h
  rcases h with h | h
  · split at h
    · revert c
      decide
    · cases hh : record.authors.head? with
      | none =>
        rw [hh] at h
        cases h
      | some author =>
        rw [hh] at h
        exact letters author.family c h
  · cases hy : record.year? with
    | none =>
      rw [hy] at h
      cases h
    | some year =>
      rw [hy] at h
      exact isNameChar_of_mem_toString_int h

namespace Bibliography

/-- No two works have one key, and every key is a name. -/
structure Keyed (bibliography : Bibliography) : Prop where
  nodup : bibliography.keys.Nodup
  names : ∀ key ∈ bibliography.keys, ∀ c ∈ key.toList, isNameChar c = true

theorem keyed_empty : Keyed {} := ⟨List.nodup_nil, List.forall_mem_nil _⟩

variable {bibliography : Bibliography}

/-- A work that comes into the bibliography gets a key of its own. -/
theorem Keyed.register (h : bibliography.Keyed) (record : Record) :
    (bibliography.register record).Keyed := by
  obtain ⟨free, form⟩ := freshKey_spec bibliography.keys record.baseKey
  unfold Bibliography.register
  split
  · exact h
  · have keys : (⟨bibliography.works ++ [⟨record, freshKey bibliography.keys record.baseKey⟩]⟩ :
        Bibliography).keys = bibliography.keys ++ [freshKey bibliography.keys record.baseKey] :=
      List.map_append
    constructor
    · rw [keys, ← List.concat_eq_append]
      exact h.nodup.concat free
    · rw [keys, List.forall_mem_append, List.forall_mem_singleton]
      refine ⟨h.names, fun c hc ↦ ?_⟩
      rcases form with hb | ⟨serial, hn⟩
      · rw [hb] at hc
        exact record.isNameChar_of_mem_baseKey hc
      · rw [hn, numberedKey, String.toList_append, String.toList_append, List.mem_append,
          List.mem_append] at hc
        rcases hc with (hc | hc) | hc
        · exact record.isNameChar_of_mem_baseKey hc
        · rw [List.mem_singleton.mp hc]
          decide
        · exact isNameChar_of_mem_toString hc

theorem Keyed.cite (h : bibliography.Keyed) (records : List Record) :
    (bibliography.cite records).2.Keyed := by
  change (records.foldl Bibliography.register bibliography).Keyed
  induction records generalizing bibliography with
  | nil => exact h
  | cons record records ih => exact ih (h.register record)

end Bibliography

end Manuscript
