import Manuscript.Proofs.Macro.Template
import Mathlib.Data.List.Chain

/-!
# The algebra of substitution

Expanding a template is a substitution on the characters of the body (`fill`). The markers
themselves are what it leaves alone, it respects concatenation, and a substitution after another is
the substitution of the substituted arguments. That is what makes an invocation inside the body of
another macro mean what it says.
-/

namespace Manuscript

namespace Macro

/-- A slot is one of those that there are, and a literal is some text without markers. -/
def Part.Proper : Part → Prop
  | .literal text => text ≠ [] ∧ ∀ c ∈ text, Marker.index? c = none
  | .slot index => index < Marker.count

/-- The two parts are not both literals. -/
def Part.Apart : Part → Part → Prop
  | .literal _, .literal _ => False
  | _, _ => True

/-- The literals of a body are runs of characters that are no markers, each as long as it can be. -/
structure Runs (parts : List Part) : Prop where
  proper : ∀ part ∈ parts, part.Proper
  apart : parts.IsChain Part.Apart

namespace Runs

variable {parts : List Part} {index : Nat} {c : Char} {text : List Char}

theorem slot (hi : index < Marker.count) (h : Runs parts) : Runs (.slot index :: parts) := by
  constructor
  · rw [List.forall_mem_cons]
    exact ⟨hi, h.proper⟩
  · cases parts with
    | nil => exact .singleton _
    | cons next parts => exact .cons_cons trivial h.apart

/-- A character that stands alone, or before a slot, begins a run. -/
theorem begun (hc : Marker.index? c = none) (h : Runs parts)
    (ha : ∀ part ∈ parts.head?, Part.Apart (.literal [c]) part) :
    Runs (.literal [c] :: parts) := by
  constructor
  · rw [List.forall_mem_cons]
    exact ⟨by simp [Part.Proper, hc], h.proper⟩
  · cases parts with
    | nil => exact .singleton _
    | cons next parts => exact .cons_cons (ha next rfl) h.apart

theorem continued (hc : Marker.index? c = none) (h : Runs (.literal text :: parts)) :
    Runs (.literal (c :: text) :: parts) := by
  have ⟨first, others⟩ := List.forall_mem_cons.mp h.proper
  constructor
  · rw [List.forall_mem_cons]
    exact ⟨⟨by simp, by simpa [hc] using first.2⟩, others⟩
  · cases parts with
    | nil => exact .singleton _
    | cons next parts =>
      have hn := List.isChain_cons_cons.mp h.apart
      cases next with
      | literal _ => exact absurd hn.1 id
      | slot _ => exact .cons_cons trivial hn.2

end Runs

theorem runs_ofChars (cs : List Char) : Runs (Part.ofChars cs) := by
  induction cs with
  | nil => exact ⟨by simp [Part.ofChars], .nil⟩
  | cons c cs ih =>
    rw [Part.ofChars.eq_def]
    cases hc : Marker.index? c with
    | some index => simpa only [hc] using ih.slot (Marker.toNat_of_index? hc).2
    | none =>
      cases hp : Part.ofChars cs with
      | nil => simpa only [hc, hp] using (hp ▸ ih).begun hc (by simp)
      | cons part parts =>
        rw [hp] at ih
        cases part with
        | literal text => simpa only [hc, hp] using ih.continued hc
        | slot index => simpa only [hc, hp] using ih.begun hc (by simp [Part.Apart])

/-- Every marker as the argument that it stands for. -/
def markers : List (Option String) :=
  (List.range Marker.count).map fun index ↦ (Marker.char? index).map String.singleton

theorem getElem?_markers {index : Nat} (h : index < Marker.count) :
    markers[index]? = some (some (String.singleton (Char.ofNat (Marker.base + index)))) := by
  rw [markers, List.getElem?_map, List.getElem?_range h, Option.map_some, Marker.char?, if_pos h,
    Option.map_some]

theorem fill_markers (c : Char) : fill markers c = [c] := by
  rw [fill]
  cases hc : Marker.index? c with
  | none => rfl
  | some index =>
    obtain ⟨place, below⟩ := Marker.toNat_of_index? hc
    show ((markers[index]?.join).getD "").toList = [c]
    rw [getElem?_markers below, ← place, Char.ofNat_toNat, Option.join_some, Option.getD_some,
      String.toList_singleton]

namespace Template

/-- Expanding an expanded body expands what was put into it. -/
theorem expand_parse_expand (body : String) (inner outer : List (Option String)) :
    (parse ((parse body).expand inner)).expand outer =
      (parse body).expand (inner.map (·.map fun text ↦ (parse text).expand outer)) := by
  rw [← String.toList_inj]
  simp only [toList_expand_parse, List.flatMap_assoc]
  -- One character of the body at a time: it is left, or a marker that is filled from inside first.
  refine List.flatMap_congr fun c _ ↦ ?_
  unfold fill
  cases hc : Marker.index? c with
  | none =>
    dsimp only
    rw [List.flatMap_singleton, hc]
  | some index =>
    dsimp only
    rw [List.getElem?_map]
    rcases inner[index]? with _ | _ | text
    · rfl
    · rfl
    · exact (toList_expand_parse text outer).symm

end Template

/-- The laws of substitution. Expanding a body puts each argument in the places of its marker,
nothing where it is missing, and keeps every other character; the markers are the arguments that
change nothing; a body may be cut anywhere; what is expanded twice is expanded once, with the
expanded arguments. -/
theorem expand_laws (body : String) :
    (∀ arguments, ((Template.parse body).expand arguments).toList =
      body.toList.flatMap (fill arguments)) ∧
    (Template.parse body).expand markers = body ∧
    (∀ rest arguments, (Template.parse (body ++ rest)).expand arguments =
      Template.expand ⟨(Template.parse body).parts ++ (Template.parse rest).parts⟩ arguments) ∧
    (∀ first second, (Template.parse ((Template.parse body).expand first)).expand second =
      (Template.parse body).expand
        (first.map (·.map fun text ↦ (Template.parse text).expand second))) ∧
    Runs (Template.parse body).parts := by
  refine ⟨toList_expand_parse body, ?_, ?_, Template.expand_parse_expand body,
    runs_ofChars body.toList⟩
  · rw [← String.toList_inj, toList_expand_parse]
    simp [funext fill_markers]
  · intro rest arguments
    rw [← String.toList_inj, toList_expand_parse, Template.expand, String.toList_ofList,
      List.flatMap_append, String.toList_append, List.flatMap_append]
    simp [Template.parse, flatMap_expand_ofChars]

end Macro

end Manuscript
