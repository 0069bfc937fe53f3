import Manuscript.Proofs.Prose.Arrangement
import Mathlib.Data.List.Forall2

/-!
# What a series is made of

A series holds its items and what joins them, and nothing else.
-/

namespace Manuscript

namespace Series

/-- Everything that a series puts around and between its items. -/
def joints : List Span :=
  [.space, .text "not ", .text "either ", .text "neither ", .text ", ", .text ",", .text " ",
    .text "and", .text "or", .text "nor", .text "to"]

variable {span : Span} {items : List Phrase}

theorem mem_intercalate {separator : Phrase} (h : span ∈ separator.intercalate items) :
    (∃ item ∈ items, span ∈ item) ∨ span ∈ separator := by
  induction items with
  | nil => cases h
  | cons item items ih =>
    cases items with
    | nil =>
      rw [List.intercalate_singleton] at h
      exact .inl ⟨item, List.mem_cons_self, h⟩
    | cons second items =>
      rw [List.intercalate_cons_cons, List.mem_append, List.mem_append] at h
      rcases h with (h | h) | h
      · exact .inl ⟨item, List.mem_cons_self, h⟩
      · exact .inr h
      · rcases ih h with ⟨other, hm, hs⟩ | hs
        · exact .inl ⟨other, List.mem_cons_of_mem _ hm, hs⟩
        · exact .inr hs

theorem mem_intercalate_of_mem {separator item : Phrase} (hi : item ∈ items) (hs : span ∈ item) :
    span ∈ separator.intercalate items := by
  induction items with
  | nil => cases hi
  | cons first items ih =>
    cases items with
    | nil =>
      rw [List.mem_singleton] at hi
      rwa [List.intercalate_singleton, ← hi]
    | cons second items =>
      rw [List.intercalate_cons_cons, List.mem_append]
      rcases List.mem_cons.mp hi with rfl | hi
      · exact .inl (List.mem_append_left _ hs)
      · exact .inr (ih hi)

theorem mem_joints_of_mem_lead {joiner : Joiner} (h : span ∈ joiner.loneLead ++ joiner.lead) :
    span ∈ joints := by
  revert h
  cases joiner <;> revert span <;> decide

theorem mem_joints_of_mem_link {joiner : Joiner} {many bound : Bool}
    (h : span ∈ joiner.link many bound) : span ∈ joints := by
  revert h
  cases joiner <;> cases many <;> cases bound <;> revert span <;> decide

theorem mem_arrange {joiner : Joiner} {bound : Bool} (h : span ∈ arrange joiner bound items) :
    (∃ item ∈ items, span ∈ item) ∨ span ∈ joints := by
  have comma : Span.text ", " ∈ joints := by decide
  cases items with
  | nil => cases h
  | cons first rest =>
    rcases rest.eq_nil_or_concat with rfl | ⟨middle, last, rfl⟩
    · rw [arrange_singleton, List.mem_append] at h
      rcases h with h | h
      · exact .inr (mem_joints_of_mem_lead (List.mem_append_left _ h))
      · exact .inl ⟨first, List.mem_singleton_self first, h⟩
    · rw [List.concat_eq_append, arrange_cons_concat] at h
      simp only [List.mem_append, List.mem_flatMap, List.mem_singleton] at h
      rcases h with ((h | h | ⟨item, hm, h | h⟩) | h) | h
      · exact .inr (mem_joints_of_mem_lead (List.mem_append_right _ h))
      · exact .inl ⟨first, List.mem_cons_self, h⟩
      · exact .inr (h ▸ comma)
      · exact .inl ⟨item, by simp [hm], h⟩
      · exact .inr (mem_joints_of_mem_link h)
      · exact .inl ⟨last, by simp, h⟩

theorem mem_arrange_of_mem (joiner : Joiner) (bound : Bool) {item : Phrase} (hi : item ∈ items)
    (hs : span ∈ item) : span ∈ arrange joiner bound items := by
  cases items with
  | nil => cases hi
  | cons first rest =>
    rcases rest.eq_nil_or_concat with rfl | ⟨middle, last, rfl⟩
    · rw [List.mem_singleton] at hi
      rw [arrange_singleton]
      exact List.mem_append_right _ (hi ▸ hs)
    · rw [List.concat_eq_append, arrange_cons_concat]
      rw [List.concat_eq_append, List.mem_cons, List.mem_append, List.mem_singleton] at hi
      simp only [List.mem_append, List.mem_flatMap]
      rcases hi with rfl | hi | rfl
      · exact .inl (.inl (.inr (.inl hs)))
      · exact .inl (.inl (.inr (.inr ⟨item, hi, .inr hs⟩)))
      · exact .inr hs

theorem item_mem {index : Nat} (h : index < items.length) : item items index ∈ items := by
  rw [item, List.getElem?_eq_getElem h]
  exact List.getElem_mem h

theorem map_item_range : (List.range items.length).map (item items) = items :=
  List.ext_getElem (by simp) fun index _ hi ↦ by simp [item, hi]

theorem mem_join {joiner : Joiner} {bound : Bool} (h : span ∈ join joiner bound items) :
    (∃ item ∈ items, span ∈ item) ∨ span ∈ joints := by
  rw [join_eq] at h
  refine (mem_arrange h).imp_left ?_
  rintro ⟨shown, hm, hs⟩
  obtain ⟨index, hi, rfl⟩ := List.mem_map.mp hm
  exact ⟨_, item_mem (Joiner.lt_of_mem_shown hi), hs⟩

/-- All items are shown, unless the series is a range. -/
theorem join_eq_arrange {joiner : Joiner} (bound : Bool) (hj : joiner ≠ .fromTo)
    (items : List Phrase) : join joiner bound items = arrange joiner bound items := by
  rw [join_eq, Joiner.shown, if_neg fun h ↦ hj h.1, map_item_range]

/-- Every item is in the series, unless it is a range. -/
theorem mem_join_of_mem {joiner : Joiner} {bound : Bool} {item : Phrase} (hj : joiner ≠ .fromTo)
    (hi : item ∈ items) (hs : span ∈ item) : span ∈ join joiner bound items := by
  rw [join_eq_arrange bound hj]
  exact mem_arrange_of_mem joiner bound hi hs

/-! ### Series of what is related -/

section Related

variable {S : Span → Span → Prop} {items' : List Phrase}

theorem forall₂_getLastD {α : Type} {R : α → α → Prop} {first first' : α} {list list' : List α}
    (h : List.Forall₂ R list list') (hf : R first first') :
    R (list.getLastD first) (list'.getLastD first') := by
  induction h generalizing first first' with
  | nil => exact hf
  | cons next _ ih =>
    rw [List.getLastD_cons, List.getLastD_cons]
    exact ih next

theorem forall₂_dropLast {α : Type} {R : α → α → Prop} {list list' : List α}
    (h : List.Forall₂ R list list') : List.Forall₂ R list.dropLast list'.dropLast := by
  rw [List.dropLast_eq_take, List.dropLast_eq_take, h.length_eq]
  exact List.forall₂_take _ h

theorem forall₂_flatMap {separator : Phrase} (hs : List.Forall₂ S separator separator)
    (h : List.Forall₂ (List.Forall₂ S) items items') :
    List.Forall₂ S (items.flatMap (separator ++ ·)) (items'.flatMap (separator ++ ·)) := by
  induction h with
  | nil => exact .nil
  | cons first _ ih =>
    rw [List.flatMap_cons, List.flatMap_cons]
    exact List.rel_append (List.rel_append hs first) ih

theorem forall₂_item (h : List.Forall₂ (List.Forall₂ S) items items') (index : Nat) :
    List.Forall₂ S (item items index) (item items' index) := by
  induction h generalizing index with
  | nil => exact .nil
  | cons first _ ih =>
    cases index with
    | zero => exact first
    | succ index => exact ih index

/-- Items that are related are arranged to phrases that are. -/
theorem forall₂_arrange (hj : ∀ span ∈ joints, S span span) (joiner : Joiner) (bound : Bool)
    (h : List.Forall₂ (List.Forall₂ S) items items') :
    List.Forall₂ S (arrange joiner bound items) (arrange joiner bound items') := by
  have fixed {phrase : Phrase} (hp : ∀ span ∈ phrase, span ∈ joints) :
      List.Forall₂ S phrase phrase := List.forall₂_same.mpr fun span hs ↦ hj span (hp span hs)
  cases h with
  | nil => exact .nil
  | cons first rest =>
    cases rest with
    | nil =>
      rw [arrange_singleton, arrange_singleton]
      exact List.rel_append (fixed fun _ hs ↦ mem_joints_of_mem_lead (List.mem_append_left _ hs))
        first
    | cons second rest =>
      have others := List.Forall₂.cons second rest
      have front := forall₂_dropLast others
      rw [arrange_cons _ _ _ (List.cons_ne_nil _ _), arrange_cons _ _ _ (List.cons_ne_nil _ _)]
      refine List.rel_append (List.rel_append (List.rel_append ?_ (List.rel_append first ?_)) ?_) ?_
      · exact fixed fun _ hs ↦ mem_joints_of_mem_lead (List.mem_append_right _ hs)
      · exact forall₂_flatMap (fixed (by decide)) front
      · simp only [← List.length_pos_iff, front.length_eq]
        exact fixed fun _ hs ↦ mem_joints_of_mem_link hs
      · exact forall₂_getLastD others .nil

/-- Items that are related are joined to phrases that are. -/
theorem forall₂_join (hj : ∀ span ∈ joints, S span span) (joiner : Joiner) (bound : Bool)
    (h : List.Forall₂ (List.Forall₂ S) items items') :
    List.Forall₂ S (join joiner bound items) (join joiner bound items') := by
  rw [join_eq, join_eq, h.length_eq]
  refine forall₂_arrange hj joiner bound ?_
  rw [List.forall₂_map_left_iff, List.forall₂_map_right_iff, List.forall₂_same]
  exact fun index _ ↦ forall₂_item h index

end Related

/-! ### Links -/

variable {target text : String}

theorem link_not_mem_joints : Span.link target text ∉ joints := by simp [joints]

/-- A series has the links of its items. -/
theorem link_mem_join {joiner : Joiner} {bound : Bool} (hj : joiner ≠ .fromTo) :
    Span.link target text ∈ join joiner bound items ↔
      ∃ item ∈ items, Span.link target text ∈ item := by
  constructor
  · intro h
    exact (mem_join h).resolve_right link_not_mem_joints
  · rintro ⟨item, hi, hs⟩
    exact mem_join_of_mem hj hi hs

/-- Items between which there are no links. -/
theorem link_mem_intercalate {separator : Phrase} (hn : Span.link target text ∉ separator) :
    Span.link target text ∈ separator.intercalate items ↔
      ∃ item ∈ items, Span.link target text ∈ item := by
  constructor
  · intro h
    exact (mem_intercalate h).resolve_right hn
  · rintro ⟨item, hi, hs⟩
    exact mem_intercalate_of_mem hi hs

end Series

end Manuscript
