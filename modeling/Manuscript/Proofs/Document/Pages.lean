import Manuscript.Proofs.Document.Openings

/-!
# Pages of sub-figures

The row groups that a series has gathered, told from what has happened inside it (`Paged`): they
are its sub-figures in order, none is empty, and one starts with the first sub-figure and wherever a
page has been begun since the sub-figure before.
-/

namespace Manuscript

/-- A group starts with the member at a position, counted through all groups. -/
def Starts {α : Type} (groups : List (List α)) (position : Nat) : Prop :=
  ∃ i < groups.length, (groups.take i).flatten.length = position

namespace Starts

variable {α β : Type} {groups : List (List α)} {group : List α} {position : Nat}

theorem le (h : Starts groups position) : position ≤ groups.flatten.length := by
  obtain ⟨i, -, rfl⟩ := h
  calc (groups.take i).flatten.length
      ≤ (groups.take i).flatten.length + (groups.drop i).flatten.length := Nat.le_add_right _ _
    _ = groups.flatten.length := by
      rw [← List.length_append, ← List.flatten_append, List.take_append_drop]

/-- One more group starts behind the members of the others. -/
theorem concat_iff :
    Starts (groups ++ [group]) position ↔
      Starts groups position ∨ position = groups.flatten.length := by
  constructor
  · rintro ⟨i, hi, rfl⟩
    rw [List.length_append, List.length_singleton] at hi
    rcases Nat.lt_succ_iff_lt_or_eq.mp hi with hi | rfl
    · exact .inl ⟨i, hi, by rw [List.take_append_of_le_length (Nat.le_of_lt hi)]⟩
    · exact .inr (by rw [List.take_left])
  · rintro (⟨i, hi, rfl⟩ | rfl)
    · refine ⟨i, by simp; omega, ?_⟩
      rw [List.take_append_of_le_length (Nat.le_of_lt hi)]
    · exact ⟨groups.length, by simp, by rw [List.take_left]⟩

/-- Where groups start depends on their lengths alone. -/
theorem congr {groups' : List (List β)} (h : groups.map List.length = groups'.map List.length) :
    Starts groups position ↔ Starts groups' position := by
  have lengths : groups.length = groups'.length := by
    simpa using congrArg List.length h
  unfold Starts
  simp only [List.length_flatten, List.map_take, h, lengths]

end Starts

namespace Opening

namespace Event

variable {inside : List Event} {event : Event}

/-- A page has been begun since the last sub-figure. -/
def Turned (inside : List Event) : Prop :=
  ∃ earlier later, inside = earlier ++ .begun .figureSeriesPage :: later ∧
    later.filterMap figure? = []

theorem turned_concat :
    Turned (inside ++ [event]) ↔
      event = .begun .figureSeriesPage ∨ event.figure? = none ∧ Turned inside := by
  constructor
  · rintro ⟨earlier, later, h, hl⟩
    rcases List.eq_nil_or_concat later with rfl | ⟨others, last, rfl⟩
    · exact .inl (List.append_singleton_inj.mp h).2
    · rw [List.concat_eq_append, ← List.cons_append, ← List.append_assoc] at h
      obtain ⟨rfl, rfl⟩ := List.append_singleton_inj.mp h
      rw [List.concat_eq_append, List.filterMap_append, List.append_eq_nil_iff] at hl
      exact .inr ⟨by simpa using hl.2, earlier, others, rfl, hl.1⟩
  · rintro (rfl | ⟨he, earlier, later, rfl, hl⟩)
    · exact ⟨inside, [], rfl, rfl⟩
    · exact ⟨earlier, later ++ [event], by simp, by simp [hl, he]⟩

end Event

open Event

/-- The groups of sub-figures that what has happened inside a series comes to. -/
structure Paged (inside : List Event) (groups : List (List PendingFigure)) : Prop where
  figures : groups.flatten = inside.filterMap figure?
  filled : ∀ group ∈ groups, group ≠ []
  /-- A group starts with the first sub-figure and with every one before which a page has been
  begun. -/
  starts : ∀ before event, before ++ [event] <+: inside → event.figure?.isSome →
    (Starts groups (before.filterMap figure?).length ↔
      before.filterMap figure? = [] ∨ Turned before)

namespace Paged

variable {inside : List Event} {event : Event} {groups groups' : List (List PendingFigure)}
  {figure : PendingFigure}

theorem nil : Paged [] [] where
  figures := rfl
  filled := nofun
  starts before event h := by simp at h

/-- What is no sub-figure leaves the groups. -/
theorem skip (h : Paged inside groups) (he : event.figure? = none) :
    Paged (inside ++ [event]) groups where
  figures := by simp [h.figures, he]
  filled := h.filled
  starts before event' hp hf := by
    rcases List.prefix_concat_iff.mp hp with same | hp
    · obtain ⟨rfl, rfl⟩ := List.append_singleton_inj.mp same
      rw [he] at hf
      cases hf
    · exact h.starts before event' hp hf

/-- A sub-figure comes last, in a new group or in the last one. -/
theorem add (h : Paged inside groups) (he : event.figure? = some figure)
    (flat : groups'.flatten = groups.flatten ++ [figure]) (filled : ∀ group ∈ groups', group ≠ [])
    (earlier : ∀ position < groups.flatten.length,
      (Starts groups' position ↔ Starts groups position))
    (last : Starts groups' groups.flatten.length ↔
      inside.filterMap figure? = [] ∨ Turned inside) : Paged (inside ++ [event]) groups' where
  figures := by simp [flat, h.figures, he]
  filled := filled
  starts before event' hp hf := by
    rcases List.prefix_concat_iff.mp hp with same | hp
    · obtain ⟨rfl, rfl⟩ := List.append_singleton_inj.mp same
      rw [← h.figures, last, h.figures]
    · obtain ⟨found, hs⟩ := Option.isSome_iff_exists.mp hf
      have fewer : (before.filterMap figure?).length < groups.flatten.length := by
        obtain ⟨after, rfl⟩ := hp
        simp [h.figures, hs]
      rw [earlier _ fewer]
      exact h.starts before event' hp hf

end Paged

/-! ### Series -/

/-- A page turns a series, a sub-figure is added to it, and nothing else concerns it. -/
theorem Event.gather_cases (event : Event) :
    event = .begun .figureSeriesPage ∨
    (∃ figure, event.figure? = some figure ∧
      ∀ series : PendingSeries, event.gather series = series.add figure) ∨
    event ≠ .begun .figureSeriesPage ∧ event.figure? = none ∧
      ∀ series : PendingSeries, event.gather series = series := by
  cases event with
  | begun element =>
    cases element with
    | figureSeriesPage => exact .inl rfl
    | _ => exact .inr (.inr ⟨nofun, rfl, fun _ ↦ rfl⟩)
  | ended element frame content =>
    obtain ⟨kind, captured, state⟩ := frame
    cases element with
    | subFigure label =>
      cases state with
      | subFigure figure => exact .inr (.inl ⟨figure, rfl, fun _ ↦ rfl⟩)
      | _ => exact .inr (.inr ⟨nofun, rfl, fun _ ↦ rfl⟩)
    | _ => exact .inr (.inr ⟨nofun, rfl, fun _ ↦ rfl⟩)

/-- A series has gathered what has happened inside it: its last group is empty where the next
sub-figure starts a group. -/
structure Gathered (inside : List Event) (series : PendingSeries) : Prop where
  pages : ∀ page ∈ series.pages, page ≠ []
  page : series.page = [] ↔ inside.filterMap figure? = [] ∨ Turned inside
  paged : Paged inside (series.groups.filter (!·.isEmpty))

namespace Gathered

variable {inside : List Event} {event : Event} {series : PendingSeries} {figure : PendingFigure}

/-- Only the last group can be empty. -/
theorem filter_groups (h : ∀ page ∈ series.pages, page ≠ []) :
    series.groups.filter (!·.isEmpty) =
      series.pages ++ if series.page = [] then [] else [series.page] := by
  have kept : series.pages.filter (!·.isEmpty) = series.pages := by
    refine List.filter_eq_self.mpr fun page hp ↦ ?_
    simpa using h page hp
  rw [PendingSeries.groups, List.filter_append, kept]
  split <;> simp [*]

/-- The groups have all sub-figures in order. -/
theorem flatten_groups (h : Gathered inside series) :
    series.groups.flatten = inside.filterMap figure? := by
  rw [← List.flatten_filter_not_isEmpty, h.paged.figures]

theorem fresh (label : Option Label) (columns : Nat) : Gathered [] { label, columns } where
  pages := nofun
  page := by simp
  paged := .nil

theorem turn (h : Gathered inside series) :
    Gathered (inside ++ [.begun .figureSeriesPage]) series.turn := by
  have turned : Turned (inside ++ [.begun .figureSeriesPage]) := turned_concat.mpr (.inl rfl)
  have paged : Paged (inside ++ [.begun .figureSeriesPage]) _ := h.paged.skip rfl
  by_cases empty : series.page = []
  · have same : series.turn = series := by simp [PendingSeries.turn, empty]
    rw [same]
    exact ⟨h.pages, by simp [empty, turned], paged⟩
  · have next :
        series.turn = { series with pages := series.pages ++ [series.page], page := [] } := by
      simp [PendingSeries.turn, empty]
    have pages : ∀ page ∈ series.pages ++ [series.page], page ≠ [] := by
      simpa [or_imp, forall_and, empty] using h.pages
    rw [next]
    refine ⟨pages, by simp [turned], ?_⟩
    rw [filter_groups pages, if_pos rfl, List.append_nil]
    rwa [filter_groups h.pages, if_neg empty] at paged

theorem add (h : Gathered inside series) (he : event.figure? = some figure) :
    Gathered (inside ++ [event]) (series.add figure) := by
  have filled : (series.add figure).page ≠ [] := by simp [PendingSeries.add]
  have unturned : ¬ Turned (inside ++ [event]) := by
    rw [turned_concat, he]
    rintro (rfl | ⟨⟨⟩, -⟩)
    cases he
  have groups : (series.add figure).groups.filter (!·.isEmpty) =
      series.pages ++ [series.page ++ [figure]] := by
    have kept := filter_groups (show ∀ page ∈ (series.add figure).pages, page ≠ [] from h.pages)
    rwa [if_neg filled] at kept
  have all : ∀ page ∈ series.pages ++ [series.page ++ [figure]], page ≠ [] := by
    simpa [or_imp, forall_and] using h.pages
  refine ⟨h.pages, by simp [filled, unturned, he], ?_⟩
  have paged := h.paged
  rw [filter_groups h.pages] at paged
  rw [groups]
  by_cases empty : series.page = []
  · -- The last group has been empty, so that it counts only from this sub-figure on.
    rw [if_pos empty, List.append_nil] at paged
    refine paged.add he (by simp [empty]) all (fun position hp ↦ ?_) ?_
    · rw [Starts.concat_iff, or_iff_left (Nat.ne_of_lt hp)]
    · rw [Starts.concat_iff]
      exact iff_of_true (.inr rfl) (h.page.mp empty)
  · -- The sub-figure is not the first of its group: no group starts behind the others.
    rw [if_neg empty] at paged
    refine paged.add he (by simp) all (fun position hp ↦ ?_) ?_
    · rw [Starts.concat_iff, Starts.concat_iff]
    · rw [Starts.concat_iff]
      have behind : series.pages.flatten.length <
          (series.pages ++ [series.page]).flatten.length := by
        simpa using List.length_pos_of_ne_nil empty
      refine iff_of_false ?_ fun fresh ↦ empty (h.page.mpr fresh)
      rintro (starts | same)
      · exact Nat.not_le_of_lt behind starts.le
      · exact Nat.ne_of_gt behind same

theorem skip (h : Gathered inside series) (hb : event ≠ .begun .figureSeriesPage)
    (he : event.figure? = none) : Gathered (inside ++ [event]) series where
  pages := h.pages
  page := by simp [h.page, turned_concat, hb, he]
  paged := h.paged.skip he

end Gathered

/-- A series has gathered what has happened inside it. -/
theorem gathered_series (opening : Opening) (label : Option Label) (columns : Nat) :
    Gathered opening.inside (opening.series label columns) := by
  unfold series
  -- Events come at the end of the history, where the fold works on the last of them.
  induction opening.inside using List.reverseRecOn with
  | nil => exact .fresh label columns
  | append_singleton inside event ih =>
    rw [List.foldl_append, List.foldl_cons, List.foldl_nil]
    rcases event.gather_cases with rfl | ⟨figure, he, hg⟩ | ⟨hb, he, hg⟩
    · exact ih.turn
    · exact hg _ ▸ ih.add he
    · exact hg _ ▸ ih.skip hb he

/-- What happens inside a series leaves its label and its columns. -/
theorem series_kept (opening : Opening) (label : Option Label) (columns : Nat) :
    (opening.series label columns).label = label ∧
      (opening.series label columns).columns = columns := by
  unfold series
  induction opening.inside using List.reverseRecOn with
  | nil => exact ⟨rfl, rfl⟩
  | append_singleton inside event ih =>
    rw [List.foldl_append, List.foldl_cons, List.foldl_nil]
    rcases event.gather_cases with rfl | ⟨figure, he, hg⟩ | ⟨hb, he, hg⟩
    · rw [gather, PendingSeries.turn]
      split <;> exact ih
    · exact hg _ ▸ ih
    · exact hg _ ▸ ih

/-- The state of a series tells all that is drawn of it but its caption. -/
theorem Fits.exists_series {opening : Opening} {elements : List Element} {state : FrameState}
    {label : Option Label} {columns : Nat} (h : opening.Fits elements state)
    (he : opening.element = .figureSeries label columns) :
    0 < columns ∧ opening.figures.map PendingFigure.label = opening.labels ∧
      ∃ series, state = .figureSeries series ∧ series.label = label ∧ series.columns = columns ∧
        Gathered opening.inside series := by
  rw [Fits, he] at h
  obtain ⟨positive, labels, caption, rfl⟩ := h
  obtain ⟨hl, hc⟩ := opening.series_kept label columns
  have gathered := opening.gathered_series label columns
  exact ⟨positive, labels, _, rfl, hl, hc, gathered.pages, gathered.page, gathered.paged⟩

end Opening

end Manuscript
