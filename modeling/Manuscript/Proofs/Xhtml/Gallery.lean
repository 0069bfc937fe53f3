import Manuscript.Proofs.Document.Gallery

/-!
# Figure series as tables

The table of a figure series has a group of rows for each page with sub-figures. The cells of a
group fill its rows from the left, so that every row but the last is full. With what a series has
gathered this gives the place of every sub-figure in the table.
-/

namespace Manuscript

open Opening Opening.Event Xhtml

namespace Xhtml

variable {columns : Nat}

@[simp] theorem rowsOf_nil : rowsOf columns [] = [] := by
  rw [rowsOf]

theorem rowsOf_cons (cell : String) (cells : List String) :
    rowsOf columns (cell :: cells) =
      (cell :: cells.take (columns - 1)) :: rowsOf columns (cells.drop (columns - 1)) := by
  rw [rowsOf]

/-- The rows have all cells in order. -/
theorem flatten_rowsOf (cells : List String) : (rowsOf columns cells).flatten = cells := by
  induction cells using rowsOf.induct columns with
  | case1 => rw [rowsOf_nil, List.flatten_nil]
  | case2 cell cells ih =>
    rw [rowsOf_cons, List.flatten_cons, ih, List.cons_append, List.take_append_drop]

/-- No row is empty or too long. -/
theorem length_of_mem_rowsOf (positive : 0 < columns) {cells row : List String}
    (h : row ∈ rowsOf columns cells) : row ≠ [] ∧ row.length ≤ columns := by
  induction cells using rowsOf.induct columns with
  | case1 => simp at h
  | case2 cell cells ih =>
    rw [rowsOf_cons, List.mem_cons] at h
    rcases h with rfl | h
    · refine ⟨List.cons_ne_nil _ _, ?_⟩
      rw [List.length_cons, List.length_take]
      omega
    · exact ih h

/-- Every row but the last is full. -/
theorem length_of_mem_dropLast_rowsOf (positive : 0 < columns) {cells row : List String}
    (h : row ∈ (rowsOf columns cells).dropLast) : row.length = columns := by
  induction cells using rowsOf.induct columns with
  | case1 => simp at h
  | case2 cell cells ih =>
    rw [rowsOf_cons] at h
    cases rest : cells.drop (columns - 1) with
    | nil => simp [rest] at h
    | cons next others =>
      have long := congrArg List.length rest
      rw [List.length_drop, List.length_cons] at long
      have more : rowsOf columns (cells.drop (columns - 1)) ≠ [] := by simp [rest, rowsOf_cons]
      rw [List.dropLast_cons_of_ne_nil more, List.mem_cons] at h
      rcases h with rfl | h
      · rw [List.length_cons, List.length_take]
        omega
      · exact ih h

/-- A table with the groups of rows of a series above its caption. -/
def seriesTable (float : FloatHead) (columns : Nat) (groups : List (List (List String))) : String :=
  element "table" (classed "figureSeries" ++ identified float.anchor)
    (String.join (groups.map fun rows ↦ element "tbody" [] (String.join (rows.map row))) ++
      element "tbody" []
        (row [element "td" (classed "caption" ++ [("colspan", toString columns)])
          (captionText "Figure" float)]))

/-- Pages without sub-figures are left out. -/
theorem figureSeries_eq (positive : 0 < columns) (float : FloatHead)
    (pages : List (List String)) :
    figureSeries float columns pages =
      seriesTable float columns ((pages.filter (!·.isEmpty)).map (rowsOf columns)) := by
  rw [figureSeries, seriesTable, List.map_map, Nat.max_eq_left positive]
  rfl

end Xhtml

/-- The lengths of the groups that are not empty. -/
theorem map_length_filter_isEmpty {α : Type} (groups : List (List α)) :
    (groups.filter (!·.isEmpty)).map List.length =
      (groups.map List.length).filter (· != 0) := by
  rw [List.filter_map]
  refine congrArg (List.map List.length) (List.filter_congr fun group _ ↦ ?_)
  cases group <;> rfl

namespace Opening

/-- The groups of rows hold the cells of what has happened inside a series: all of them in order,
none of the groups empty, every row full but for the last of a group, and a group starts with the
first sub-figure and with every one before which a page has been begun. -/
structure Tabulated (inside : List Event) (columns : Nat) (cells : List String)
    (groups : List (List (List String))) : Prop where
  cells : (groups.map List.flatten).flatten = cells
  filled : ∀ rows ∈ groups, rows.flatten ≠ []
  full : ∀ rows ∈ groups, ∀ row ∈ rows.dropLast, row.length = columns
  bounded : ∀ rows ∈ groups, ∀ row ∈ rows, row ≠ [] ∧ row.length ≤ columns
  starts : ∀ before event, before ++ [event] <+: inside → event.figure?.isSome →
    (Starts (groups.map List.flatten) (before.filterMap figure?).length ↔
      before.filterMap figure? = [] ∨ Turned before)

/-- Pages with as many cells as there are sub-figures on the pages of a series are tabulated as what
has happened inside the series. -/
theorem Gathered.tabulated {inside : List Event} {series : PendingSeries}
    (h : Gathered inside series) {columns : Nat} (positive : 0 < columns)
    {pages : List (List String)}
    (sizes : pages.map List.length = series.groups.map List.length) :
    Tabulated inside columns pages.flatten
      ((pages.filter (!·.isEmpty)).map (rowsOf columns)) := by
  have flat : ((pages.filter (!·.isEmpty)).map (rowsOf columns)).map List.flatten =
      pages.filter (!·.isEmpty) := by
    simp [List.map_map, Function.comp_def, flatten_rowsOf]
  -- Where groups start depends on lengths alone, and cells come page by page as sub-figures do.
  have lengths : (pages.filter (!·.isEmpty)).map List.length =
      (series.groups.filter (!·.isEmpty)).map List.length := by
    rw [map_length_filter_isEmpty, map_length_filter_isEmpty, sizes]
  refine ⟨?_, ?_, ?_, ?_, fun before event hp hf ↦ ?_⟩
  · rw [flat, List.flatten_filter_not_isEmpty]
  · rw [List.forall_mem_map]
    intro page hp
    rw [flatten_rowsOf]
    simpa using (List.mem_filter.mp hp).2
  · rw [List.forall_mem_map]
    exact fun _ _ _ hr ↦ length_of_mem_dropLast_rowsOf positive hr
  · rw [List.forall_mem_map]
    exact fun _ _ _ hr ↦ length_of_mem_rowsOf positive hr
  · rw [flat, Starts.congr lengths]
    exact h.paged.starts before event hp hf

end Opening

section Ends

variable {s : Session} {frame : Frame} {outer : Frames} {opening : Opening}
  {elements : List Element} {label : Option Label} {columns : Nat}
  (hf : s.document.frames = frame :: outer) (kind : frame.kind = .figureSeries)
  (fits : opening.Fits elements frame.state) (he : opening.element = .figureSeries label columns)

include hf kind fits he

/-- The end of a series writes its table, unless a picture cannot be stored. -/
theorem tabulated_of_end (orderly : s.document.Orderly) :
    let (answer, t) := s.perform backend (.endElement .figureSeries)
    let number := s.document.figures + 1
    (∃ reason, answer = .error (.io reason)) ∨
      answer = .ok .done ∧ t.document.figures = number ∧
      ∃ caption groups, t.document.output = (s.document.pop.emitLine (seriesTable
          ⟨number, label.map Label.key, caption⟩ columns groups)).stream.output ∧
        Tabulated opening.inside columns
          (opening.figures.mapIdx (s.document.drawn backend number)) groups := by
  obtain ⟨positive, -, series, state, rfl, rfl, gathered⟩ := fits.exists_series he
  have figures : series.groups.flatten = opening.figures := gathered.flatten_groups
  have ended := Session.perform_end_figureSeries backend orderly hf kind state
  generalize s.perform backend (.endElement .figureSeries) = performed at ended ⊢
  obtain ⟨answer, t⟩ := performed
  rcases ended with failed | ⟨done, counted, pages, flat, sizes, written⟩
  · exact .inl failed
  · have tabulated := gathered.tabulated positive sizes
    rw [flat, figures] at tabulated
    refine .inr ⟨done, counted, series.caption.markup, _, ?_, tabulated⟩
    rw [written, ← figureSeries_eq positive]
    rfl

/-- The end of a series resolves the labels that its sub-figures were begun with. -/
theorem resolved_of_end (labelled : s.document.Labelled) {k : Nat} {own : Label}
    (hl : opening.labels[k]? = some (some own)) {reply : Reply} {t : Session}
    (hp : s.perform backend (.endElement .figureSeries) = (.ok reply, t)) :
    t.document.labels.state own =
      .ok (.resolved (subFigureNumber (s.document.figures + 1) k)) := by
  obtain ⟨-, labels, series, state, -, -, gathered⟩ := fits.exists_series he
  have figures : series.groups.flatten = opening.figures := gathered.flatten_groups
  rw [← labels, ← figures, List.getElem?_map, Option.map_eq_some_iff] at hl
  obtain ⟨figure, hk, hl⟩ := hl
  exact Session.resolved_of_end_figureSeries backend labelled hf kind state hp hk hl

end Ends

/-- A figure series keeps its sub-figures. Its end is accepted unless a picture cannot be stored,
and then the table has a cell for each sub-figure that has ended inside it, in their order and with
the letters in order; its groups and rows are as they should be (`Tabulated`), and the label of each
sub-figure is resolved with the number of the series and its letter. Where a sub-figure may begin
and its label can be attached, it is refused exactly if the innermost series has one for every
letter. -/
theorem series_run (context : Context) (path : Path) (place : Location) (serial : Nat)
    (files : FileSystem) (calls : List Call) :
    let fresh : Session := ⟨context.document path place serial, files⟩
    let s := fresh.run backend calls
    let openings := fresh.openings backend [] calls
    (∀ opening around label columns, openings = opening :: around →
      opening.element = .figureSeries label columns →
        let (answer, t) := s.perform backend (.endElement .figureSeries)
        let number := s.document.figures + 1
        0 < columns ∧ opening.figures.length ≤ Limit.maxSubFigures ∧
        opening.figures.map PendingFigure.label = opening.labels ∧
        ((∃ reason, answer = .error (.io reason)) ∨
          answer = .ok .done ∧ t.document.figures = number ∧
          (∃ caption groups, t.document.output = (s.document.pop.emitLine (seriesTable
              ⟨number, label.map Label.key, caption⟩ columns groups)).stream.output ∧
            Tabulated opening.inside columns
              (opening.figures.mapIdx (s.document.drawn backend number)) groups) ∧
          (fresh.Genuine backend calls → ∀ k own, opening.labels[k]? = some (some own) →
            let letter := Char.ofNat ('a'.toNat + k)
            t.document.labels.state own =
              .ok (.resolved (toString number ++ String.singleton letter))))) ∧
    ∀ label, Kind.subFigure.allowedIn s.document.innermost = true →
      s.document.attachError (.subFigure label) = none →
        ∃ series, openings.find? (·.element.kind == .figureSeries) = some series ∧
          series.figures.length ≤ Limit.maxSubFigures ∧
          (s.perform backend (.beginElement (.subFigure label))).1 =
            if series.figures.length = Limit.maxSubFigures then
              .error (.limitExceeded .subFigures)
            else .ok .done := by
  intro fresh s openings
  have orderly : s.document.Orderly :=
    (context.orderly_document path place serial).run backend calls
  have agree : Agree openings s.document.frames := Session.agree_run .nil
    (context.nested_document path place serial) backend calls
  constructor
  · intro opening around label columns ho he
    obtain ⟨-, frame, outer, hf, kind, fits, -⟩ := Session.exists_frame_of_openings backend ho
    rw [he] at kind
    have ended := tabulated_of_end hf kind fits he orderly
    obtain ⟨positive, labels, -⟩ := fits.exists_series he
    have few : opening.figures.length ≤ Limit.maxSubFigures := by
      refine agree.length_figures_le orderly ?_
      rw [ho]
      exact List.find?_cons_of_pos (by simp [he, Element.kind])
    have labelled (genuine : fresh.Genuine backend calls) : s.document.Labelled :=
      Session.labelled_run (s := fresh) (Session.labelled_fresh context path place serial)
        Bibliography.keyed_empty genuine
    generalize hp : s.perform backend (.endElement .figureSeries) = performed at ended ⊢
    obtain ⟨answer, t⟩ := performed
    refine ⟨positive, few, labels, ?_⟩
    rcases ended with failed | ⟨rfl, counted, written⟩
    · exact .inl failed
    · exact .inr ⟨rfl, counted, written, fun genuine k own hl ↦
        resolved_of_end hf kind fits he (labelled genuine) hl hp⟩
  · intro label allowed free
    exact agree.begin_subFigure orderly backend allowed free

/-- A series of two columns in which a sub-figure with the first label has ended, and one without a
label on the next page. -/
def twoPages : List Call :=
  [.createLabel .subFigure, .beginElement .header, .endElement .header, .beginElement .body,
    .beginElement (.figureSeries none 2),
    .beginElement (.subFigure (some ⟨0, 0, 1, .subFigure⟩)), .endElement .subFigure,
    .beginElement .figureSeriesPage, .endElement .figureSeriesPage,
    .beginElement (.subFigure none), .endElement .subFigure]

/-- The series of two pages ends with two groups, its label is resolved, and there is room for one
more sub-figure. -/
theorem series_run_pages :
    let fresh : Session :=
      ⟨(⟨⟨"/"⟩, "index", {}, false⟩ : Context).document ⟨"/index.xhtml"⟩ ["index.xhtml"] 0, {}⟩
    let s := fresh.run backend twoPages
    let (answer, t) := s.perform backend (.endElement .figureSeries)
    answer = .ok .done ∧ t.document.figures = 1 ∧
      t.document.labels.state ⟨0, 0, 1, .subFigure⟩ = .ok (.resolved "1a") ∧
      (∃ opening around groups, fresh.openings backend [] twoPages = opening :: around ∧
        opening.figures.length = 2 ∧ Tabulated opening.inside 2
          (opening.figures.mapIdx (s.document.drawn backend 1)) groups) ∧
      (s.perform backend (.beginElement (.subFigure none))).1 = .ok .done := by
  intro fresh s
  have elements : (fresh.openings backend [] twoPages).map Opening.element =
      [.figureSeries none 2, .body] := rfl
  have labels : (fresh.openings backend [] twoPages).head?.map Opening.labels =
      some [some ⟨0, 0, 1, .subFigure⟩, none] := rfl
  have uncounted : s.document.figures = 0 := by decide +kernel
  have accepted : (s.perform backend (.endElement .figureSeries)).1.isOk = true := by
    decide +kernel
  have allowed : Kind.subFigure.allowedIn s.document.innermost = true := by decide +kernel
  have free : s.document.attachError (.subFigure none) = none := rfl
  have genuine : fresh.Genuine backend twoPages := by
    refine Session.genuine_createLabel fun element hm own hl ↦ ?_
    simp only [List.mem_cons, Call.beginElement.injEq, reduceCtorEq, List.not_mem_nil, or_false,
      false_or] at hm
    obtain rfl | rfl | rfl | rfl | rfl | rfl := hm <;> cases hl
    rfl
  have run := series_run ⟨⟨"/"⟩, "index", {}, false⟩ ⟨"/index.xhtml"⟩ ["index.xhtml"] 0 {} twoPages
  -- From here on only the facts above are known of the session: the run is not evaluated again.
  extract_lets openings number at run
  have one : number = 1 := congrArg (· + 1) uncounted
  clear_value number s
  subst one
  cases ho : fresh.openings backend [] twoPages with
  | nil =>
    rw [ho] at elements
    cases elements
  | cons opening around =>
    rw [ho] at elements labels
    have series : opening.element = .figureSeries none 2 := (List.cons.inj elements).1
    have two : opening.labels = [some ⟨0, 0, 1, .subFigure⟩, none] := Option.some.inj labels
    have first : opening.labels[0]? = some (some ⟨0, 0, 1, .subFigure⟩) := by rw [two]; rfl
    have ended := run.1 opening around none 2 ho series
    obtain ⟨innermost, found, -, begun⟩ := run.2 none allowed free
    generalize s.perform backend (.endElement .figureSeries) = performed at ended accepted ⊢
    obtain ⟨answer, t⟩ := performed
    obtain ⟨-, -, same, ⟨reason, rfl⟩ | written⟩ := ended
    · cases accepted
    obtain ⟨done, counted, ⟨caption, groups, -, tabulated⟩, resolved⟩ := written
    have count : opening.figures.length = 2 := by
      rw [← List.length_map, same, two]
      rfl
    have here : innermost = opening := by
      change (fresh.openings backend [] twoPages).find? _ = _ at found
      rw [ho, List.find?_cons_of_pos (by simp [series, Element.kind])] at found
      exact (Option.some.inj found).symm
    rw [here, count] at begun
    exact ⟨done, counted, resolved genuine 0 _ first, ⟨opening, around, groups, rfl, count,
      tabulated⟩, begun⟩

end Manuscript
