import Manuscript.Prose.Series

/-!
# How a series is written

Whatever writes the items, a series asks for the ones that are shown, each once and in order, and
arranges what it gets in one way (`Source.join_eq`). So it never asks for an item that there is
not, and it does not matter how the items are held (`Source.join_arranged`).
-/

namespace Manuscript

namespace Joiner

/-- The positions of the items that are shown: of several a range shows only the two ends. -/
def shown (joiner : Joiner) (count : Nat) : List Nat :=
  if joiner = fromTo ∧ 1 < count then [0, count - 1] else List.range count

theorem lt_of_mem_shown {joiner : Joiner} {count index : Nat} (h : index ∈ joiner.shown count) :
    index < count := by
  unfold shown at h
  split at h
  · next hs =>
    have several := hs.2
    simp only [List.mem_cons, List.not_mem_nil, or_false] at h
    omega
  · exact List.mem_range.mp h

theorem pairwise_shown (joiner : Joiner) (count : Nat) : (joiner.shown count).Pairwise (· < ·) := by
  unfold shown
  split
  · next hs =>
    have several := hs.2
    exact List.pairwise_pair.mpr (by omega)
  · exact List.pairwise_lt_range

/-- Of several items those in front of the stop are shown, and the last one. -/
theorem shown_of_lt (joiner : Joiner) {count : Nat} (h : 1 < count) :
    joiner.shown count =
      0 :: ((List.range (joiner.stop count - 1)).map (· + 1) ++ [count - 1]) := by
  unfold shown stop
  split
  · next hj => simp [hj.1]
  · next hj =>
    rw [if_neg fun he ↦ hj ⟨he, h⟩]
    obtain ⟨k, rfl⟩ := Nat.exists_eq_add_of_lt h
    rw [show 1 + k + 1 = (k + 1) + 1 by omega, List.range_succ_eq_map, List.range_succ]
    simp

end Joiner

namespace Series

/-- The items that are shown, with what stands in front of them and between them. -/
def arrange (joiner : Joiner) (bound : Bool) : List Phrase → Phrase
  | [] => []
  | [item] => (if joiner = .nor then [.text "not "] else []) ++ item
  | first :: rest =>
    (if joiner = .xor then [.text "either "] else if joiner = .nor then [.text "neither "] else [])
      ++ (first ++ rest.dropLast.flatMap ([.text ", "] ++ ·))
      ++ (if joiner = .comma ∨ rest.dropLast ≠ [] then [.text ","] else [])
      ++ (joiner.conjunction.elim [] fun word ↦ [.text " ", .text word])
      ++ [if bound then .space else .text " "] ++ rest.getLastD []

variable (joiner : Joiner) (bound : Bool)

theorem arrange_singleton (item : Phrase) :
    arrange joiner bound [item] = joiner.loneLead ++ item := by cases joiner <;> rfl

theorem arrange_cons (first : Phrase) {rest : List Phrase} (h : rest ≠ []) :
    arrange joiner bound (first :: rest) =
      joiner.lead ++ (first ++ rest.dropLast.flatMap ([.text ", "] ++ ·)) ++
        joiner.link (rest.dropLast ≠ []) bound ++ rest.getLastD [] := by
  cases rest with
  | nil => contradiction
  | cons second rest =>
    cases joiner <;> simp [arrange, Joiner.lead, Joiner.link, Joiner.conjunction]

theorem arrange_cons_concat (first last : Phrase) (middle : List Phrase) :
    arrange joiner bound (first :: (middle ++ [last])) =
      joiner.lead ++ (first ++ middle.flatMap ([.text ", "] ++ ·)) ++
        joiner.link (middle ≠ []) bound ++ last := by
  have several : middle ++ [last] ≠ [] := by simp
  simpa using arrange_cons joiner bound first several

end Series

namespace Source

variable {σ : Type} (source : Source σ) (joiner : Joiner) (bound : Bool)

/-- The items in front of a position are asked for from the first on. -/
theorem front_succ (stop : Nat) : source.front (stop + 1) = (do
    let first ← source.write 0
    let rest ← ((List.range stop).map (· + 1)).mapM source.write
    pure (first ++ rest.flatMap ([.text ", "] ++ ·))) := by
  induction stop with
  | zero => simp [front]
  | succ stop ih =>
    rw [front, ih, List.range_succ, List.map_append, List.mapM_append]
    simp

/-- Writing a series is writing the items that are shown and arranging them. -/
theorem join_eq : source.join joiner bound = (do
    let items ← (joiner.shown (source.length (← get))).mapM source.write
    pure (Series.arrange joiner bound items)) := by
  unfold join
  refine bind_congr fun state ↦ ?_
  generalize source.length state = count
  match count with
  | 0 => simp [Joiner.shown, Series.arrange]
  | 1 => simp [Joiner.shown, Series.arrange_singleton]
  | count + 2 =>
    have arranged := Series.arrange_cons_concat joiner bound
    obtain ⟨k, hk⟩ : ∃ k, joiner.stop (count + 2) = k + 1 := by
      unfold Joiner.stop
      split
      · exact ⟨0, rfl⟩
      · exact ⟨count, rfl⟩
    simp only
    rw [Joiner.shown_of_lt joiner (by omega : 1 < count + 2), hk, front_succ]
    -- The comma in front of the link depends on whether anything stands between the two ends.
    cases k with
    | zero =>
      have pair (first last : Phrase) := arranged first last []
      simp only [List.nil_append] at pair
      simp [pair]
    | succ k =>
      have more (first second last : Phrase) (rest : List Phrase) :=
        arranged first last (second :: rest)
      simp only [List.cons_append] at more
      simp [List.range_succ_eq_map, more]

/-! ### What a source is asked for -/

theorem mapM_cons_run (write : Nat → StateM σ Phrase) (index : Nat) (rest : List Nat) (state : σ) :
    ((index :: rest).mapM write).run state =
      let first := (write index).run state
      let others := (rest.mapM write).run first.2
      (first.1 :: others.1, others.2) := by
  rw [List.mapM_cons]
  rfl

/-- The source, which notes the positions that it is asked for. -/
def recording : Source (σ × List Nat) where
  length state := source.length state.1
  write index := do
    let (state, asked) ← get
    let (item, after) := (source.write index).run state
    set (after, asked ++ [index])
    pure item

theorem mapM_recording_run (positions asked : List Nat) (state : σ) :
    (positions.mapM source.recording.write).run (state, asked) =
      let written := (positions.mapM source.write).run state
      (written.1, written.2, asked ++ positions) := by
  induction positions generalizing state asked with
  | nil => exact congrArg (([], state, ·)) asked.append_nil.symm
  | cons index rest ih =>
    have first : (source.recording.write index).run (state, asked) =
        let item := (source.write index).run state
        (item.1, item.2, asked ++ [index]) := rfl
    rw [mapM_cons_run, mapM_cons_run, first]
    simp only [ih, List.append_assoc, List.singleton_append]

/-- Items that do not depend on the state of the source. -/
theorem mapM_write_run {item : Nat → Phrase} {positions : List Nat}
    (h : ∀ index ∈ positions, ∀ state, ((source.write index).run state).1 = item index)
    (state : σ) : ((positions.mapM source.write).run state).1 = positions.map item := by
  induction positions generalizing state with
  | nil => rfl
  | cons index rest ih =>
    rw [List.forall_mem_cons] at h
    rw [mapM_cons_run, List.map_cons]
    simp only [h.1, ih h.2]

theorem length_mapM_write (positions : List Nat) (state : σ) :
    ((positions.mapM source.write).run state).1.length = positions.length := by
  induction positions generalizing state with
  | nil => rfl
  | cons index rest ih =>
    rw [mapM_cons_run]
    exact congrArg (· + 1) (ih _)

theorem join_run (state : σ) : (source.join joiner bound).run state =
    let written := ((joiner.shown (source.length state)).mapM source.write).run state
    (Series.arrange joiner bound written.1, written.2) := by
  rw [join_eq]
  rfl

end Source

theorem Series.join_eq (joiner : Joiner) (bound : Bool) (items : List Phrase) :
    join joiner bound items =
      arrange joiner bound ((joiner.shown items.length).map (item items)) := by
  unfold join
  rw [Source.join_run]
  exact congrArg (arrange joiner bound) <| Source.mapM_write_run
    (Source.ofFn items.length fun index ↦ pure (item items index)) (fun _ _ _ ↦ rfl) ()

example : Series.join .nor false [[.text "a"], [.text "b"], [.text "c"]] =
    [.text "neither ", .text "a", .text ", ", .text "b", .text ",", .text " ", .text "nor",
      .text " ", .text "c"] := by decide

namespace Source

variable {σ : Type} {source : Source σ} {state : σ}

/-- How items are held makes no difference to the series. -/
theorem join_run_eq {items : List Phrase} (hl : source.length state = items.length)
    (hw : ∀ index < items.length, ∀ state,
      ((source.write index).run state).1 = Series.item items index)
    (joiner : Joiner) (bound : Bool) :
    ((source.join joiner bound).run state).1 = Series.join joiner bound items := by
  rw [join_run, Series.join_eq]
  simp only [hl]
  exact congrArg _ (mapM_write_run _ (fun index hi ↦ hw index (Joiner.lt_of_mem_shown hi)) state)

theorem item_map_text (texts : List String) (index : Nat) :
    Series.item (texts.map ([.text ·])) index = match texts[index]? with
      | some text => [.text text]
      | none => [] := by
  rw [Series.item, List.getElem?_map]
  cases texts[index]? <;> rfl

theorem join_ofList_run (texts : List String) (joiner : Joiner) (bound : Bool) :
    ((ofList texts).join joiner bound).run () =
      (Series.join joiner bound (texts.map ([.text ·])), ()) := by
  refine Prod.ext (join_run_eq (List.length_map _).symm (fun index _ _ ↦ ?_) joiner bound) rfl
  exact (item_map_text texts index).symm

/-- A series asks any source for the items that it shows, once each and in order, threads the state
of the source through them and arranges them. Lists, arrays and functions that write the same texts,
whatever else these do, come out the same. -/
theorem join_arranged (source : Source σ) (state : σ) (texts : List String)
    (other : Nat → σ → Phrase) (next : Nat → σ → σ) (joiner : Joiner) (bound : Bool) :
    (let count := source.length state
      let written := ((joiner.shown count).mapM source.write).run state
      let series := Series.arrange joiner bound written.1
      written.1.length = (joiner.shown count).length ∧
        (source.join joiner bound).run state = (series, written.2) ∧
        (source.recording.join joiner bound).run (state, []) =
          (series, written.2, joiner.shown count) ∧
        (∀ index ∈ joiner.shown count, index < count) ∧
        (joiner.shown count).Pairwise (· < ·)) ∧
      let series := Series.join joiner bound (texts.map ([.text ·]))
      let function : Nat → StateM σ Phrase := fun index state ↦ (match texts[index]? with
        | some text => [.text text]
        | none => other index state, next index state)
      ((ofList texts).join joiner bound).run () = (series, ()) ∧
        ((ofArray texts.toArray).join joiner bound).run () = (series, ()) ∧
        (((ofFn texts.length function).join joiner bound).run state).1 = series := by
  refine ⟨⟨source.length_mapM_write _ state, source.join_run joiner bound state, ?_,
    fun _ ↦ Joiner.lt_of_mem_shown, joiner.pairwise_shown _⟩,
    join_ofList_run texts joiner bound, ?_, ?_⟩
  · rw [join_run]
    exact congrArg (fun written ↦ (Series.arrange joiner bound written.1, written.2))
      (source.mapM_recording_run _ [] state)
  · refine Prod.ext (join_run_eq (List.length_map _).symm (fun index _ _ ↦ ?_) joiner bound) rfl
    rw [item_map_text, ← List.getElem?_toArray]
    rfl
  · refine join_run_eq (List.length_map _).symm (fun index hi state ↦ ?_) joiner bound
    rw [List.length_map] at hi
    rw [item_map_text, List.getElem?_eq_getElem hi]
    change (match texts[index]? with
      | some text => [Span.text text]
      | none => other index state) = _
    rw [List.getElem?_eq_getElem hi]

end Source

theorem Series.andTexts_eq (texts : List String) :
    andTexts texts = join .and false (texts.map ([.text ·])) :=
  congrArg Prod.fst (Source.join_ofList_run texts .and false)

end Manuscript
