import Manuscript.Proofs.Document.FailedEnds
import Manuscript.Proofs.Document.ImageName
import Manuscript.Proofs.Document.Ongoing
import Manuscript.Proofs.Storage.Making

/-!
# Pictures that are stored

Only the end of a figure or of a series stores pictures. It counts one float and stores pictures
under number texts of that float, none of them twice (`Session.Draws`); if one cannot be stored
because its file is there already, that file was not one of them (`Session.Taken`). All other calls
leave the files alone.
-/

namespace Manuscript

namespace Session

open Action

/-- The files, and what is known of the images. -/
def storage (s : Session) :
    FileSystem × (Settings × Path × String × Path × Location) × Nat × List Path :=
  (s.files, s.document.origin, s.document.figures, s.document.images)

/-- Nothing has been stored or numbered. -/
abbrev Idle (s t : Session) : Prop := t.storage = s.storage

theorem ongoing_idle : Ongoing Idle where
  refl _ := rfl
  trans h h' := h'.trans h
  append _ _ := rfl
  stream _ := rfl
  offer _ _ _ := rfl
  note s f h := by
    simp only [Document.substance, Prod.mk.injEq] at h
    change (_, (f s.document).origin, (f s.document).figures, (f s.document).images) = s.storage
    rw [h.1, h.2.2.2.1, h.2.2.2.2]
    rfl

theorem idle_emitLine (t : Session) (markup : String) :
    Idle t (t.modifyDocument (·.emitLine markup)) := rfl

/-! ### Storing -/

/-- Since `s`, pictures have been stored under the numbers, and nothing else has been stored or
numbered. -/
structure Stored (s : Session) (numbers : List String) (t : Session) : Prop where
  origin : t.document.origin = s.document.origin
  figures : t.document.figures = s.document.figures
  images : t.document.images = s.document.images ++ numbers.map s.document.imagePath
  files : s.files.Makes (numbers.map s.document.imagePath) t.files

variable {s t u : Session} {numbers : List String}

theorem Stored.of_idle (h : Idle t u) (hs : s.Stored numbers t) : s.Stored numbers u := by
  simp only [Idle, storage, Prod.mk.injEq] at h
  exact ⟨h.2.1.trans hs.origin, h.2.2.1.trans hs.figures, h.2.2.2.trans hs.images, h.1 ▸ hs.files⟩

theorem stored_nil (s : Session) : s.Stored [] s :=
  ⟨rfl, rfl, (List.append_nil _).symm, .refl s.files⟩

/-- A picture is stored under its number, or not stored, then perhaps because a file is there. -/
theorem ensures_storeCanvas (backend : Backend) (canvas : Canvas) (number : String)
    (caption : Passage) : Ensures (s.Stored numbers) (storeCanvas backend canvas number caption)
      (fun _ ↦ s.Stored (numbers ++ [number])) fun error t ↦ s.Stored numbers t ∧
        (error = .io .alreadyExists → t.files.has (s.document.imagePath number) = true) := by
  refine ensures_current fun d ↦ ensures_of_forall fun t ht ↦ ?_
  obtain ⟨stored, rfl⟩ := ht
  have path : t.document.directory.join (t.document.imageName number) =
      s.document.imagePath number :=
    congrFun (Document.imagePath_congr stored.origin) number
  dsimp only
  rw [path]
  refine Ensures.through (fun _ u ↦ s.Stored (numbers ++ [number]) (u.modifyDocument fun d ↦
    { d with images := d.images ++ [s.document.imagePath number] })) ?_ fun _ ↦
      Ensures.through (fun _ ↦ s.Stored (numbers ++ [number])) (ensures_change fun _ hu ↦ hu)
        fun _ ↦ ensures_pure fun _ hu ↦ hu
  rintro t rfl
  unfold createPicture
  rw [bind_get]
  cases hc : t.files.create (s.document.imagePath number)
    (.picture ⟨canvas, t.document.settings.model, t.document.settings.format⟩) with
  | error error =>
    refine ⟨stored, fun he ↦ ?_⟩
    cases he
    exact FileSystem.create_eq_alreadyExists_iff.mp hc
  | ok made =>
    obtain ⟨place, files⟩ := made
    refine ⟨stored.origin, stored.figures, ?_, ?_⟩
    · change t.document.images ++ _ = _
      rw [stored.images, List.map_append, List.append_assoc, List.map_singleton]
    · rw [List.map_append, List.map_singleton]
      exact stored.files.trans (FileSystem.makes_create hc nofun)

/-- The body of a figure stores one picture or none. -/
theorem ensures_figureBody (backend : Backend) (figure : PendingFigure) (number : String) :
    Ensures (s.Stored numbers) (figureBody backend figure number)
      (fun _ t ↦ s.Stored numbers t ∨ s.Stored (numbers ++ [number]) t)
      fun error t ↦ s.Stored numbers t ∧
        (error = .io .alreadyExists → t.files.has (s.document.imagePath number) = true) := by
  unfold figureBody
  split
  · exact ensures_pure fun _ ht ↦ .inl ht
  · exact ensures_pure fun _ ht ↦ .inl ht
  · exact (ensures_storeCanvas backend _ number _).mono (fun _ ht ↦ ht) (fun _ _ ht ↦ .inr ht)
      fun _ _ ht ↦ ht

/-- A label that cannot be given its number is no fault of a file. -/
theorem ensures_resolve {holds : Session → Prop} (label : Option Label) (number : String)
    (hi : ∀ t u, Idle t u → holds t → holds u) :
    Ensures holds (resolve label number) (fun _ ↦ holds)
      fun error t ↦ holds t ∧ ∀ reason, error ≠ .io reason := by
  have labelled : Refuses (fun error ↦ ∀ reason, error ≠ .io reason) (resolve label number) :=
    (Composed.resolve fun _ _ _ ↦ nofun).refuses
  exact (((ongoing_idle.resolve label number).stays hi).and labelled).mono
    (fun _ ht ↦ ⟨ht, trivial⟩) (fun _ _ ht ↦ ht.1) fun _ _ ht ↦ ht

/-! ### Series -/

/-- Pictures of some of the first `index` sub-figures of series `number` have been stored. -/
def Lettered (s : Session) (number index : Nat) (t : Session) : Prop :=
  ∃ indices : List Nat, s.Stored (indices.map (subFigureNumber number)) t ∧ indices.Nodup ∧
    ∀ i ∈ indices, i < index ∧ i < Limit.maxSubFigures

/-- The pictures of the sub-figures before some sub-figure have been stored, and then something was
refused, perhaps because the file of that sub-figure is there. -/
def Halted (s : Session) (number : Nat) (error : DocumentError) (t : Session) : Prop :=
  ∃ index, s.Lettered number index t ∧ (error = .io .alreadyExists →
    index < Limit.maxSubFigures ∧
      t.files.has (s.document.imagePath (subFigureNumber number index)) = true)

variable {number index : Nat}

theorem Lettered.of_idle (h : Idle t u) (hs : s.Lettered number index t) :
    s.Lettered number index u := by
  obtain ⟨indices, stored, rest⟩ := hs
  exact ⟨indices, stored.of_idle h, rest⟩

theorem Lettered.halted {error : DocumentError} (h : s.Lettered number index t)
    (he : ∀ reason, error ≠ .io reason) : s.Halted number error t :=
  ⟨index, h, fun hr ↦ absurd hr (he _)⟩

theorem ensures_seriesCell (backend : Backend) (number index : Nat) (figure : PendingFigure) :
    Ensures (s.Lettered number index) (seriesCell backend number index figure)
      (fun _ ↦ s.Lettered number (index + 1)) (s.Halted number) := by
  unfold seriesCell
  split
  · exact ensures_throw fun t ht ↦ ht.halted nofun
  · next letter hl =>
    have text : index < Limit.maxSubFigures ∧
        toString number ++ String.singleton letter = subFigureNumber number index := by
      unfold letter? at hl
      split at hl
      · next hi =>
        cases hl
        exact ⟨hi, rfl⟩
      · cases hl
    obtain ⟨letters, text⟩ := text
    dsimp only
    rw [text]
    refine Ensures.bind ((ensures_resolve figure.label _ fun _ _ ↦ Lettered.of_idle).mono
      (fun _ ht ↦ ht) (fun _ _ ht ↦ ht) fun _ _ ht ↦ ht.1.halted ht.2) fun _ ↦ ?_
    refine Ensures.through (fun _ ↦ s.Lettered number (index + 1)) ?_ fun _ ↦
      ensures_pure fun _ ht ↦ ht
    rintro t ⟨indices, stored, nodup, first⟩
    refine (ensures_figureBody backend figure (subFigureNumber number index)).mono
      (fun _ hu ↦ hu) (fun _ u hu ↦ ?_) (fun error u hu ↦ ?_) t stored
    · rcases hu with hu | hu
      · exact ⟨indices, hu, nodup, fun i hi ↦ ⟨Nat.lt_succ_of_lt (first i hi).1, (first i hi).2⟩⟩
      · refine ⟨indices ++ [index], ?_, ?_, ?_⟩
        · rwa [List.map_append, List.map_singleton]
        · refine List.nodup_append.mpr ⟨nodup, List.nodup_singleton index, fun i hi j hj ↦ ?_⟩
          rw [List.mem_singleton.mp hj]
          exact Nat.ne_of_lt (first i hi).1
        · intro i hi
          rcases List.mem_append.mp hi with hi | hi
          · exact ⟨Nat.lt_succ_of_lt (first i hi).1, (first i hi).2⟩
          · rw [List.mem_singleton.mp hi]
            exact ⟨Nat.lt_succ_self index, letters⟩
    · exact ⟨index, ⟨indices, hu.1, nodup, first⟩, fun he ↦ ⟨letters, hu.2 he⟩⟩

theorem ensures_seriesCells (backend : Backend) (number index : Nat)
    (figures : List PendingFigure) :
    Ensures (s.Lettered number index) (seriesCells backend number index figures)
      (fun _ ↦ s.Lettered number (index + figures.length)) (s.Halted number) := by
  induction figures generalizing index with
  | nil => exact ensures_pure fun _ ht ↦ ht
  | cons figure others ih =>
    rw [List.length_cons, Nat.add_comm others.length, ← Nat.add_assoc]
    exact (ensures_seriesCell backend number index figure).bind fun _ ↦ (ih (index + 1)).bind
      fun _ ↦ ensures_pure fun _ ht ↦ ht

/-- The sub-figures of all row groups are stored one after the other. -/
theorem ensures_seriesPages (backend : Backend) (number index : Nat)
    (groups : List (List PendingFigure)) :
    Ensures (s.Lettered number index) (seriesPages backend number index groups)
      (fun _ ↦ s.Lettered number (index + groups.flatten.length)) (s.Halted number) := by
  induction groups generalizing index with
  | nil => exact ensures_pure fun _ ht ↦ ht
  | cons group others ih =>
    rw [List.flatten_cons, List.length_append, ← Nat.add_assoc]
    exact (ensures_seriesCells backend number index group).bind fun _ ↦
      (ih (index + group.length)).bind fun _ ↦ ensures_pure fun _ ht ↦ ht

/-! ### Floats -/

/-- Since `s`, one more float has been numbered at most, and pictures of it have been stored under
the numbers. -/
structure Draws (s : Session) (numbers : List String) (t : Session) : Prop where
  origin : t.document.origin = s.document.origin
  images : t.document.images = s.document.images ++ numbers.map s.document.imagePath
  files : s.files.Makes (numbers.map s.document.imagePath) t.files
  figures : t.document.figures = s.document.figures ∧ numbers = [] ∨
    t.document.figures = s.document.figures + 1
  numbered : ∀ number ∈ numbers, FigureNumber (s.document.figures + 1) number
  nodup : numbers.Nodup

/-- The picture of the next float cannot be stored, as a file is there already that is none of those
stored under the numbers. -/
def Taken (s : Session) (numbers : List String) (t : Session) : Prop :=
  ∃ number, FigureNumber (s.document.figures + 1) number ∧ number ∉ numbers ∧
    t.files.has (s.document.imagePath number) = true

/-- Since `s`, one more float has been numbered at most, and its pictures have been stored. -/
abbrev Drew (s t : Session) : Prop := ∃ numbers, s.Draws numbers t

/-- The pictures of a float have been stored before something was refused, perhaps because a file is
there. -/
def Stopped (s : Session) (error : DocumentError) (t : Session) : Prop :=
  ∃ numbers, s.Draws numbers t ∧ (error = .io .alreadyExists → s.Taken numbers t)

theorem draws_of_idle (h : Idle s t) : s.Drew t := by
  simp only [Idle, storage, Prod.mk.injEq] at h
  refine ⟨[], h.2.1, ?_, ?_, .inl ⟨h.2.2.1, rfl⟩, nofun, List.nodup_nil⟩
  · rw [h.2.2.2, List.map_nil, List.append_nil]
  · rw [h.1, List.map_nil]
    exact .refl s.files

theorem Draws.of_idle (h : Idle t u) (hs : s.Draws numbers t) : s.Draws numbers u := by
  simp only [Idle, storage, Prod.mk.injEq] at h
  exact ⟨h.2.1.trans hs.origin, h.2.2.2.trans hs.images, h.1 ▸ hs.files, h.2.2.1 ▸ hs.figures,
    hs.numbered, hs.nodup⟩

/-- The session in which one more float has been counted. -/
def counted (s : Session) : Session :=
  s.modifyDocument fun d ↦ { d with figures := d.figures + 1 }

/-- What is stored once the float has been counted is drawn. -/
theorem Stored.draws (h : s.counted.Stored numbers t)
    (hn : ∀ number ∈ numbers, FigureNumber (s.document.figures + 1) number)
    (nodup : numbers.Nodup) : s.Draws numbers t :=
  ⟨h.origin, h.images, h.files, .inr h.figures, hn, nodup⟩

theorem Lettered.draws (h : s.counted.Lettered (s.document.figures + 1) index t) :
    ∃ indices : List Nat, s.Draws (indices.map (subFigureNumber (s.document.figures + 1))) t ∧
      ∀ i ∈ indices, i < index ∧ i < Limit.maxSubFigures := by
  obtain ⟨indices, stored, nodup, first⟩ := h
  refine ⟨indices, stored.draws ?_ ?_, first⟩
  · intro number hn
    obtain ⟨i, hi, rfl⟩ := List.mem_map.mp hn
    exact .subFigure (first i hi).2
  · refine List.Nodup.map_on (fun i hi j hj he ↦ ?_) nodup
    exact (subFigureNumber_injective (first i hi).2 (first j hj).2 he).2

theorem Halted.stopped {error : DocumentError}
    (h : s.counted.Halted (s.document.figures + 1) error t) : s.Stopped error t := by
  obtain ⟨index, lettered, taken⟩ := h
  obtain ⟨indices, draws, first⟩ := lettered.draws
  refine ⟨_, draws, fun he ↦ ?_⟩
  obtain ⟨hi, there⟩ := taken he
  refine ⟨_, .subFigure hi, fun stored ↦ ?_, there⟩
  obtain ⟨i, hm, same⟩ := List.mem_map.mp stored
  obtain ⟨-, rfl⟩ := subFigureNumber_injective (first i hm).2 hi same
  exact Nat.lt_irrefl i (first i hm).1

theorem Stopped.drew {error : DocumentError} (h : s.Stopped error t) : s.Drew t := by
  obtain ⟨numbers, draws, -⟩ := h
  exact ⟨numbers, draws⟩

/-- A float is counted before its number is looked up. -/
theorem ensures_figures {α : Type} {next : Document → Action α} {after : α → Session → Prop}
    {refused : DocumentError → Session → Prop}
    (h : ∀ d : Document, d.figures = s.document.figures + 1 →
      Ensures (Idle s.counted) (next d) after refused) :
    Ensures (Idle s) (do
      change fun d ↦ { d with figures := d.figures + 1 }
      let d ← current
      next d) after refused := by
  intro t ht
  simp only [Idle, storage, Prod.mk.injEq] at ht
  have idle : Idle s.counted t.counted := by
    simp only [Idle, storage, Prod.mk.injEq]
    exact ⟨ht.1, ht.2.1, congrArg (· + 1) ht.2.2.1, ht.2.2.2⟩
  exact h t.counted.document (congrArg (· + 1) ht.2.2.1) t.counted idle

/-- A figure is counted and its picture stored. -/
theorem ensures_closeFigure_drew (backend : Backend) (figure : PendingFigure) :
    Ensures (Idle s) (closeFigure backend figure) (fun _ ↦ s.Drew) s.Stopped := by
  have one : ∀ number ∈ [toString (s.document.figures + 1)],
      FigureNumber (s.document.figures + 1) number := fun number hn ↦ by
    rw [List.mem_singleton.mp hn]
    exact .figure
  have drawn {u : Session} (hu : s.counted.Stored [] u ∨
      s.counted.Stored ([] ++ [toString (s.document.figures + 1)]) u) : s.Drew u := by
    rcases hu with hu | hu
    · exact ⟨_, hu.draws nofun List.nodup_nil⟩
    · exact ⟨_, hu.draws one (List.nodup_singleton _)⟩
  refine ensures_figures fun d number ↦ ?_
  dsimp only
  rw [number]
  refine Ensures.bind ((ensures_resolve figure.label _ fun _ _ ↦ Stored.of_idle).mono
    (fun _ ht ↦ (stored_nil s.counted).of_idle ht) (fun _ _ ht ↦ ht) fun error t ht ↦
      ⟨[], ht.1.draws nofun List.nodup_nil, fun he ↦ absurd he (ht.2 _)⟩) fun _ ↦ ?_
  refine Ensures.bind ((ensures_figureBody backend figure _).mono (fun _ ht ↦ ht)
    (fun _ _ ht ↦ drawn ht) fun error t ht ↦ ?_) fun body ↦ ?_
  · exact ⟨[], ht.1.draws nofun List.nodup_nil, fun he ↦ ⟨_, .figure, nofun, ht.2 he⟩⟩
  · exact ensures_change fun t ⟨numbers, draws⟩ ↦
      ⟨numbers, draws.of_idle (t.idle_emitLine _)⟩

/-- A series is counted and the pictures of its sub-figures are stored. -/
theorem ensures_closeSeries_drew (backend : Backend) (series : PendingSeries) :
    Ensures (Idle s) (closeSeries backend series) (fun _ ↦ s.Drew) s.Stopped := by
  have start : s.counted.Lettered (s.document.figures + 1) 0 s.counted :=
    ⟨[], stored_nil s.counted, List.nodup_nil, nofun⟩
  refine ensures_figures fun d number ↦ ?_
  dsimp only
  rw [number]
  refine Ensures.bind ((ensures_resolve series.label _ fun _ _ ↦ Lettered.of_idle).mono
    (fun t ht ↦ start.of_idle ht) (fun _ _ ht ↦ ht)
    fun error t ht ↦ (ht.1.halted ht.2).stopped) fun _ ↦ ?_
  refine Ensures.bind ((ensures_seriesPages backend _ 0 series.groups).mono (fun _ ht ↦ ht)
    (fun _ _ ht ↦ ht) fun _ _ ht ↦ ht.stopped) fun pages ↦ ensures_change fun t ht ↦ ?_
  obtain ⟨indices, draws, -⟩ := ht.draws
  exact ⟨_, draws.of_idle (t.idle_emitLine _)⟩

/-! ### Calls -/

/-- The innermost element is a figure or a series. -/
def AtFloat (s : Session) : Prop :=
  ∀ frame outer, s.document.frames = frame :: outer → frame.state.isFloat = true

/-- Only closing a figure or a series stores pictures. -/
theorem ensures_closeFrame_drew (backend : Backend) (frame : Frame) (captured : Passage) :
    Ensures (Idle s) (closeFrame backend frame captured) (fun _ ↦ s.Drew) fun error t ↦
      s.Drew t ∧ (frame.state.isFloat = true → s.Stopped error t) := by
  have idle (hf : frame.state.isFloat = false)
      (h : Relates Idle (closeFrame backend frame captured)) :
      Ensures (Idle s) (closeFrame backend frame captured) (fun _ ↦ s.Drew) fun error t ↦
        s.Drew t ∧ (frame.state.isFloat = true → s.Stopped error t) :=
    (ongoing_idle.ensures h s).mono (fun _ ht ↦ ht) (fun _ _ ht ↦ draws_of_idle ht)
      fun error t ht ↦ ⟨draws_of_idle ht, fun float ↦ by rw [hf] at float; cases float⟩
  obtain ⟨kind, held, state⟩ := frame
  cases state with
  | figure figure =>
    exact (ensures_closeFigure_drew backend figure).mono (fun _ ht ↦ ht) (fun _ _ ht ↦ ht)
      fun _ _ ht ↦ ⟨ht.drew, fun _ ↦ ht⟩
  | figureSeries series =>
    exact (ensures_closeSeries_drew backend series).mono (fun _ ht ↦ ht) (fun _ _ ht ↦ ht)
      fun _ _ ht ↦ ⟨ht.drew, fun _ ↦ ht⟩
  | subFigure figure => exact idle rfl (Ongoing.change fun _ ↦ rfl)
  | _ => exact idle rfl (ongoing_idle.closeFrame backend _ captured rfl)

/-- What was captured is no file. -/
theorem ensures_release_idle (frame : Frame) : Ensures (Idle s) (release frame)
    (fun _ ↦ Idle s) fun error t ↦ Idle s t ∧ ∀ reason, error ≠ .io reason := by
  unfold release
  split
  · refine ensures_current fun d ↦ ?_
    split
    · exact ensures_throw fun t ht ↦ ⟨ht.1, nofun⟩
    · exact Ensures.through (fun _ ↦ Idle s) (ensures_change fun t ht ↦ ht.1) fun _ ↦
        ensures_pure fun _ ht ↦ ht
  · exact ensures_pure fun _ ht ↦ ht

theorem stopped_of_idle {error : DocumentError} (h : Idle s t) (he : ∀ reason, error ≠ .io reason) :
    s.Stopped error t := by
  obtain ⟨numbers, draws⟩ := draws_of_idle h
  exact ⟨numbers, draws, fun hr ↦ absurd hr (he _)⟩

/-- Ending an element stores the pictures of a float at most. -/
theorem ensures_endElement_drew (backend : Backend) (kind : Kind) (s : Session) :
    Ensures (· = s) (endElement backend kind) (fun _ ↦ s.Drew) fun error t ↦
      s.Drew t ∧ (s.AtFloat → s.Stopped error t) := by
  refine ensures_current fun d ↦ ensures_of_forall fun t ht ↦ ?_
  obtain ⟨rfl, rfl⟩ := ht
  have failed {error : DocumentError} {u : Session} (h : t.Stopped error u) :
      t.Drew u ∧ (t.AtFloat → t.Stopped error u) := ⟨h.drew, fun _ ↦ h⟩
  have refused {error : DocumentError} (he : ∀ reason, error ≠ .io reason) :
      Ensures (· = t) (throw error : Action Unit) (fun _ ↦ t.Drew) fun error u ↦
        t.Drew u ∧ (t.AtFloat → t.Stopped error u) :=
    ensures_throw fun u hu ↦ failed (stopped_of_idle (hu ▸ rfl) he)
  split
  · exact refused nofun
  · next frame outer hf =>
    split
    · have released : Ensures (Idle t) (release frame) (fun _ ↦ Idle t)
          fun error u ↦ t.Drew u ∧ (t.AtFloat → t.Stopped error u) :=
        (ensures_release_idle frame).mono (fun _ hu ↦ hu) (fun _ _ hu ↦ hu)
          fun _ _ hu ↦ failed (stopped_of_idle hu.1 hu.2)
      have closed (captured : Passage) :
          Ensures (Idle t) (closeFrame backend frame captured) (fun _ ↦ t.Drew)
            fun error u ↦ t.Drew u ∧ (t.AtFloat → t.Stopped error u) :=
        (ensures_closeFrame_drew backend frame captured).mono (fun _ hu ↦ hu) (fun _ _ hu ↦ hu)
          fun _ _ hu ↦ ⟨hu.1, fun float ↦ hu.2 (float frame outer hf)⟩
      refine Ensures.through (fun _ ↦ Idle t) (ensures_change fun _ hu ↦ hu ▸ rfl) fun _ ↦
        released.bind fun captured ↦ ?_
      refine Ensures.through (fun _ ↦ Idle t) (ensures_change fun _ hu ↦ hu) fun _ ↦
        (closed captured).bind fun _ ↦ ensures_change fun u ⟨numbers, draws⟩ ↦ ?_
      exact ⟨numbers, draws.of_idle (ongoing_idle.stream u)⟩
    · exact refused nofun

/-- Every call stores the pictures of a float at most. -/
theorem drew_perform (backend : Backend) (call : Call) (s : Session) :
    s.Drew (s.perform backend call).2 := by
  have drew (h : Ensures (· = s) (call.action backend) (fun _ ↦ s.Drew) fun _ ↦ s.Drew) :
      s.Drew (s.perform backend call).2 := perform_of_ensures h rfl
  have idle (h : Relates Idle (call.action backend)) : s.Drew (s.perform backend call).2 :=
    drew ((h s).mono (fun _ ht ↦ ht) (fun _ _ ht ↦ draws_of_idle ht) fun _ _ ht ↦ draws_of_idle ht)
  cases call with
  | beginElement element =>
    have begun := ongoing_idle.ensures_beginElement backend element s
      (fun _ ht ↦ draws_of_idle ht) fun _ _ ht ↦ draws_of_idle ht
    exact drew (begun.bind fun _ ↦ ensures_pure fun _ ht ↦ ht)
  | endElement kind =>
    have ended := (ensures_endElement_drew backend kind s).mono (fun _ ht ↦ ht) (fun _ _ ht ↦ ht)
      fun _ _ ht ↦ ht.1
    exact drew (ended.bind fun _ ↦ ensures_pure fun _ ht ↦ ht)
  | _ => refine idle (ongoing_idle.action backend _ ?_ ?_) <;> exact nofun

/-- Every image of a run is one of a float, in the directory of the document. -/
theorem mem_images_run {backend : Backend} {calls : List Call} {path : Path}
    (h : path ∈ (s.run backend calls).document.images) : path ∈ s.document.images ∨
      ∃ n number, FigureNumber n number ∧ path = s.document.imagePath number := by
  induction calls generalizing s with
  | nil => exact .inl h
  | cons call calls ih =>
    obtain ⟨numbers, draws⟩ := drew_perform backend call s
    rw [run_cons] at h
    rcases ih h with earlier | ⟨n, number, hn, rfl⟩
    · rw [draws.images, List.mem_append] at earlier
      refine earlier.imp_right fun stored ↦ ?_
      obtain ⟨number, hn, rfl⟩ := List.mem_map.mp stored
      exact ⟨_, number, draws.numbered number hn, rfl⟩
    · exact .inr ⟨n, number, hn, congrFun (Document.imagePath_congr draws.origin) number⟩

theorem isFloat_of_suits {frame : Frame} (suits : frame.state.suits frame.kind = true)
    (h : frame.kind = .figure ∨ frame.kind = .figureSeries) : frame.state.isFloat = true := by
  rcases h with h | h
  · rw [h] at suits
    obtain ⟨figure, hs⟩ := FrameState.exists_of_suits suits
    rw [hs, FrameState.isFloat]
  · rw [h] at suits
    obtain ⟨series, hs⟩ := FrameState.exists_of_suits suits
    rw [hs, FrameState.isFloat]

/-- A picture that cannot be stored because its file is there is one of the next float, and has not
been stored by the same call. -/
theorem taken_of_perform (backend : Backend) (orderly : s.document.Orderly) {kind : Kind}
    (h : (s.perform backend (.endElement kind)).1 = .error (.io .alreadyExists)) :
    s.Stopped (.io .alreadyExists) (s.perform backend (.endElement kind)).2 := by
  have float : s.AtFloat := by
    intro frame outer hf
    have step := orderly.step backend (.endElement kind)
    rw [h] at step
    have suits := orderly.nested.frames
    rw [hf] at suits
    have suits := suits.1.suits
    have bare : s.document.ledger.frames = frame.bare :: Frames.bare outer :=
      congrArg Frames.bare hf
    generalize s.document.ledger = l at step bare
    generalize (s.perform backend (.endElement kind)).2.document.ledger = l' at step
    cases step with
    | refused unbalanced =>
      obtain ⟨innermost, he⟩ := unbalanced kind rfl
      cases he
    | failed hl fails =>
      cases fails with
      | picture stored hk hp =>
        cases hl.symm.trans bare
        exact isFloat_of_suits suits hk
  have ended := ensures_endElement_drew backend kind s s rfl
  cases he : endElement backend kind s with
  | ok answer t =>
    rw [perform_of_ok rfl he] at h
    cases h
  | error error t =>
    rw [perform_of_error rfl he] at h ⊢
    rw [he] at ended
    cases h
    exact ended.2 float

end Session

end Manuscript
