import Manuscript.Proofs.Storage.Naming

/-!
# The way up

Going from a path to the path of the directory that holds it loses one component at a time
(`Path.components_parent?`), so the way up ends. In a file system, the locations in which one can
stand (`FileSystem.Stands`) are those from which the way up leads through directories; every path to
a directory leads to such a location.
-/

namespace Manuscript

namespace Path

variable {path up : Path} {names steps way : List String}

/-! ### Texts with slashes -/

/-- The pieces are made of the characters between the slashes. -/
theorem of_mem_pieces {text piece : List Char} (h : piece ∈ pieces text) :
    ∀ c ∈ piece, c ≠ '/' ∧ c ∈ text := by
  induction text generalizing piece with
  | nil =>
    obtain rfl := List.mem_singleton.mp h
    exact List.forall_mem_nil _
  | cons c rest ih =>
    have later {piece : List Char} (hp : piece ∈ pieces rest) :
        ∀ d ∈ piece, d ≠ '/' ∧ d ∈ c :: rest :=
      fun d hd ↦ ⟨(ih hp d hd).1, List.mem_cons_of_mem _ (ih hp d hd).2⟩
    rw [pieces] at h
    split at h
    · rcases List.mem_cons.mp h with rfl | h
      · exact List.forall_mem_nil _
      · exact later h
    · next hc =>
      split at h
      · next none => exact absurd none (pieces_ne_nil rest)
      · next first others hp =>
        rcases List.mem_cons.mp h with rfl | h
        · rw [List.forall_mem_cons]
          exact ⟨⟨hc, List.mem_cons_self⟩, later (hp ▸ List.mem_cons_self)⟩
        · exact later (hp ▸ List.mem_cons_of_mem _ h)

theorem of_mem_steps {step : String} (h : step ∈ path.steps) :
    ∀ c ∈ step.toList, c ≠ '/' ∧ c ∈ path.text.toList := by
  obtain ⟨piece, hp, rfl⟩ := List.mem_map.mp h
  rw [String.toList_ofList]
  exact of_mem_pieces hp

theorem slash_notMem_of_mem_steps {step : String} (h : step ∈ path.steps) : '/' ∉ step.toList :=
  fun slash ↦ (of_mem_steps h _ slash).1 rfl

theorem steps_append_slash (front back : String) :
    (Path.mk (front ++ "/" ++ back)).steps = (Path.mk front).steps ++ (Path.mk back).steps := by
  have split : (front ++ "/" ++ back).toList = front.toList ++ '/' :: back.toList := by
    simp [String.toList_append]
  rw [steps, split, pieces_append_slash, List.map_append]
  rfl

theorem components_append_slash (front back : String) :
    (Path.mk (front ++ "/" ++ back)).components =
      (Path.mk front).components ++ (Path.mk back).components := by
  rw [components, steps_append_slash, List.filter_append]
  rfl

theorem steps_of_notMem {name : String} (h : '/' ∉ name.toList) :
    (Path.mk name).steps = [name] := by
  rw [steps, pieces_of_notMem h, List.map_singleton, String.ofList_toList]

/-- The steps of names that are joined are the names, if there are any. -/
theorem steps_intercalate (h : ∀ name ∈ names, '/' ∉ name.toList) (hn : names ≠ []) :
    (Path.mk ("/".intercalate names)).steps = names := by
  induction names with
  | nil => exact absurd rfl hn
  | cons name names ih =>
    rw [List.forall_mem_cons] at h
    cases names with
    | nil =>
      rw [String.intercalate_singleton]
      exact steps_of_notMem h.1
    | cons next names =>
      rw [String.intercalate_cons_cons, steps_append_slash, steps_of_notMem h.1,
        ih h.2 (List.cons_ne_nil _ _), List.singleton_append]

/-- What is joined by slashes is made of the slashes and the names. -/
theorem mem_intercalate {c : Char} (h : c ∈ ("/".intercalate names).toList) :
    c = '/' ∨ ∃ name ∈ names, c ∈ name.toList := by
  induction names with
  | nil => cases h
  | cons name names ih =>
    cases names with
    | nil =>
      rw [String.intercalate_singleton] at h
      exact .inr ⟨name, List.mem_cons_self, h⟩
    | cons next names =>
      rw [String.intercalate_cons_cons, String.toList_append, String.toList_append,
        List.mem_append, List.mem_append] at h
      rcases h with (h | h) | h
      · exact .inr ⟨name, List.mem_cons_self, h⟩
      · exact .inl (List.mem_singleton.mp h)
      · exact (ih h).imp_right fun ⟨other, ho, hc⟩ ↦ ⟨other, List.mem_cons_of_mem _ ho, hc⟩

theorem intercalate_concat (hn : names ≠ []) (name : String) :
    "/".intercalate (names ++ [name]) = "/".intercalate names ++ "/" ++ name := by
  induction names with
  | nil => exact absurd rfl hn
  | cons first names ih =>
    cases names with
    | nil => simp [String.intercalate_cons_cons, String.intercalate_singleton]
    | cons next names =>
      rw [List.cons_append, List.cons_append, String.intercalate_cons_cons, ← List.cons_append,
        ih (List.cons_ne_nil _ _), String.intercalate_cons_cons]
      simp only [String.append_assoc]

theorem components_intercalate (h : ∀ name ∈ names, '/' ∉ name.toList) :
    (Path.mk ("/".intercalate names)).components = names.filter (!isIdle ·) := by
  cases names with
  | nil => rfl
  | cons name names => rw [components, steps_intercalate h (List.cons_ne_nil _ _)]

/-- A slash in front is no component. -/
theorem components_slash (text : String) :
    (Path.mk ("/" ++ text)).components = (Path.mk text).components := by
  have split := components_append_slash "" text
  rwa [String.empty_append] at split

/-! ### Parents -/

/-- Idle steps at the end are no components. -/
theorem filter_dropIdle (steps : List String) :
    (dropIdle steps).filter (!isIdle ·) = steps.filter (!isIdle ·) := by
  have idle : (steps.reverse.takeWhile isIdle).filter (!isIdle ·) = [] := by
    rw [List.filter_eq_nil_iff]
    intro step h
    simpa using List.all_eq_true.mp List.all_takeWhile step h
  have parted : steps.reverse.filter (!isIdle ·) =
      (steps.reverse.dropWhile isIdle).filter (!isIdle ·) := by
    calc steps.reverse.filter (!isIdle ·)
      _ = (steps.reverse.takeWhile isIdle ++ steps.reverse.dropWhile isIdle).filter
            (!isIdle ·) := by rw [List.takeWhile_append_dropWhile]
      _ = _ := by rw [List.filter_append, idle, List.nil_append]
  rw [dropIdle, List.filter_reverse, ← parted, List.filter_reverse, List.reverse_reverse]

theorem dropIdle_subset (steps : List String) : dropIdle steps ⊆ steps := by
  intro step h
  rw [dropIdle, List.mem_reverse] at h
  exact List.mem_reverse.mp ((List.dropWhile_sublist _).subset h)

/-- The last of the steps that are left counts. -/
theorem isIdle_getLast_dropIdle (h : dropIdle steps ≠ []) :
    isIdle ((dropIdle steps).getLast h) = false := by
  have filled : steps.reverse.dropWhile isIdle ≠ [] := fun hn ↦ h (by rw [dropIdle, hn]; rfl)
  have first : isIdle ((steps.reverse.dropWhile isIdle).head filled) = false :=
    List.head_dropWhile_not ..
  simpa only [dropIdle, List.getLast_reverse] using first

theorem dropIdle_eq_self (h : ∀ step ∈ steps, isIdle step = false) : dropIdle steps = steps := by
  rw [dropIdle, List.reverse_eq_iff]
  cases hr : steps.reverse with
  | nil => rfl
  | cons last others =>
    have counts := h last (List.mem_reverse.mp (hr ▸ List.mem_cons_self))
    rw [List.dropWhile_cons_of_neg (by rw [counts]; exact Bool.false_ne_true)]

/-- What holds the end of a way has one component fewer. -/
theorem exists_last_of_above? (h : above? steps = some way) :
    way ⊆ steps ∧ ∃ last, steps.filter (!isIdle ·) = way.filter (!isIdle ·) ++ [last] := by
  unfold above? at h
  split at h
  · cases h
  · next _ kept =>
    cases h
    refine ⟨fun step hs ↦ dropIdle_subset _ (List.dropLast_subset _ (dropIdle_subset _ hs)),
      (dropIdle steps).getLast kept, ?_⟩
    calc steps.filter (!isIdle ·)
      _ = ((dropIdle steps).dropLast ++ [(dropIdle steps).getLast kept]).filter (!isIdle ·) := by
        rw [List.dropLast_concat_getLast, filter_dropIdle]
      _ = _ := by
        rw [List.filter_append, filter_dropIdle,
          List.filter_cons_of_pos (by rw [isIdle_getLast_dropIdle]; rfl), List.filter_nil]

theorem filter_of_above?_eq_none (h : above? steps = none) : steps.filter (!isIdle ·) = [] := by
  unfold above? at h
  split at h
  · next none => rw [← filter_dropIdle, none, List.filter_nil]
  · cases h

/-- A parent has one component fewer. Only the path of the place itself lies in the empty path
without having a component. -/
theorem components_parent? (h : path.parent? = some up) :
    (∃ last, path.components = up.components ++ [last]) ∨
      path.components = [] ∧ path.text ≠ "" ∧ up = ⟨""⟩ := by
  have slashless (step : String) (hs : step ∈ path.steps) : '/' ∉ step.toList :=
    slash_notMem_of_mem_steps hs
  unfold parent? at h
  split at h
  · next step rest hs =>
    obtain ⟨way, hw, rfl⟩ := Option.map_eq_some_iff.mp h
    obtain ⟨inside, last, counted⟩ := exists_last_of_above? hw
    refine .inl ⟨last, ?_⟩
    rw [components_slash, components_intercalate fun name hn ↦
      slashless name (hs ▸ List.mem_cons_of_mem _ (inside hn)), ← counted, components, hs]
    rfl
  · next rest hs =>
    split at h
    · next way hw =>
      cases h
      obtain ⟨inside, last, counted⟩ := exists_last_of_above? hw
      refine .inl ⟨last, ?_⟩
      rw [components_intercalate fun name hn ↦ ?_, components, hs]
      · exact counted
      · rcases List.mem_cons.mp hn with rfl | hn
        · decide
        · exact slashless name (hs ▸ List.mem_cons_of_mem _ (inside hn))
    · next hw =>
      cases h
      refine .inr ⟨?_, ?_, rfl⟩
      · rw [components, hs]
        exact (List.filter_cons_of_neg (by decide)).trans (filter_of_above?_eq_none hw)
      · intro empty
        rw [steps, empty] at hs
        exact absurd (List.cons.inj hs).1 (by decide)
  · obtain ⟨way, hw, rfl⟩ := Option.map_eq_some_iff.mp h
    obtain ⟨inside, last, counted⟩ := exists_last_of_above? hw
    refine .inl ⟨last, ?_⟩
    rw [components_intercalate fun name hn ↦ slashless name (inside hn), ← counted, components]

/-- Steps that count are what lies above one more such step. -/
theorem above?_concat {last : String} (h : ∀ step ∈ steps, isIdle step = false)
    (hl : isIdle last = false) : above? (steps ++ [last]) = some steps := by
  have kept : dropIdle (steps ++ [last]) = steps ++ [last] := by
    refine dropIdle_eq_self fun step hs ↦ ?_
    rcases List.mem_append.mp hs with hs | hs
    · exact h step hs
    · exact List.mem_singleton.mp hs ▸ hl
  rw [above?, kept]
  split
  · next none => simp at none
  · rw [List.dropLast_concat, dropIdle_eq_self h]

/-- How often one can go up from a path at most. -/
def height (path : Path) : Nat := 2 * path.components.length + if path.text = "" then 0 else 1

theorem height_lt_of_parent? (h : path.parent? = some up) : up.height < path.height := by
  unfold height
  rcases components_parent? h with ⟨last, counted⟩ | ⟨none, filled, rfl⟩
  · rw [counted, List.length_append, List.length_singleton]
    split <;> split <;> omega
  · rw [none, if_neg filled]
    exact Nat.zero_lt_one

end Path

/-! ### Where one can stand -/

namespace FileSystem

/-- The name of something that lies in a directory. -/
structure IsName (name : String) : Prop where
  slash : '/' ∉ name.toList
  null : '\x00' ∉ name.toList
  idle : Path.isIdle name = false
  up : name ≠ ".."
  short : name.utf8ByteSize ≤ maxNameLength

instance : DecidablePred IsName := fun name ↦
  decidable_of_iff ('/' ∉ name.toList ∧ '\x00' ∉ name.toList ∧ Path.isIdle name = false ∧
      name ≠ ".." ∧ name.utf8ByteSize ≤ maxNameLength)
    ⟨fun ⟨slash, null, idle, up, short⟩ ↦ ⟨slash, null, idle, up, short⟩,
      fun h ↦ ⟨h.slash, h.null, h.idle, h.up, h.short⟩⟩

/-- The location lies in directories all the way down. -/
structure Hangs (files : FileSystem) (place : Location) : Prop where
  names : ∀ name ∈ place, IsName name
  above : ∀ above, above <+: place → above ≠ place → files.node? above = some .directory

/-- The location can be the working directory: it is a directory itself. -/
structure Stands (files : FileSystem) (place : Location) : Prop extends Hangs files place where
  directory : files.node? place = some .directory

variable {files : FileSystem} {place start : Location} {name : String} {path : Path}

theorem move_name (h : IsName name) (place : Location) : move place name = place ++ [name] := by
  rw [move, h.idle, if_neg Bool.false_ne_true, if_neg h.up]

theorem Hangs.root (files : FileSystem) : files.Hangs [] :=
  ⟨List.forall_mem_nil _, fun _ h hn ↦ absurd (List.prefix_nil.mp h) hn⟩

namespace Stands

theorem root (files : FileSystem) : files.Stands [] := ⟨.root files, rfl⟩

theorem node?_of_prefix (h : files.Stands place) {above : Location} (ha : above <+: place) :
    files.node? above = some .directory := by
  by_cases same : above = place
  · exact same ▸ h.directory
  · exact h.above above ha same

theorem of_prefix (h : files.Stands place) {above : Location} (ha : above <+: place) :
    files.Stands above where
  names name hn := h.names name (ha.subset hn)
  above _ hb _ := h.node?_of_prefix (hb.trans ha)
  directory := h.node?_of_prefix ha

/-- What is called by a name in a directory lies in directories. -/
theorem hangs_concat (h : files.Stands place) (hn : IsName name) :
    files.Hangs (place ++ [name]) where
  names other ho := by
    rcases List.mem_append.mp ho with ho | ho
    · exact h.names other ho
    · exact List.mem_singleton.mp ho ▸ hn
  above above ha hne := h.node?_of_prefix ((List.prefix_concat_iff.mp ha).resolve_left hne)

end Stands

/-- From somewhere in directories, steps that can be followed lead to somewhere in directories. -/
theorem Hangs.of_follow {steps : List String} (h : files.Hangs start)
    (hs : ∀ step ∈ steps, '/' ∉ step.toList ∧ '\x00' ∉ step.toList)
    (hf : files.follow start steps = .ok place) : files.Hangs place := by
  induction steps generalizing start with
  | nil =>
    cases hf
    exact h
  | cons step steps ih =>
    rw [List.forall_mem_cons] at hs
    obtain ⟨folder, short, rest⟩ := follow_cons_eq_ok_iff.mp hf
    have stands : files.Stands start := ⟨h, folder⟩
    refine ih ?_ hs.2 rest
    unfold move
    split
    · exact h
    · next counts =>
      split
      · exact (stands.of_prefix (List.dropLast_prefix _)).toHangs
      · next down =>
        exact stands.hangs_concat ⟨hs.1.1, hs.1.2, by simpa using counts, down, short⟩

/-- A directory that a path leads to from the working directory can be the working directory. -/
theorem Stands.of_locate (h : files.Stands files.current) (hl : files.locate path = .ok place)
    (hd : files.node? place = some .directory) : files.Stands place := by
  obtain ⟨⟨clean, -, -⟩, followed⟩ := locate_eq_ok_iff.mp hl
  have start : files.Hangs (files.origin path) := by
    unfold origin
    split
    · exact .root files
    · exact h.toHangs
  refine ⟨start.of_follow (fun step hs ↦ ⟨Path.slash_notMem_of_mem_steps hs, fun null ↦ ?_⟩)
    followed, hd⟩
  have inside := (Path.of_mem_steps hs _ null).2
  rw [← List.contains_iff_mem, clean] at inside
  cases inside

/-- The names of what lies in directories can be followed. -/
theorem Hangs.follow_eq (h : files.Hangs place) : files.follow [] place = .ok place := by
  have steps (back : List String) : ∀ front : Location, front ++ back = place →
      files.follow front back = .ok place := by
    induction back with
    | nil =>
      intro front hp
      rw [follow, ← hp, List.append_nil]
    | cons name back ih =>
      intro front hp
      have named : IsName name := h.names name (hp ▸ by simp)
      have folder : files.node? front = some .directory := by
        refine h.above front ⟨_, hp⟩ fun same ↦ ?_
        simp [← hp] at same
      refine follow_cons_eq_ok_iff.mpr ⟨folder, named.short, ?_⟩
      rw [move_name named]
      exact ih _ (by rw [List.append_assoc, List.singleton_append, hp])
  exact steps place [] rfl

/-! ### Reading -/

/-- A file is read where its path leads. -/
theorem read_eq (h : files.locate path = .ok place) :
    files.read path =
      match files.node? place with
      | some (.text content) => .ok content
      | some .directory => .error .isADirectory
      | some (.picture _) => .error .invalidData
      | none => .error .notFound := by
  simp only [read, look, h, bind, Except.bind]
  cases files.node? place with
  | none => rfl
  | some node => cases node <;> rfl

theorem read_eq_ok_iff {text : String} (h : files.locate path = .ok place) :
    files.read path = .ok text ↔ files.node? place = some (.text text) := by
  rw [read_eq h]
  cases files.node? place with
  | none => simp
  | some node => cases node <;> simp

end FileSystem

end Manuscript
