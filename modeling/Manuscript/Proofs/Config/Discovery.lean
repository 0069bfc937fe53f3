import Manuscript.Proofs.Config.Absolute
import Manuscript.Proofs.Config.Loading
import Manuscript.Proofs.Storage.Making
import Mathlib.Data.List.Induction
import Mathlib.Logic.ExistsUnique

/-!
# Which configuration file is found

A configuration that is loaded without naming a file comes from the nearest one: that of the deepest
directory that has one, among the working directory and those above it (`Config.Nearest`). No other
file counts, so a nearest file that is broken is a fault. The defaults are taken only where there is
none (`Config.load_nearest`).
-/

namespace Manuscript

open FileSystem (IsName Stands)

namespace Config

variable {files : FileSystem} {start place : Location} {name text : String}

/-! ### Directories with a file -/

/-- The path of the configuration file of a directory. -/
def filePath (place : Location) : Path := absolutePath (place ++ [fileName])

/-- The directory has a configuration file, or something else of that name, and the path to it is
not too long for the system. -/
structure Holds (files : FileSystem) (place : Location) : Prop where
  there : files.node? (place ++ [fileName]) ≠ none
  short : (filePath place).text.utf8ByteSize ≤ FileSystem.maxPathLength

theorem isName_fileName : IsName fileName := by decide

theorem join_fileName (h : files.Stands place) :
    (absolutePath place).join fileName = filePath place := join_absolutePath h.names (by decide)

theorem locate_filePath (h : files.Stands place) (holds : Holds files place) :
    files.locate (filePath place) = .ok (place ++ [fileName]) :=
  locate_absolutePath (h.hangs_concat isName_fileName) (by simp) holds.short

/-- A directory has a configuration file just if the path of the file names something. -/
theorem has_filePath_iff (h : files.Stands place) :
    files.has (filePath place) = true ↔ Holds files place := by
  rw [FileSystem.has_iff]
  constructor
  · rintro ⟨found, located, there⟩
    have short := (FileSystem.locate_eq_ok_iff.mp located).1.2.1
    rw [filePath, locate_absolutePath (h.hangs_concat isName_fileName) (by simp) short] at located
    cases located
    exact ⟨there, short⟩
  · intro holds
    exact ⟨_, locate_filePath h holds, holds.there⟩

/-! ### The search -/

/-- The way of the search: it looks into a directory, and if there is no configuration file it goes
on with the parent, till it is in a directory that has no parent. -/
inductive Searches (files : FileSystem) : Path → Option Path → Prop where
  | here {directory : Path} : files.has (directory.join fileName) = true →
    Searches files directory (some (directory.join fileName))
  | above {directory parent : Path} {found : Option Path} :
    files.has (directory.join fileName) = false → directory.parent? = some parent →
      Searches files parent found → Searches files directory found
  | nowhere {directory : Path} : files.has (directory.join fileName) = false →
    directory.parent? = none → Searches files directory none

namespace Searches

variable {directory : Path} {found found' : Option Path}

theorem unique (h : Searches files directory found) (h' : Searches files directory found') :
    found = found' := by
  induction h with
  | here there =>
    cases h' with
    | here => rfl
    | above absent | nowhere absent =>
      rw [there] at absent
      cases absent
  | above absent up _ ih =>
    cases h' with
    | here there =>
      rw [absent] at there
      cases there
    | above _ up' rest =>
      rw [up] at up'
      cases up'
      exact ih rest
    | nowhere _ top =>
      rw [up] at top
      cases top
  | nowhere absent top =>
    cases h' with
    | here there =>
      rw [absent] at there
      cases there
    | above _ up =>
      rw [top] at up
      cases up
    | nowhere => rfl

/-- The search ends, wherever it starts: the way up does. -/
theorem exists_found (files : FileSystem) (directory : Path) :
    ∃ found, Searches files directory found := by
  cases there : files.has (directory.join fileName) with
  | true => exact ⟨_, .here there⟩
  | false =>
    cases up : directory.parent? with
    | none => exact ⟨_, .nowhere there up⟩
    | some parent =>
      have shorter : parent.height < directory.height := Path.height_lt_of_parent? up
      obtain ⟨found, rest⟩ := exists_found files parent
      exact ⟨found, .above there up rest⟩
  termination_by directory.height

end Searches

theorem upward_concat (place : Location) (name : String) :
    upward (place ++ [name]) = (place ++ [name]) :: upward place := by
  have rest : ∀ n ∈ (List.range (place.length + 1)).reverse,
      (place ++ [name]).take n = place.take n := by
    intro n hn
    rw [List.mem_reverse, List.mem_range] at hn
    exact List.take_append_of_le_length (Nat.le_of_lt_succ hn)
  rw [upward, List.length_append, List.length_singleton, List.range_succ, List.reverse_append,
    List.reverse_singleton, List.singleton_append, List.map_cons, List.map_congr_left rest,
    List.take_of_length_le (by simp)]
  rfl

/-- The path that is discovered going up from a location. -/
def discoverFrom (files : FileSystem) (start : Location) : Option Path :=
  ((upward start).map fun place ↦ (absolutePath place).join fileName).find? files.has

theorem discoverFrom_concat (h : files.Stands (start ++ [name])) :
    discoverFrom files (start ++ [name]) =
      if files.has (filePath (start ++ [name])) then some (filePath (start ++ [name]))
      else discoverFrom files start := by
  rw [discoverFrom, upward_concat, List.map_cons, join_fileName h, List.find?_cons]
  split
  · next there => rw [if_pos there]
  · next absent =>
    rw [if_neg (by rw [absent]; exact Bool.false_ne_true)]
    rfl

theorem discoverFrom_nil (files : FileSystem) : discoverFrom files [] =
    if files.has (filePath []) then some (filePath []) else none := by
  change [filePath []].find? files.has = _
  rw [List.find?_cons]
  cases files.has (filePath []) <;> rfl

/-- What is discovered is what the search finds. -/
theorem searches_discoverFrom (h : files.Stands start) :
    Searches files (absolutePath start) (discoverFrom files start) := by
  induction start using List.reverseRecOn with
  | nil =>
    rw [discoverFrom_nil, ← join_fileName h]
    split
    · next there => exact .here there
    · next absent => exact .nowhere (eq_false_of_ne_true absent) parent?_absolutePath_nil
  | append_singleton start name ih =>
    rw [discoverFrom_concat h, ← join_fileName h]
    split
    · next there => exact .here there
    · next absent =>
      exact .above (eq_false_of_ne_true absent) (parent?_absolutePath h.names)
        (ih (h.of_prefix (List.prefix_append _ _)))

/-- The directory is the deepest one at or above `start` that has a configuration file. -/
structure Nearest (files : FileSystem) (start place : Location) : Prop where
  above : place <+: start
  holds : Holds files place
  deepest : ∀ other, other <+: start → Holds files other → other.length ≤ place.length

/-- The nearest file is discovered, if there is one. -/
theorem discoverFrom_cases (h : files.Stands start) :
    (∃ place, Nearest files start place ∧ discoverFrom files start = some (filePath place)) ∨
      (∀ place, place <+: start → ¬ Holds files place) ∧ discoverFrom files start = none := by
  induction start using List.reverseRecOn with
  | nil =>
    rw [discoverFrom_nil]
    split
    · next there =>
      have holds := (has_filePath_iff h).mp there
      exact .inl ⟨[], ⟨List.prefix_refl _, holds, fun other ho _ ↦ ho.length_le⟩, rfl⟩
    · next absent =>
      refine .inr ⟨fun place hp holds ↦ absent ?_, rfl⟩
      exact (has_filePath_iff h).mpr (List.prefix_nil.mp hp ▸ holds)
  | append_singleton start name ih =>
    rw [discoverFrom_concat h]
    split
    · next there =>
      have holds := (has_filePath_iff h).mp there
      exact .inl ⟨_, ⟨List.prefix_refl _, holds, fun other ho _ ↦ ho.length_le⟩, rfl⟩
    · next absent =>
      have further {other : Location} (ho : other <+: start ++ [name])
          (holds : Holds files other) : other <+: start :=
        (List.prefix_concat_iff.mp ho).resolve_left fun same ↦
          absent ((has_filePath_iff h).mpr (same ▸ holds))
      rcases ih (h.of_prefix (List.prefix_append _ _)) with
        ⟨place, nearest, found⟩ | ⟨lacking, found⟩
      · exact .inl ⟨place, ⟨nearest.above.trans (List.prefix_append _ _), nearest.holds,
          fun other ho holds ↦ nearest.deepest other (further ho holds) holds⟩, found⟩
      · exact .inr ⟨fun place hp holds ↦ lacking place (further hp holds) holds, found⟩

theorem Nearest.unique {place' : Location} (h : Nearest files start place)
    (h' : Nearest files start place') : place = place' :=
  (List.prefix_of_prefix_length_le h.above h'.above (h'.deepest place h.above h.holds)).eq_of_length
    (Nat.le_antisymm (h'.deepest place h.above h.holds) (h.deepest place' h'.above h'.holds))

theorem Nearest.discoverFrom_eq (h : files.Stands start) (nearest : Nearest files start place) :
    discoverFrom files start = some (filePath place) := by
  rcases discoverFrom_cases h with ⟨found, nearest', same⟩ | ⟨lacking, -⟩
  · rw [same, nearest.unique nearest']
  · exact absurd nearest.holds (lacking place nearest.above)

/-! ### What is loaded -/

namespace Reader

variable {reader : Reader} {environment : Environment} {config : Config}

/-- The configuration that a working directory gives: what the nearest file sets, seen from its
directory, or the defaults, seen from the working directory, where there is no file. -/
inductive Loads (reader : Reader) (files : FileSystem) (environment : Environment) :
    Config → Prop where
  | file {place : Location} {text : String} {file : ConfigFile} {config : Config} :
    Nearest files files.current place → files.node? (place ++ [fileName]) = some (.text text) →
      reader.parse text = .ok file → reader.Sets environment file (absolutePath place) config →
        config.Checked → config.source = some (filePath place) →
          Loads reader files environment config
  | nothing : (∀ place, place <+: files.current → ¬ Holds files place) →
    Loads reader files environment (byDefault (absolutePath files.current))

/-- Where there is a nearest file, it is the one that is loaded. -/
theorem loadFile_eq_ofPath (h : files.Stands files.current)
    (nearest : Nearest files files.current place) :
    reader.loadFile files environment none = reader.ofPath files environment (filePath place) := by
  have found : discover files = some (filePath place) := nearest.discoverFrom_eq h
  rw [loadFile, found]

theorem loadFile_eq_ok_iff (h : files.Stands files.current) :
    reader.loadFile files environment none = .ok config ↔
      reader.Loads files environment config := by
  rcases discoverFrom_cases h with ⟨place, nearest, -⟩ | ⟨lacking, found⟩
  · have stands := h.of_prefix nearest.above
    have parent : (filePath place).parent?.getD ⟨"."⟩ = absolutePath place := by
      rw [filePath, parent?_absolutePath (stands.hangs_concat isName_fileName).names,
        Option.getD_some]
    rw [loadFile_eq_ofPath h nearest, ofPath_eq_ok_iff, parent]
    simp only [FileSystem.read_eq_ok_iff (locate_filePath stands nearest.holds)]
    constructor
    · rintro ⟨source, checked, text, file, read, parsed, sets⟩
      exact .file nearest read parsed sets checked source
    · intro loads
      cases loads with
      | file nearest' read parsed sets checked source =>
        obtain rfl := nearest'.unique nearest
        exact ⟨source, checked, _, _, read, parsed, sets⟩
      | nothing lacking => exact absurd nearest.holds (lacking place nearest.above)
  · have absent : discover files = none := found
    rw [loadFile, absent]
    constructor
    · intro same
      cases same
      exact .nothing lacking
    · intro loads
      cases loads with
      | file nearest => exact absurd nearest.holds (lacking _ nearest.above)
      | nothing => rfl

end Reader

/-- Loading without naming a file takes the nearest one, and no other. The search for it ends,
wherever it starts. Loading succeeds just if the nearest file can be read and what it sets passes
the checks, or there is none and the defaults are taken. So it fails where the nearest file is
broken, as it does when that file is named, and nothing but the nearest file counts. Directories
that are relative lie below that of the file, and the default one below the working directory. -/
theorem load_nearest (reader : Reader) (files : FileSystem) (h : files.Stands files.current)
    (environment : Environment) (overrides : Option Overrides) :
    Reader.standard.load = load ∧
    ((∀ directory, ∃! found, Searches files directory found) ∧
      Searches files (absolutePath files.current) (discover files)) ∧
    ((∀ config, reader.load files environment none overrides = .ok config ↔
        ∃ first, reader.Loads files environment first ∧ Overridden overrides first config) ∧
      ((∀ first, ¬ reader.Loads files environment first) →
        ∃ error, reader.load files environment none overrides = .error error)) ∧
    (∀ place, Nearest files files.current place →
      files.locate (filePath place) = .ok (place ++ [fileName]) ∧
      reader.load files environment none overrides =
        reader.load files environment (some (filePath place)) overrides ∧
      ∀ files' : FileSystem, files'.current = files.current → files'.Stands files'.current →
        Nearest files' files'.current place →
          files'.node? (place ++ [fileName]) = files.node? (place ++ [fileName]) →
            reader.load files' environment none overrides =
              reader.load files environment none overrides) ∧
    (∀ place text, place <+: files.current → (Path.mk text).isAbsolute = false →
      ((absolutePath place).join text).isAbsolute = true ∧
        ((absolutePath place).join text).components = place ++ (Path.mk text).components) ∧
    (byDefault (absolutePath files.current)).directory =
      absolutePath (files.current ++ ["out"]) := by
  have loaded (config : Config) : reader.load files environment none overrides = .ok config ↔
      ∃ first, reader.Loads files environment first ∧ Overridden overrides first config := by
    rw [Reader.load_eq_ok_iff]
    simp only [Reader.loadFile_eq_ok_iff h]
  refine ⟨Reader.load_standard, ⟨fun directory ↦ ?_, searches_discoverFrom h⟩,
    ⟨loaded, fun lacking ↦ ?_⟩, ?_, ?_,
    join_absolutePath h.names (show (Path.mk "out").isAbsolute = false by decide)⟩
  · obtain ⟨found, search⟩ := Searches.exists_found files directory
    exact ⟨found, search, fun other search' ↦ search'.unique search⟩
  · cases answer : reader.load files environment none overrides with
    | error error => exact ⟨error, rfl⟩
    | ok config =>
      obtain ⟨first, loads, _⟩ := (loaded config).mp answer
      exact absurd loads (lacking first)
  · intro place nearest
    have stands := h.of_prefix nearest.above
    have located := locate_filePath stands nearest.holds
    have named : reader.loadFile files environment (some (filePath place)) =
        reader.ofPath files environment (filePath place) := by
      rw [Reader.loadFile, if_pos ((has_filePath_iff stands).mpr nearest.holds)]
    refine ⟨located, ?_, fun files' _ h' nearest' same ↦ ?_⟩
    · rw [Reader.load, Reader.load, Reader.loadFile_eq_ofPath h nearest, named]
    · have located' := locate_filePath (h'.of_prefix nearest'.above) nearest'.holds
      have read : files'.read (filePath place) = files.read (filePath place) := by
        rw [FileSystem.read_eq located, FileSystem.read_eq located', same]
      rw [Reader.load, Reader.load, Reader.loadFile_eq_ofPath h nearest,
        Reader.loadFile_eq_ofPath h' nearest', Reader.ofPath, Reader.ofPath, read]
  · intro place text above relative
    have names := (h.of_prefix above).names
    rw [join_absolutePath names relative]
    exact ⟨isAbsolute_absolutePath _, components_absolutePath_concat names text⟩

/-- A file in a directory above the working directory, and a broken one further up. -/
def nestedFiles : FileSystem where
  entries := [(["quill.toml"], .text "broken["), (["home"], .directory),
    (["home", "quill.toml"], .text "[output]\ndirectory = \"site\"\n"),
    (["home", "work"], .directory)]
  current := ["home", "work"]

/-- The nearer file is taken, whatever is wrong with the other one, and as if it had been named. It
is no way out where the broken one is the nearest. -/
theorem load_nearest_nested :
    nestedFiles.Stands nestedFiles.current ∧ Nearest nestedFiles nestedFiles.current ["home"] ∧
    load nestedFiles [] none none =
      .ok { directory := ⟨"/home/site"⟩, source := some ⟨"/home/quill.toml"⟩ } ∧
    load nestedFiles [] none none = load nestedFiles [] (some ⟨"/home/quill.toml"⟩) none ∧
    ∀ config, load { nestedFiles with current := [] } [] none none ≠ .ok config := by
  have home : nestedFiles.Stands ["home"] :=
    ⟨(Stands.root _).hangs_concat (by decide), by decide⟩
  have work : nestedFiles.Stands ["home", "work"] := ⟨home.hangs_concat (by decide), by decide⟩
  have nearest : Nearest nestedFiles ["home", "work"] ["home"] := by
    refine ⟨⟨["work"], rfl⟩, ⟨by decide, by decide⟩, fun other ho holds ↦ ?_⟩
    rcases List.prefix_concat_iff.mp (show other <+: ["home"] ++ ["work"] from ho) with rfl | ho
    · exact absurd (by decide) holds.there
    · exact ho.length_le
  obtain ⟨standard, -, -, found, -⟩ :=
    load_nearest Reader.standard nestedFiles work [] none
  obtain ⟨-, -, ⟨loaded, -⟩, -⟩ :=
    load_nearest Reader.standard { nestedFiles with current := [] } (Stands.root _) [] none
  rw [standard] at found loaded
  refine ⟨work, nearest, by decide +kernel, (found _ nearest).2.1, fun config h ↦ ?_⟩
  obtain ⟨first, loads, -⟩ := (loaded config).mp h
  cases loads with
  | file above read parsed =>
    obtain rfl := List.prefix_nil.mp above.above
    cases read
    have broken : Reader.standard.parse "broken[" = .error .parse := by decide +kernel
    rw [broken] at parsed
    cases parsed
  | nothing lacking => exact lacking [] (List.prefix_refl _) ⟨by decide, by decide⟩

end Config

end Manuscript
