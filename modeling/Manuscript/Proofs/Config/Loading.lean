import Manuscript.Config.Load

/-!
# What a loaded configuration says

However the text of a configuration file is read and the variables in its settings are replaced
(`Config.Reader`), each setting of a configuration that is loaded is the one that was put over it,
or else the one of the file, or else the default; and the last values are those that were checked.
-/

namespace Manuscript

namespace Config

/-- How the text of a configuration file is read, and how the variables in a setting are
replaced. -/
structure Reader where
  parse : String → Except ConfigError ConfigFile
  expand : Environment → String → Except String String

namespace Reader

/-- The reader that configurations are loaded with. -/
def standard : Reader := ⟨ConfigFile.parse, Expansion.expand⟩

/-! ### Loading with a reader -/

variable (reader : Reader)

/-- Replace the variables in a setting, if it is there. -/
def expandSetting (environment : Environment) (field : String) (setting : Option String) :
    Except ConfigError (Option String) :=
  match setting with
  | none => .ok none
  | some text =>
    match reader.expand environment text with
    | .ok expanded => .ok (some expanded)
    | .error name => .error (.unsetVariable field name)

/-- The configuration in a text, seen from a directory. -/
def ofText (environment : Environment) (text : String) (base : Path) :
    Except ConfigError Config := do
  let file ← reader.parse text
  let directory ← reader.expandSetting environment ConfigError.directoryField file.directory
  let stem ← reader.expandSetting environment ConfigError.stemField file.stem
  (resolve file base directory stem).validate

/-- The configuration in a file. -/
def ofPath (files : FileSystem) (environment : Environment) (path : Path) :
    Except ConfigError Config :=
  match files.read path with
  | .error error => .error (.io error)
  | .ok text =>
    (reader.ofText environment text (path.parent?.getD ⟨"."⟩)).map ({ · with source := some path })

/-- The configuration without overrides. -/
def loadFile (files : FileSystem) (environment : Environment) (path : Option Path) :
    Except ConfigError Config :=
  match path with
  | some path =>
    if files.has path then reader.ofPath files environment path else .error (.notFound path)
  | none =>
    match discover files with
    | some path => reader.ofPath files environment path
    | none => .ok (byDefault (absolutePath files.current))

/-- The configuration with overrides. -/
def load (files : FileSystem) (environment : Environment) (path : Option Path)
    (overrides : Option Overrides) : Except ConfigError Config := do
  let config ← reader.loadFile files environment path
  match overrides with
  | none => return config
  | some values => (config.override values).validate

theorem ofText_standard : standard.ofText = Config.ofText := rfl

theorem load_standard : standard.load = Config.load := rfl

end Reader

/-! ### Where the values come from -/

/-- The value is what stands in the file, with its variables replaced, or the default. -/
def Reader.Reads (reader : Reader) (environment : Environment) (setting : Option String)
    (default value : String) : Prop :=
  match setting with
  | none => value = default
  | some text => reader.expand environment text = .ok value

/-- The configuration is the one that a file sets, seen from a directory. -/
structure Reader.Sets (reader : Reader) (environment : Environment) (file : ConfigFile)
    (base : Path) (config : Config) : Prop where
  dpi : config.dpi = file.dpi.getD 96
  format : config.format = file.format.getD .png
  model : config.model = file.model.getD .rgb
  directory : ∃ text, reader.Reads environment file.directory "out" text ∧
    config.directory = base.join text
  stem : reader.Reads environment file.stem "index" config.stem
  humanReadable : config.humanReadable = file.humanReadable.getD true

/-- The file that is loaded and the directory that it is seen from. Where no path is named and no
file is found, it is as if an empty one lay in the working directory. -/
inductive Reader.Finds (reader : Reader) (files : FileSystem) (path : Option Path) :
    ConfigFile → Path → Prop where
  | file {found : Path} {text : String} {file : ConfigFile} :
    path = some found ∨ path = none ∧ discover files = some found →
      files.read found = .ok text → reader.parse text = .ok file →
      Reader.Finds reader files path file (found.parent?.getD ⟨"."⟩)
  | nothing : path = none → discover files = none →
    Reader.Finds reader files path {} (absolutePath files.current)

/-- The values pass the checks. -/
structure Checked (config : Config) : Prop where
  dpi : Settings.dpiInRange config.dpi = true
  stem : config.stem ≠ ""
  bare : isBareName config.stem = true

/-- The configuration comes of the first one by putting values over it, and is checked again. -/
def Overridden (overrides : Option Overrides) (first config : Config) : Prop :=
  match overrides with
  | none => config = first
  | some values => config = first.override values ∧ config.Checked

theorem validate_eq_ok_iff {config found : Config} :
    config.validate = .ok found ↔ found = config ∧ config.Checked := by
  unfold validate
  split
  · next low => exact ⟨nofun, fun h ↦ by rw [h.2.dpi] at low; cases low⟩
  · next range =>
    split
    · next empty => exact ⟨nofun, fun h ↦ absurd empty h.2.stem⟩
    · next filled =>
      split
      · next slashed => exact ⟨nofun, fun h ↦ by rw [h.2.bare] at slashed; cases slashed⟩
      · next bare =>
        have checked : config.Checked := ⟨by simpa using range, filled, by simpa using bare⟩
        exact ⟨fun h ↦ ⟨(Except.ok.inj h).symm, checked⟩, fun h ↦ by rw [h.1]⟩

theorem Checked.withSource {config : Config} (h : config.Checked) (source : Option Path) :
    Checked { config with source } := ⟨h.dpi, h.stem, h.bare⟩

theorem checked_byDefault (base : Path) : (byDefault base).Checked :=
  ⟨(by decide : Settings.dpiInRange 96 = true), (by decide : "index" ≠ ""),
    (by decide : isBareName "index" = true)⟩

namespace Reader

variable {reader : Reader} {environment : Environment} {config : Config} {files : FileSystem}
  {path : Option Path}

theorem reads_of_expandSetting {field : String} {setting expanded : Option String}
    (h : reader.expandSetting environment field setting = .ok expanded) (default : String) :
    reader.Reads environment setting default (expanded.getD default) := by
  unfold expandSetting at h
  split at h
  · cases h
    rfl
  · split at h
    · next he =>
      cases h
      exact he
    · cases h

/-- A text sets the values that it holds, if they pass the checks. -/
theorem of_ofText {text : String} {base : Path}
    (h : reader.ofText environment text base = .ok config) : config.Checked ∧
      ∃ file, reader.parse text = .ok file ∧ reader.Sets environment file base config := by
  unfold ofText at h
  simp only [bind, Except.bind] at h
  split at h
  · cases h
  · next file parsed =>
    split at h
    · cases h
    · next directory hd =>
      split at h
      · cases h
      · next stem hs =>
        obtain ⟨rfl, checked⟩ := validate_eq_ok_iff.mp h
        exact ⟨checked, file, parsed, rfl, rfl, rfl, ⟨_, reads_of_expandSetting hd "out", rfl⟩,
          reads_of_expandSetting hs "index", rfl⟩

theorem Sets.withSource {file : ConfigFile} {base : Path}
    (h : reader.Sets environment file base config) (source : Option Path) :
    reader.Sets environment file base { config with source } :=
  ⟨h.dpi, h.format, h.model, h.directory, h.stem, h.humanReadable⟩

theorem expandSetting_of_reads {setting : Option String} {default value : String}
    (h : reader.Reads environment setting default value) (field : String) :
    ∃ expanded, reader.expandSetting environment field setting = .ok expanded ∧
      expanded.getD default = value := by
  cases setting with
  | none => exact ⟨none, rfl, h.symm⟩
  | some text =>
    refine ⟨some value, ?_, rfl⟩
    have expanded : reader.expand environment text = .ok value := h
    rw [expandSetting, expanded]

/-- What a text sets is what it is read as, if it passes the checks. -/
theorem Sets.ofText_eq {text : String} {file : ConfigFile} {base : Path}
    (h : reader.Sets environment file base config) (parsed : reader.parse text = .ok file)
    (checked : config.Checked) (unsourced : config.source = none) :
    reader.ofText environment text base = .ok config := by
  obtain ⟨_, written, placed⟩ := h.directory
  obtain ⟨directory, hd, rfl⟩ := expandSetting_of_reads written ConfigError.directoryField
  obtain ⟨stem, hs, named⟩ := expandSetting_of_reads h.stem ConfigError.stemField
  have resolved : resolve file base directory stem = config := by
    cases config
    cases unsourced
    rw [resolve, Config.mk.injEq]
    exact ⟨h.dpi.symm, h.format.symm, h.model.symm, placed.symm, named, h.humanReadable.symm, rfl⟩
  simp only [ofText, parsed, hd, hs, resolved, bind, Except.bind]
  exact validate_eq_ok_iff.mpr ⟨rfl, checked⟩

/-- A file is loaded if it can be read, and what it sets passes the checks. -/
theorem ofPath_eq_ok_iff {found : Path} : reader.ofPath files environment found = .ok config ↔
    config.source = some found ∧ config.Checked ∧ ∃ text file, files.read found = .ok text ∧
      reader.parse text = .ok file ∧
        reader.Sets environment file (found.parent?.getD ⟨"."⟩) config := by
  constructor
  · intro h
    unfold ofPath at h
    split at h
    · cases h
    · next text read =>
      cases ht : reader.ofText environment text (found.parent?.getD ⟨"."⟩) with
      | error error =>
        rw [ht] at h
        cases h
      | ok first =>
        rw [ht] at h
        cases h
        obtain ⟨checked, file, parsed, sets⟩ := of_ofText ht
        exact ⟨rfl, checked.withSource _, text, file, read, parsed, sets.withSource _⟩
  · rintro ⟨source, checked, text, file, read, parsed, sets⟩
    have first := (sets.withSource none).ofText_eq parsed (checked.withSource none) rfl
    rw [ofPath, read]
    simp only [first, Except.map, ← source]

/-- A file sets the values that its text holds, if they pass the checks. -/
theorem of_ofPath {found : Path} (h : reader.ofPath files environment found = .ok config)
    (named : path = some found ∨ path = none ∧ discover files = some found) :
    config.Checked ∧ ∃ file base, reader.Finds files path file base ∧
      reader.Sets environment file base config := by
  obtain ⟨_, checked, text, file, read, parsed, sets⟩ := ofPath_eq_ok_iff.mp h
  exact ⟨checked, file, _, .file named read parsed, sets⟩

/-- Without overrides, each value is that of the file or the default. -/
theorem of_loadFile (h : reader.loadFile files environment path = .ok config) :
    config.Checked ∧ ∃ file base, reader.Finds files path file base ∧
      reader.Sets environment file base config := by
  unfold loadFile at h
  split at h
  · split at h
    · exact of_ofPath h (.inl rfl)
    · cases h
  · split at h
    · next found hd => exact of_ofPath h (.inr ⟨rfl, hd⟩)
    · next hd =>
      cases h
      exact ⟨checked_byDefault _, {}, _, .nothing rfl hd, rfl, rfl, rfl, ⟨"out", rfl, rfl⟩, rfl,
        rfl⟩

theorem load_eq_ok_iff {overrides : Option Overrides} :
    reader.load files environment path overrides = .ok config ↔
      ∃ first, reader.loadFile files environment path = .ok first ∧
        Overridden overrides first config := by
  unfold load
  cases reader.loadFile files environment path with
  | error error => simp [bind, Except.bind]
  | ok first =>
    cases overrides with
    | none => simp [bind, Except.bind, pure, Except.pure, Overridden, eq_comm]
    | some values =>
      simp only [bind, Except.bind, validate_eq_ok_iff, Overridden, Except.ok.injEq,
        exists_eq_left']
      exact ⟨fun ⟨same, checked⟩ ↦ ⟨same, same ▸ checked⟩,
        fun ⟨same, checked⟩ ↦ ⟨same, same ▸ checked⟩⟩

/-- What is put over a configuration is checked again. -/
theorem of_load {overrides : Option Overrides}
    (h : reader.load files environment path overrides = .ok config) : config.Checked ∧
      ∃ first, reader.loadFile files environment path = .ok first ∧
        config = first.override (overrides.getD {}) := by
  obtain ⟨first, hl, changed⟩ := load_eq_ok_iff.mp h
  cases overrides with
  | none =>
    cases changed
    exact ⟨(of_loadFile hl).1, _, hl, rfl⟩
  | some values => exact ⟨changed.2, first, hl, changed.1⟩

/-- Empty overrides are none. -/
theorem load_empty (reader : Reader) (files : FileSystem) (environment : Environment)
    (path : Option Path) :
    reader.load files environment path (some {}) = reader.load files environment path none := by
  unfold load
  cases hl : reader.loadFile files environment path with
  | error error => rfl
  | ok first =>
    change (first.override {}).validate = .ok first
    exact validate_eq_ok_iff.mpr ⟨rfl, (of_loadFile hl).1⟩

end Reader

end Config

end Manuscript
