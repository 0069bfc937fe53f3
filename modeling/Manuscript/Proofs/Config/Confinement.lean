import Manuscript.Press.Driver
import Manuscript.Proofs.Config.Loading
import Manuscript.Proofs.Press.FileNames
import Manuscript.Proofs.Press.Work

/-!
# Configurations are usable and confined

A configuration that has been checked suits a driver, and the documents that are made for it keep
their output file and their images in its directory (`Config.Usable`). Every configuration that is
loaded has been checked, whatever its values come from.
-/

namespace Manuscript

namespace Config

/-- The configuration suits a driver, and what is made for it lies in its directory. -/
structure Usable (config : Config) : Prop where
  dpi : Settings.minDpi ≤ config.dpi ∧ config.dpi ≤ Settings.maxDpi
  stem : config.stem ≠ "" ∧ '/' ∉ config.stem.toList ∧ '\\' ∉ config.stem.toList ∧
    config.stem ≠ "." ∧ config.stem ≠ ".."
  settings : config.settings.isValid = true
  driver : ∃ driver, Driver.ofConfig config = .ok driver
  output : ∀ (driver : Driver) (files made : FileSystem) (context : Context),
    driver.createContextFor config files = (.ok context, made) →
      (context.documentPath Xhtml.backend).IsChild config.directory
  images : ∀ (driver : Driver) (files made : FileSystem) (context : Context),
    driver.createContextFor config files = (.ok context, made) →
      ∀ (serial : Nat) (later : FileSystem) (s : Session) (used : Context) (calls : List Call),
        context.createDocument Xhtml.backend serial later = .ok (s, used) →
          ∀ path ∈ (s.run Xhtml.backend calls).document.images, path.IsChild config.directory

/-- A context for a configuration has its directory and its stem. -/
theorem eq_of_createContextFor {config : Config} {driver : Driver} {files made : FileSystem}
    {context : Context} (h : driver.createContextFor config files = (.ok context, made)) :
    context.directory = config.directory ∧ context.stem = config.stem := by
  unfold Driver.createContextFor Driver.createContext at h
  split at h
  next found made' hc =>
    split at hc
    · cases hc
      cases h
    · cases hc
      cases h
      exact ⟨rfl, rfl⟩

/-- What has been checked is usable. -/
theorem Checked.usable {config : Config} (h : config.Checked) : config.Usable := by
  have valid : config.settings.isValid = true := h.dpi
  have range := h.dpi
  rw [Settings.dpiInRange, Bool.and_eq_true, decide_eq_true_eq, decide_eq_true_eq] at range
  have confined {driver : Driver} {files made : FileSystem} {context : Context}
      (hc : driver.createContextFor config files = (.ok context, made)) {label : Option String}
      (hl : IsFileLabel label) : (context.filePath label).IsChild config.directory := by
    obtain ⟨directory, stem⟩ := eq_of_createContextFor hc
    rw [Context.filePath, directory]
    exact Path.isChild_join _ (Context.isPlain_fileName (stem ▸ h.bare) hl)
  refine ⟨range, ⟨h.stem, isBareName_iff.mp h.bare⟩, valid, ⟨⟨config.settings⟩, ?_⟩, ?_, ?_⟩
  · rw [Driver.ofConfig, Driver.configure, Driver.settingsError, if_pos valid]
  · intro driver files made context hc
    rw [context.documentPath_eq]
    exact confined hc isFileLabel_none
  · intro driver files made context hc serial later s used calls hd path hp
    obtain ⟨-, place, written, -, same⟩ := Context.createDocument_eq_ok hd
    obtain ⟨rfl, -⟩ := Prod.mk.inj same
    rcases Session.mem_images_run hp with earlier | ⟨n, number, hn, rfl⟩
    · exact absurd earlier List.not_mem_nil
    · rw [context.imagePath_eq rfl rfl rfl]
      exact confined hc (isFileLabel_some hn)

/-- A configuration that is loaded from a text or from a file is usable, however texts are read and
variables replaced. Each of its settings is the one that was put over it, or else that of the file
with its variables replaced, or else the default; and putting nothing over it changes nothing. -/
theorem usable_load (reader : Reader) :
    (Reader.standard.ofText = ofText ∧ Reader.standard.load = load) ∧
    (∀ environment text base config, reader.ofText environment text base = .ok config →
      config.Usable ∧
      ∃ file, reader.parse text = .ok file ∧ reader.Sets environment file base config) ∧
    (∀ files environment path overrides config,
      reader.load files environment path overrides = .ok config → config.Usable ∧
      ∃ file base first, reader.Finds files path file base ∧
        reader.Sets environment file base first ∧
        config.dpi = (overrides.bind Overrides.dpi).getD first.dpi ∧
        config.format = (overrides.bind Overrides.format).getD first.format ∧
        config.model = (overrides.bind Overrides.model).getD first.model ∧
        config.directory = (overrides.bind Overrides.directory).getD first.directory ∧
        config.stem = (overrides.bind Overrides.stem).getD first.stem ∧
        config.humanReadable =
          (overrides.bind Overrides.humanReadable).getD first.humanReadable) ∧
    ∀ files environment path,
      reader.load files environment path (some {}) = reader.load files environment path none := by
  refine ⟨⟨Reader.ofText_standard, Reader.load_standard⟩, ?_, ?_, reader.load_empty⟩
  · intro environment text base config h
    obtain ⟨checked, sets⟩ := Reader.of_ofText h
    exact ⟨checked.usable, sets⟩
  · intro files environment path overrides config h
    obtain ⟨checked, first, hl, rfl⟩ := Reader.of_load h
    obtain ⟨-, file, base, finds, sets⟩ := Reader.of_loadFile hl
    refine ⟨checked.usable, file, base, first, finds, sets, ?_⟩
    cases overrides <;> exact ⟨rfl, rfl, rfl, rfl, rfl, rfl⟩

/-- A file in the working directory names a variable in the stem, and its resolution gives way to
the one that is put over it. -/
theorem usable_load_discovered :
    let text := "[output]\nfile_stem = \"$\x7bNAME\x7d-final\"\n[images]\ndpi = 300\n"
    let files : FileSystem :=
      { entries := [(["home"], .directory), (["home", "quill.toml"], .text text)]
        current := ["home"] }
    let environment : Environment := [("NAME", "report")]
    let written : Config := { dpi := 300, directory := ⟨"/home/out"⟩, stem := "report-final" }
    let loaded : Config := { written with dpi := 600, source := some ⟨"/home/quill.toml"⟩ }
    ofText environment text ⟨"/home"⟩ = .ok written ∧ written.Usable ∧
    load files environment none (some { dpi := some 600 }) = .ok loaded ∧ loaded.Usable := by
  intro text files environment written loaded
  have fromText : ofText environment text ⟨"/home"⟩ = .ok written := by decide +kernel
  have fromFile : load files environment none (some { dpi := some 600 }) = .ok loaded := by
    decide +kernel
  obtain ⟨⟨sameText, sameLoad⟩, texts, loads, -⟩ := usable_load Reader.standard
  rw [sameText] at texts
  rw [sameLoad] at loads
  exact ⟨fromText, (texts _ _ _ _ fromText).1, fromFile, (loads _ _ _ _ _ fromFile).1⟩

end Config

end Manuscript
