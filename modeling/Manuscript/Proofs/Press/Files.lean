import Manuscript.Proofs.Press.FileNames
import Manuscript.Proofs.Press.Staff

/-!
# Files that a press makes

Documents whose contexts have bare stems, all of them different (`Press.Apart`), do not get in each
other's way, whichever directories they write into. Whatever a press makes has a name that nothing
it has made before has (`Press.Filed.step`), so nothing that is there is written over but style
sheets, and a file that cannot be made because it is there has been there from the start.
-/

namespace Manuscript

namespace Context

variable {context : Context} {label : Option String}

/-- What the path of a file leads to bears its name. -/
theorem getLast?_of_locate {files : FileSystem} {place : Location}
    (bare : Config.isBareName context.stem = true) (hl : IsFileLabel label)
    (located : files.locate (context.filePath label) = .ok place) :
    place.getLast? = (context.filePath label).fileName? := by
  rw [context.fileName?_filePath bare hl]
  exact FileSystem.getLast?_of_locate_join (isPlain_fileName bare hl) located

end Context

namespace Press

variable {initial press next : Press} {order : Order} {paths made : List Path} {place : Location}
  {context : Context} {label : Option String}

/-! ### Style sheets -/

/-- A style sheet of some context lies at the place. -/
def IsSheet (press : Press) (place : Location) : Prop :=
  ∃ context ∈ press.contexts, ∃ resource ∈ Xhtml.backend.resources,
    press.files.locate (context.directory.join resource.name) = .ok place

/-- No file of a context lies at the place of a style sheet. -/
theorem not_isSheet {files : FileSystem} (press : Press)
    (bare : Config.isBareName context.stem = true) (hl : IsFileLabel label)
    (located : files.locate (context.filePath label) = .ok place) : ¬ press.IsSheet place := by
  rintro ⟨other, -, resource, hr, sheet⟩
  have last := context.getLast?_of_locate bare hl located
  rw [FileSystem.getLast?_of_locate_join (Context.isPlain_resource resource hr).1 sheet,
    context.fileName?_filePath bare hl] at last
  exact context.fileName_ne_resource label hr (Option.some.inj last).symm

/-! ### What has been made -/

/-- The file at the path is the output file or an image of a context that has made its document, and
as long as that is open, it has counted the float of the image. -/
def Numbered (press : Press) (path : Path) : Prop :=
  ∃ context ∈ press.contexts, context.created = true ∧ ∃ label, path = context.filePath label ∧
    ∀ number ∈ label, ∃ n, FigureNumber n number ∧
      ∀ d ∈ press.documents, d.stem = context.stem → n ≤ d.figures

/-- What is numbered stays so while the contexts stay and open documents count on. -/
theorem Numbered.mono {path : Path} (h : press.Numbered path)
    (contexts : ∀ context ∈ press.contexts, context.created = true → context ∈ next.contexts)
    (documents : ∀ context ∈ press.contexts, context.created = true →
      ∀ d ∈ next.documents, d.stem = context.stem →
        ∃ e ∈ press.documents, e.stem = context.stem ∧ e.figures ≤ d.figures) :
    next.Numbered path := by
  obtain ⟨context, hc, created, label, same, hl⟩ := h
  refine ⟨context, contexts context hc created, created, label, same, fun number hm ↦ ?_⟩
  obtain ⟨n, hn, most⟩ := hl number hm
  refine ⟨n, hn, fun d hd stem ↦ ?_⟩
  obtain ⟨e, he, stem', le⟩ := documents context hc created d hd stem
  exact (most e he stem').trans le

/-- The context makes a file of this label next. -/
inductive Next (press : Press) (context : Context) : Option String → Prop where
  | document : context.created = false → Next press context none
  | image {d : Document} {number : String} : d ∈ press.documents → d.stem = context.stem →
    FigureNumber (d.figures + 1) number → Next press context (some number)

theorem Next.isFileLabel (h : press.Next context label) : IsFileLabel label := by
  cases h with
  | document _ => exact isFileLabel_none
  | image _ _ hn => exact isFileLabel_some hn

/-- The press has made the files at the paths since it was `initial`, all of different names, and
has written over nothing but style sheets. -/
structure Filed (initial : Press) (made : List Path) (press : Press) : Prop
    extends Staffed initial press where
  orderly : ∀ d ∈ press.documents, d.Orderly
  placed : ∀ d ∈ press.documents, initial.files.node? d.place = none ∧
    ¬ initial.IsSheet d.place ∧ ∃ content, press.files.node? d.place = some (.text content)
  accounts : FileSystem.Accounts initial.IsSheet initial.files made press.files
  numbered : ∀ path ∈ made, press.Numbered path
  distinct : (made.map Path.fileName?).Nodup

namespace Filed

variable (h : Filed initial made press)

include h

/-- What has been made is the output file or an image of a context that was there from the start. -/
theorem exists_context {path : Path} (hp : path ∈ made) :
    ∃ context ∈ initial.contexts, path = context.documentPath Xhtml.backend ∨
      ∃ n number, FigureNumber n number ∧
        path = context.directory.join (context.stem ++ "-figure" ++ number ++ "." ++
          context.settings.format.extension) := by
  obtain ⟨owner, ho, -, label, rfl, hl⟩ := h.numbered path hp
  obtain ⟨context, hc, same⟩ := h.exists_initial ho
  simp only [Context.origin, Prod.mk.injEq] at same
  refine ⟨context, hc, ?_⟩
  rw [Context.filePath, ← same.1]
  cases label with
  | none =>
    rw [Context.fileName, ← same.2.1]
    exact .inl rfl
  | some number =>
    obtain ⟨n, hn, -⟩ := hl number rfl
    rw [Context.fileName, ← same.2.1, ← same.2.2]
    exact .inr ⟨n, number, hn, rfl⟩

/-- Nothing is made where the open documents or style sheets are written. -/
theorem rewritten (contexts : press.contexts = next.contexts) (staffed : Staffed initial next)
    (fewer : ∀ d ∈ next.documents, d ∈ press.documents) (touched : Location → Prop)
    (spares : press.files.Spares touched next.files)
    (ht : ∀ place, touched place → initial.IsSheet place ∨
      ∃ d ∈ press.documents, d.place = place ∧
        ∃ content, next.files.node? place = some (.text content)) :
    Filed initial made next where
  toStaffed := staffed
  orderly d hd := h.orderly d (fewer d hd)
  placed d hd := by
    obtain ⟨nothing, other, content, there⟩ := h.placed d (fewer d hd)
    refine ⟨nothing, other, ?_⟩
    by_cases hp : touched d.place
    · rcases ht d.place hp with sheet | ⟨-, -, -, text⟩
      · exact absurd sheet other
      · exact text
    · exact ⟨content, (spares.elsewhere d.place hp).trans there⟩
  accounts := by
    refine h.accounts.spares spares fun place hp ↦ (ht place hp).imp_right ?_
    rintro ⟨d, hd, rfl, -⟩
    obtain ⟨nothing, -, content, there⟩ := h.placed d hd
    rw [there]
    exact ⟨nothing, nofun⟩
  numbered path hp := (h.numbered path hp).mono (fun _ hc _ ↦ contexts ▸ hc)
    fun _ _ _ d hd stem ↦ ⟨d, fewer d hd, stem, Nat.le_refl _⟩
  distinct := h.distinct

/-- Style sheets are installed where style sheets of the contexts lie. -/
theorem spares_install (hc : context ∈ press.contexts) {files : FileSystem}
    {touched : Location → Prop} (hs : press.files.Spares touched files) :
    files.Spares initial.IsSheet
      (installResources context.directory Xhtml.backend.resources files).2 := by
  refine (FileSystem.spares_installResources _ _ _).mono fun place ⟨resource, hr, hl⟩ ↦ ?_
  obtain ⟨first, hf, same⟩ := h.exists_initial hc
  rw [← show first.directory = context.directory from congrArg Prod.fst same] at hl
  exact ⟨first, hf, resource, hr,
    h.accounts.locate_eq_ok_iff.mp (hs.locate_eq_ok_iff.mp hl)⟩

/-- A document that is given up or closed writes its own file, and style sheets if it is closed. -/
theorem spares_ended {d : Document} (hd : d ∈ press.documents) {content : String}
    {files : FileSystem} (hf : files = press.files.put d.place (.text content) ∨
      files = (installResources d.directory Xhtml.backend.resources
        (press.files.put d.place (.text content))).2) :
    press.files.Spares (fun place ↦ place = d.place ∨ initial.IsSheet place) files ∧
      files.node? d.place = some (.text content) := by
  obtain ⟨nothing, other, old, there⟩ := h.placed d hd
  have below : d.place ≠ [] := fun root ↦ by rw [root] at nothing; cases nothing
  have put : press.files.Spares (· = d.place) (press.files.put d.place (.text content)) :=
    FileSystem.spares_put (by rw [there]; exact nofun) nofun
  have own := FileSystem.node?_put press.files (.text content) below
  rcases hf with rfl | rfl
  · exact ⟨put.mono fun _ ↦ .inl, own⟩
  · obtain ⟨owner, ho, -, owns⟩ := h.owned d hd
    rw [owns.directory]
    have install := h.spares_install ho put
    exact ⟨(put.mono fun _ ↦ .inl).trans (install.mono fun _ ↦ .inr),
      (install.elsewhere d.place other).trans own⟩

/-- A document that is given up or closed leaves its own file with what it has written. -/
theorem ended {serial : Nat} {d : Document} (hd : d ∈ press.documents) {content : String}
    {files : FileSystem} (hf : files = press.files.put d.place (.text content) ∨
      files = (installResources d.directory Xhtml.backend.resources
        (press.files.put d.place (.text content))).2) :
    Filed initial made (press.release serial files) := by
  obtain ⟨spares, own⟩ := h.spares_ended hd hf
  refine h.rewritten rfl (h.toStaffed.release serial files)
    (fun _ hm ↦ List.filter_sublist.subset hm) _ spares fun place hp ↦ ?_
  rcases hp with rfl | sheet
  · exact .inr ⟨d, hd, rfl, content, own⟩
  · exact .inl sheet

/-- Nothing that is there is written over, but for style sheets, and the file of a document when it
is closed or given up. -/
theorem node?_step (hs : press.Step Xhtml.backend order paths next)
    (there : press.files.node? place ≠ none) (other : ¬ initial.IsSheet place) :
    next.files.node? place = press.files.node? place ∨
      ∃ serial d, (order = .close serial ∨ order = .drop serial) ∧
        press.document? serial = some d ∧ d.place = place := by
  cases hs with
  | idle => exact .inl rfl
  | installed hc =>
    have unchanged : press.files.Spares (fun _ ↦ False) press.files := .refl press.files
    exact .inl ((h.spares_install (List.mem_of_getElem? hc) unchanged).elsewhere place other)
  | created _ _ hf => exact .inl ((FileSystem.makes_create hf nofun).node?_eq there)
  | called _ draws => exact .inl (draws.files.node?_eq there)
  | @closed serial d _ _ hd hf =>
    by_cases own : d.place = place
    · exact .inr ⟨serial, d, .inl rfl, hd, own⟩
    · refine .inl ((h.spares_ended (mem_of_document? hd).1 hf).1.elsewhere place ?_)
      exact not_or.mpr ⟨Ne.symm own, other⟩
  | @dropped serial d _ hd =>
    by_cases own : d.place = place
    · exact .inr ⟨serial, d, .inr rfl, hd, own⟩
    · refine .inl ((h.spares_ended (mem_of_document? hd).1 (.inl rfl)).1.elsewhere place ?_)
      exact not_or.mpr ⟨Ne.symm own, other⟩

/-- Open documents keep their files while others are made. -/
theorem placed_of_makes {paths : List Path} {files : FileSystem}
    (makes : press.files.Makes paths files) {d : Document} (hd : d ∈ press.documents) :
    initial.files.node? d.place = none ∧ ¬ initial.IsSheet d.place ∧
      ∃ content, files.node? d.place = some (.text content) := by
  obtain ⟨nothing, other, content, there⟩ := h.placed d hd
  have same := makes.node?_eq (by rw [there]; exact nofun)
  exact ⟨nothing, other, content, same.trans there⟩

section Called

variable {d : Document} {numbers : List String} {t : Session} (hd : d ∈ press.documents)
  (draws : (⟨d, press.files⟩ : Session).Draws numbers t)

include hd draws

/-- Open documents keep their files while the images of a float are stored. -/
theorem placed_called {e : Document} (he : e ∈ (press.keep t).documents) :
    initial.files.node? e.place = none ∧ ¬ initial.IsSheet e.place ∧
      ∃ content, t.files.node? e.place = some (.text content) := by
  rcases mem_keep he with rfl | ⟨he, -⟩
  · rw [show t.document.place = d.place from congrArg (·.2.2.2.2) draws.origin]
    exact h.placed_of_makes draws.files hd
  · exact h.placed_of_makes draws.files he

/-- When images of a float are stored, they are numbered with all that has been made. -/
theorem numbered_called (serial : t.document.serial = d.serial) {image : Path}
    (hi : image ∈ made ++ numbers.map d.imagePath) : (press.keep t).Numbered image := by
  obtain ⟨owner, ho, created, owns⟩ := h.owned d hd
  have owns' := owns.of_origin_eq draws.origin
  rcases List.mem_append.mp hi with hi | hi
  · have grown : d.figures ≤ t.document.figures := by
      rcases draws.figures with ⟨same, -⟩ | more
      · exact Nat.le_of_eq same.symm
      · exact Nat.le_of_lt (more ▸ Nat.lt_succ_self d.figures)
    refine (h.numbered image hi).mono (fun _ hc _ ↦ hc) fun other _ _ e he stem ↦ ?_
    rcases mem_keep he with rfl | ⟨he, -⟩
    · exact ⟨d, hd, owns.stem.trans (owns'.stem.symm.trans stem), grown⟩
    · exact ⟨e, he, stem, Nat.le_refl _⟩
  · obtain ⟨number, hn, rfl⟩ := List.mem_map.mp hi
    refine ⟨owner, ho, created, some number,
      owner.imagePath_eq owns.settings owns.directory owns.stem number, ?_⟩
    rintro _ ⟨⟩
    refine ⟨_, draws.numbered number hn, fun e he stem ↦ ?_⟩
    rcases mem_keep he with rfl | ⟨he, hs⟩
    · rcases draws.figures with ⟨-, none⟩ | more
      · rw [none] at hn
        cases hn
      · exact Nat.le_of_eq more.symm
    · -- Another document has another stem.
      have same : e = d := List.inj_on_of_nodup_map h.stems he hd (stem.trans owns.stem.symm)
      exact absurd (same ▸ serial.symm) hs

end Called

variable (ha : initial.Apart)

include ha

/-- A place to which the path of something made leads bears its name. -/
theorem getLast?_of_locate {files : FileSystem} {path : Path} (hp : path ∈ made)
    (located : files.locate path = .ok place) : place.getLast? = path.fileName? := by
  obtain ⟨owner, ho, -, label, rfl, hl⟩ := h.numbered path hp
  exact owner.getLast?_of_locate ((h.apart ha).bare owner ho)
    (fun number hm ↦ (hl number hm).imp fun _ ↦ And.left) located

/-- What is made next has another name than anything made before. -/
theorem fileName?_ne (hc : context ∈ press.contexts) (hn : press.Next context label) {path : Path}
    (hp : path ∈ made) : path.fileName? ≠ (context.filePath label).fileName? := by
  have apart := h.apart ha
  obtain ⟨owner, ho, created, label', rfl, hl⟩ := h.numbered path hp
  have valid : IsFileLabel label' := fun number hm ↦ (hl number hm).imp fun _ ↦ And.left
  intro same
  obtain ⟨stem, rfl⟩ := owner.fileName?_filePath_inj (apart.bare owner ho)
    (apart.bare context hc) valid hn.isFileLabel same
  cases hn with
  | document fresh =>
    rw [apart.eq_of_stem_eq ho hc stem, fresh] at created
    cases created
  | @image d number hd hs hn =>
    obtain ⟨n, hn', most⟩ := hl number rfl
    have le := most d hd (hs.trans stem.symm)
    rw [hn'.inj hn] at le
    exact Nat.not_succ_le_self _ le

/-- With what a context makes next, all names are still different. -/
theorem distinct_append (hc : context ∈ press.contexts) {labels : List (Option String)}
    (hn : ∀ label ∈ labels, press.Next context label) (nodup : labels.Nodup) :
    ((made ++ labels.map context.filePath).map Path.fileName?).Nodup := by
  have bare := (h.apart ha).bare context hc
  rw [List.map_append, List.nodup_append]
  refine ⟨h.distinct, ?_, fun name hm new hs ↦ ?_⟩
  · rw [List.map_map]
    refine List.Nodup.map_on (fun label hl label' hl' same ↦ ?_) nodup
    exact (context.fileName?_filePath_inj bare bare (hn label hl).isFileLabel
      (hn label' hl').isFileLabel same).2
  · obtain ⟨path, hp, rfl⟩ := List.mem_map.mp hm
    obtain ⟨_, next, rfl⟩ := List.mem_map.mp hs
    obtain ⟨label, hl, rfl⟩ := List.mem_map.mp next
    exact h.fileName?_ne ha hc (hn label hl) hp

/-- What is made next is there only if it has been there from the start. -/
theorem has_initial (hc : context ∈ press.contexts) (hn : press.Next context label)
    (has : press.files.has (context.filePath label) = true) :
    initial.files.has (context.filePath label) = true := by
  have bare := (h.apart ha).bare context hc
  obtain ⟨place, located, there⟩ := FileSystem.has_iff.mp has
  rcases h.accounts.covered place there with first | sheet | ⟨path, hp, hl⟩
  · exact FileSystem.has_iff.mpr ⟨place, h.accounts.locate_eq_ok_iff.mp located, first⟩
  · exact absurd sheet (not_isSheet initial bare hn.isFileLabel located)
  · refine absurd ?_ (h.fileName?_ne ha hc hn hp)
    rw [← h.getLast?_of_locate ha hp hl,
      ← context.getLast?_of_locate bare hn.isFileLabel located]

/-- When a context makes its document, the output file is numbered with all that has been made. -/
theorem numbered_created {position : Nat} (hc : press.contexts[position]? = some context)
    (fresh : context.created = false)
    (contexts : next.contexts = press.contexts.set position { context with created := true })
    (documents : next.documents = press.documents ++
      [context.document (context.documentPath Xhtml.backend) place press.made])
    {path : Path} (hp : path ∈ made ++ [context.documentPath Xhtml.backend]) :
    next.Numbered path := by
  rcases List.mem_append.mp hp with hp | hp
  · refine (h.numbered path hp).mono
      (fun _ ho created ↦ contexts ▸ mem_contexts_set hc fresh ho created) ?_
    intro owner ho created d hd stem
    rw [documents] at hd
    rcases List.mem_append.mp hd with hd | hd
    · exact ⟨d, hd, stem, Nat.le_refl _⟩
    · -- The new document is not one of an owner, whose context has made its document before.
      rw [List.mem_singleton.mp hd] at stem
      rw [← (h.apart ha).eq_of_stem_eq (List.mem_of_getElem? hc) ho stem, fresh] at created
      cases created
  · obtain ⟨hi, rfl⟩ := List.getElem?_eq_some_iff.mp hc
    rw [List.mem_singleton.mp hp]
    have listed : ({ press.contexts[position] with created := true } : Context) ∈
        next.contexts := by
      rw [contexts]
      exact List.mem_set hi _
    exact ⟨_, listed, rfl, none, rfl, nofun⟩

/-- A context that makes its document makes the output file. -/
theorem created {position : Nat} {files : FileSystem}
    (hc : press.contexts[position]? = some context) (fresh : context.created = false)
    (hf : press.files.create (context.documentPath Xhtml.backend) (.text "") = .ok (place, files))
    {press' : Press} (hp : press' = { press with
      contexts := press.contexts.set position { context with created := true }
      documents := press.documents ++
        [context.document (context.documentPath Xhtml.backend) place press.made]
      made := press.made + 1
      files }) (staffed : Staffed initial press') :
    Filed initial (made ++ [context.documentPath Xhtml.backend]) press' := by
  subst hp
  have listed := List.mem_of_getElem? hc
  have makes := FileSystem.makes_create hf nofun
  obtain ⟨located, nothing, rfl⟩ := FileSystem.create_eq_ok_iff.mp hf
  have below : place ≠ [] := fun root ↦ by rw [root] at nothing; cases nothing
  refine { toStaffed := staffed, orderly := ?_, placed := ?_, accounts := h.accounts.makes makes,
           numbered := fun _ ↦ h.numbered_created ha hc fresh rfl rfl, distinct := ?_ }
  · intro d hd
    rcases List.mem_append.mp hd with hd | hd
    · exact h.orderly d hd
    · rw [List.mem_singleton.mp hd]
      exact context.orderly_document _ _ _
  · intro d hd
    rcases List.mem_append.mp hd with hd | hd
    · exact h.placed_of_makes makes hd
    · rw [List.mem_singleton.mp hd]
      exact ⟨h.accounts.eq_none nothing,
        not_isSheet initial ((h.apart ha).bare context listed) isFileLabel_none located, "",
        FileSystem.node?_put _ _ below⟩
  · rw [context.documentPath_eq, ← List.map_singleton]
    refine h.distinct_append ha listed (fun label hl ↦ ?_) (List.nodup_singleton _)
    rw [List.mem_singleton.mp hl]
    exact .document fresh

/-- A call stores the images of the next float. -/
theorem called {d : Document} {call : Call} {numbers : List String} (hd : d ∈ press.documents)
    (draws : (⟨d, press.files⟩ : Session).Draws numbers
      ((⟨d, press.files⟩ : Session).perform Xhtml.backend call).2)
    {t : Session} (ht : t = ((⟨d, press.files⟩ : Session).perform Xhtml.backend call).2)
    (staffed : Staffed initial (press.keep t)) :
    Filed initial (made ++ numbers.map d.imagePath) (press.keep t) := by
  have serial : t.document.serial = d.serial := by
    rw [ht, Session.serial_perform]
  have orderly : t.document.Orderly := by
    rw [ht]
    exact (h.orderly d hd).perform Xhtml.backend call
  rw [← ht] at draws
  refine { toStaffed := staffed, orderly := ?_, placed := fun _ ↦ h.placed_called hd draws,
           accounts := h.accounts.makes draws.files,
           numbered := fun _ ↦ h.numbered_called hd draws serial, distinct := ?_ }
  · intro e he
    rcases mem_keep he with rfl | ⟨he, -⟩
    · exact orderly
    · exact h.orderly e he
  · obtain ⟨owner, ho, -, owns⟩ := h.owned d hd
    have path : d.imagePath = owner.filePath ∘ some :=
      funext (owner.imagePath_eq owns.settings owns.directory owns.stem)
    rw [path, ← List.map_map]
    refine h.distinct_append ha ho (fun label hl ↦ ?_)
      (draws.nodup.map fun _ _ ↦ Option.some.inj)
    obtain ⟨number, hn, rfl⟩ := List.mem_map.mp hl
    exact .image hd owns.stem (draws.numbered number hn)

/-- What a step makes bears new names. -/
theorem step (hs : press.Step Xhtml.backend order paths next) :
    Filed initial (made ++ paths) next := by
  have staffed := h.toStaffed.step ha hs
  have unchanged : press.files.Spares (fun _ ↦ False) press.files := .refl press.files
  cases hs with
  | idle =>
    rw [List.append_nil]
    exact h.rewritten rfl staffed (fun _ ↦ id) _ unchanged fun _ ↦ False.elim
  | installed hc =>
    rw [List.append_nil]
    exact h.rewritten rfl staffed (fun _ ↦ id) initial.IsSheet
      (h.spares_install (List.mem_of_getElem? hc) unchanged) fun _ ↦ .inl
  | created hc fresh hf => exact h.created ha hc fresh hf rfl staffed
  | called hd draws => exact h.called ha (mem_of_document? hd).1 draws rfl staffed
  | closed hd hf =>
    rw [List.append_nil]
    exact h.ended (mem_of_document? hd).1 hf
  | dropped hd =>
    rw [List.append_nil]
    exact h.ended (mem_of_document? hd).1 (.inl rfl)

/-- Whatever comes to be there but style sheets is what the step makes. -/
theorem exists_of_step (hs : press.Step Xhtml.backend order paths next)
    (nothing : press.files.node? place = none) (there : next.files.node? place ≠ none)
    (other : ¬ initial.IsSheet place) : ∃ path ∈ paths, initial.files.locate path = .ok place := by
  rcases (h.step ha hs).accounts.covered place there with first | sheet | ⟨path, hp, hl⟩
  · exact absurd (h.accounts.eq_none nothing) first
  · exact absurd sheet other
  · refine ⟨path, (List.mem_append.mp hp).resolve_left fun hm ↦ ?_, hl⟩
    obtain ⟨place', located, -, before⟩ := h.accounts.made path hm
    cases hl.symm.trans located
    exact before nothing

/-- What a call has not stored itself was there before the call. -/
theorem has_before {d : Document} (hd : d ∈ press.documents) {numbers : List String} {t : Session}
    (draws : (⟨d, press.files⟩ : Session).Draws numbers t) {number : String}
    (hn : FigureNumber (d.figures + 1) number) (new : number ∉ numbers)
    (has : t.files.has (d.imagePath number) = true) :
    press.files.has (d.imagePath number) = true := by
  obtain ⟨owner, ho, -, owns⟩ := h.owned d hd
  have bare := (h.apart ha).bare owner ho
  have path (number : String) : d.imagePath number = owner.filePath (some number) :=
    owner.imagePath_eq owns.settings owns.directory owns.stem number
  obtain ⟨place, located, there⟩ := FileSystem.has_iff.mp has
  refine FileSystem.has_iff.mpr ⟨place, draws.files.locate_eq_ok_iff.mp located, ?_⟩
  intro nothing
  refine there ((draws.files.elsewhere place ?_).trans nothing)
  rintro ⟨_, hm, stored⟩
  obtain ⟨number', listed, rfl⟩ := List.mem_map.mp hm
  have valid := isFileLabel_some hn
  have valid' := isFileLabel_some (draws.numbered number' listed)
  have last : place.getLast? = _ := owner.getLast?_of_locate bare valid (path number ▸ located)
  have last' : place.getLast? = _ :=
    owner.getLast?_of_locate bare valid' ((path number').symm ▸ stored)
  obtain ⟨-, same⟩ := owner.fileName?_filePath_inj bare bare valid valid' (last.symm.trans last')
  exact new (Option.some.inj same ▸ listed)

/-- An image that cannot be stored because its file is there was there from the start. -/
theorem has_image {serial : Nat} {kind : Kind} (hr : (press.perform Xhtml.backend
      (.call serial (.endElement kind))).1 = .error (.io .alreadyExists)) :
    ∃ d number, press.document? serial = some d ∧ FigureNumber (d.figures + 1) number ∧
      initial.files.has (d.imagePath number) = true := by
  obtain ⟨d, hd, refused⟩ := exists_of_call_error hr
  have listed := (mem_of_document? hd).1
  obtain ⟨numbers, draws, taken⟩ :=
    Session.taken_of_perform Xhtml.backend (h.orderly d listed) refused
  obtain ⟨number, hn, new, has⟩ := taken rfl
  obtain ⟨owner, ho, -, owns⟩ := h.owned d listed
  refine ⟨d, number, hd, hn, ?_⟩
  have before := h.has_before ha listed draws hn new has
  rw [owner.imagePath_eq owns.settings owns.directory owns.stem] at before ⊢
  exact h.has_initial ha ho (.image listed owns.stem hn) before

/-- An output file that cannot be made because it is there was there from the start. -/
theorem has_document {position : Nat} (hr : (press.perform Xhtml.backend
      (.createDocument position)).1 = .error (.io .alreadyExists)) :
    ∃ context ∈ press.contexts,
      initial.files.has (context.documentPath Xhtml.backend) = true := by
  obtain ⟨context, listed, refused⟩ := exists_of_createDocument_error hr
  obtain ⟨fresh, taken⟩ := Context.createDocument_eq_io refused
  refine ⟨context, listed, ?_⟩
  rw [context.documentPath_eq] at taken ⊢
  exact h.has_initial ha listed (.document fresh) (FileSystem.create_eq_alreadyExists_iff.mp taken)

end Filed

/-! ### Runs -/

/-- A press without open documents has made nothing. -/
theorem filed_refl (press : Press) (fresh : press.documents = []) : Filed press [] press := by
  have none {holds : Document → Prop} : ∀ d ∈ press.documents, holds d := by
    rw [fresh]
    exact fun _ hd ↦ absurd hd List.not_mem_nil
  have nodup {α : Type} {f : Document → α} : (press.documents.map f).Nodup := by
    rw [fresh]
    exact List.nodup_nil
  exact { contexts := rfl, serials := nodup, below := none, stems := nodup, owned := none,
          orderly := none, placed := none, accounts := .refl press.files,
          numbered := fun _ hp ↦ absurd hp List.not_mem_nil, distinct := List.nodup_nil }

/-- Whatever a press makes has a name of its own. -/
theorem Filed.run (h : Filed initial made press) (ha : initial.Apart) {orders : List Order}
    (work : ∀ order ∈ orders, order.keepsContexts = true) :
    Filed initial (made ++ press.yieldsAll Xhtml.backend orders)
      (press.run Xhtml.backend orders) := by
  induction orders generalizing press made with
  | nil =>
    rw [yieldsAll, List.append_nil]
    exact h
  | cons order orders ih =>
    rw [List.forall_mem_cons] at work
    rw [yieldsAll, ← List.append_assoc]
    exact ih (h.step ha (step_perform Xhtml.backend press work.1)) work.2

/-- No existing file is overwritten. Whatever lies in the file system at first, and whatever
documents of contexts with bare and different stems are made, called, closed and given up on it:
what was there is there in the end but for style sheets; what is there at any time, also if it has
been made by then, is changed by no later order but the end of the document whose output file it
is; and whatever comes to be there has been made under a name that nothing else made has, that of
an output file or of an image of one of the contexts. So an image or an output file that cannot be
made as it exists was there from the start. -/
theorem files_run (press : Press) (orders : List Order) (fresh : press.documents = [])
    (stems : (press.contexts.map Context.stem).Nodup)
    (bare : ∀ context ∈ press.contexts, Config.isBareName context.stem = true)
    (work : ∀ order ∈ orders, order.keepsContexts = true) :
    let sheet (place : Location) := ∃ context ∈ press.contexts,
      ∃ name ∈ ["screen.css", "print.css"],
        press.files.locate (context.directory.join name) = .ok place
    let final := press.run Xhtml.backend orders
    let made := press.yieldsAll Xhtml.backend orders
    (∀ place node, press.files.node? place = some node → ¬ sheet place →
      final.files.node? place = some node) ∧
    (∀ before order after, orders = before ++ order :: after →
      let p := press.run Xhtml.backend before
      let q := (p.perform Xhtml.backend order).2
      (∀ place node, p.files.node? place = some node → ¬ sheet place →
        q.files.node? place = some node ∨
          ∃ serial d, (order = .close serial ∨ order = .drop serial) ∧
            p.document? serial = some d ∧ d.place = place) ∧
      (∀ place, p.files.node? place = none → q.files.node? place ≠ none → ¬ sheet place →
        ∃ path ∈ p.yields Xhtml.backend order, press.files.locate path = .ok place) ∧
      (∀ serial kind, order = .call serial (.endElement kind) →
        (p.perform Xhtml.backend order).1 = .error (.io .alreadyExists) →
        ∃ d number, p.document? serial = some d ∧ FigureNumber (d.figures + 1) number ∧
          press.files.has (d.directory.join (d.imageName number)) = true) ∧
      (∀ position, order = .createDocument position →
        (p.perform Xhtml.backend order).1 = .error (.io .alreadyExists) →
        ∃ context ∈ p.contexts,
          press.files.has (context.documentPath Xhtml.backend) = true)) ∧
    (made.map Path.fileName?).Nodup ∧
    ∀ path ∈ made,
      (∃ context ∈ press.contexts, path = context.documentPath Xhtml.backend ∨
        ∃ n number, FigureNumber n number ∧
          path = context.directory.join (context.stem ++ "-figure" ++ number ++ "." ++
            context.settings.format.extension)) ∧
      ∃ place, press.files.locate path = .ok place ∧ place.getLast? = path.fileName? ∧
        press.files.node? place = none ∧ final.files.node? place ≠ none := by
  intro sheet final made
  have apart : press.Apart := ⟨stems, bare⟩
  have start := press.filed_refl fresh
  have sheets (place : Location) (h : press.IsSheet place) : sheet place := by
    obtain ⟨context, hc, resource, hr, hl⟩ := h
    exact ⟨context, hc, resource.name, List.mem_map_of_mem hr, hl⟩
  have filed : press.Filed made final := start.run apart work
  refine ⟨fun place node there other ↦ ?_, fun before order after split ↦ ?_, filed.distinct,
    fun path hp ↦ ?_⟩
  · refine (filed.accounts.elsewhere place ?_).trans there
    rintro (nothing | written)
    · rw [nothing] at there
      cases there
    · exact other (sheets place written)
  · intro p q
    rw [split] at work
    have earlier : press.Filed (press.yieldsAll Xhtml.backend before) p :=
      start.run apart fun order ho ↦ work order (List.mem_append_left _ ho)
    have step : p.Step Xhtml.backend order (p.yields Xhtml.backend order) q :=
      p.step_perform Xhtml.backend (work order (List.mem_append_right _ List.mem_cons_self))
    refine ⟨fun place node there other ↦ ?_, fun place nothing there other ↦ ?_, ?_, ?_⟩
    · refine (earlier.node?_step step (by rw [there]; exact nofun) ?_).imp_left (·.trans there)
      exact fun written ↦ other (sheets place written)
    · exact earlier.exists_of_step apart step nothing there fun written ↦
        other (sheets place written)
    · rintro serial kind rfl refused
      exact earlier.has_image apart refused
    · rintro position rfl refused
      exact earlier.has_document apart refused
  · obtain ⟨place, located, nothing, there⟩ := filed.accounts.made path hp
    exact ⟨filed.exists_context hp, place, located, filed.getLast?_of_locate apart hp located,
      nothing, there⟩

/-- A document of the stem `index` draws its first figure while the file `index-figure1.png` is
there already, and another document has the stem `index-figure1`. -/
theorem files_run_figure :
    let press : Press :=
      { contexts := [⟨⟨"/"⟩, "index", {}, false⟩, ⟨⟨"/"⟩, "index-figure1", {}, false⟩]
        files := { entries := [(["index-figure1.png"], .text "mine")] } }
    let orders : List Order := [.createDocument 0, .createDocument 1,
      .call 0 (.beginElement .header), .call 0 (.endElement .header),
      .call 0 (.beginElement .body), .call 0 (.beginElement (.figure none)),
      .call 0 (.beginElement (.figureBody 10 10)), .call 0 (.paint []),
      .call 0 (.endElement .figureBody), .call 0 (.endElement .figure),
      .call 0 (.endElement .body), .close 0, .drop 1]
    press.documents = [] ∧ (press.contexts.map Context.stem).Nodup ∧
    (∀ context ∈ press.contexts, Config.isBareName context.stem = true) ∧
    (∀ order ∈ orders, order.keepsContexts = true) ∧
    (press.run Xhtml.backend orders).files.node? ["index-figure1.png"] = some (.text "mine") ∧
    ((press.yieldsAll Xhtml.backend orders).map Path.fileName?).Nodup := by
  intro press orders
  have stems : (press.contexts.map Context.stem).Nodup := by decide
  have bare : ∀ context ∈ press.contexts, Config.isBareName context.stem = true := by decide
  have work : ∀ order ∈ orders, order.keepsContexts = true := by
    simp only [orders, List.forall_mem_cons, Order.keepsContexts, true_and]
    exact fun _ h ↦ absurd h List.not_mem_nil
  have other : ∀ context ∈ press.contexts, ∀ name ∈ ["screen.css", "print.css"],
      press.files.locate (context.directory.join name) = .ok [name] := by
    simp only [press, List.forall_mem_cons, List.not_mem_nil, false_implies, implies_true,
      and_true]
    decide +kernel
  obtain ⟨kept, -, distinct, -⟩ := files_run press orders rfl stems bare work
  refine ⟨rfl, stems, bare, work, kept _ _ (by decide) ?_, distinct⟩
  rintro ⟨context, hc, name, hn, located⟩
  rw [other context hc name hn] at located
  cases located
  revert hn
  decide

end Press

end Manuscript
