import Manuscript.Proofs.Press.Staff

/-!
# Settings over time

Whatever a press is asked for, and whoever changes the files meanwhile, the settings of its driver
are the last valid ones that it was given. A context keeps those that the driver had when it was
opened, its document keeps those of the context, and a context makes one document at most.
-/

namespace Manuscript

/-- What happens around a press: it is given an order, or somebody else changes the files. -/
inductive Event where
  | order (order : Order)
  | outside (change : FileSystem → FileSystem)

namespace Order

/-- The settings that an order asks the driver to use from now on. -/
def settings? : Order → Option Settings
  | configure settings => some settings
  | reset => some {}
  | resetTo config => some config.settings
  | _ => none

/-- Whether an order asks for a new context. -/
def opens : Order → Bool
  | openContext _ | openContextFor _ => true
  | _ => false

end Order

namespace Press

variable (backend : Backend) {press : Press} {order : Order} {event : Event} {position : Nat}

/-- The press after an event. -/
def undergo (press : Press) : Event → Press
  | .order order => (press.perform backend order).2
  | .outside change => { press with files := change press.files }

/-- The press after events. -/
def undergoAll (press : Press) (events : List Event) : Press :=
  events.foldl (undergo backend) press

/-- The event is the order to make the document of a context, and it is accepted. -/
def Creates (press : Press) (event : Event) (position serial : Nat) : Prop :=
  event = .order (.createDocument position) ∧
    ∃ path, (press.perform backend (.createDocument position)).1 = .ok (.document serial path)

/-- The event is an order for a new context, and it is accepted. -/
def Opens (press : Press) (event : Event) : Prop :=
  ∃ order context, event = .order order ∧ order.opens = true ∧
    (press.perform backend order).1 = .ok (.context context)

/-- One of the events made the document of the context at a position. -/
def Created (press : Press) (events : List Event) (position serial : Nat) : Prop :=
  ∃ before event, before ++ [event] <+: events ∧
    (press.undergoAll backend before).Creates backend event position serial

/-- One of the events opened the context at a position, and the driver had these settings then. -/
def Opened (press : Press) (events : List Event) (position : Nat) (settings : Settings) : Prop :=
  ∃ before event, before ++ [event] <+: events ∧
    (press.undergoAll backend before).Opens backend event ∧
    (press.undergoAll backend before).contexts.length = position ∧
    (press.undergoAll backend before).driver.settings = settings

/-! ### The driver -/

/-- Settings are taken if they are valid; if not, the press stays as it was. -/
theorem perform_of_settings {settings : Settings} (h : order.settings? = some settings) :
    press.perform backend order =
      if settings.isValid then (.ok .done, { press with driver := { settings } })
      else (.error (.invalidSettings settings.dpi), press) := by
  have configured (driver : Driver) (settings : Settings) :
      press.takeDriver (driver.configure settings) =
        if settings.isValid then (.ok .done, { press with driver := { settings } })
        else (.error (.invalidSettings settings.dpi), press) := by
    unfold Driver.configure Driver.settingsError
    cases settings.isValid <;> rfl
  cases order <;> cases h
  case configure => exact configured press.driver _
  case reset => rfl
  case resetTo => exact configured {} _

theorem driver_addContext (made : Except DocumentError Context × FileSystem) :
    (press.addContext made).2.driver = press.driver := by
  unfold addContext
  split <;> rfl

theorem driver_withContext {act : Context → Except DocumentError Product × Press}
    (h : ∀ context, (act context).2.driver = press.driver) :
    (press.withContext position act).2.driver = press.driver := by
  unfold withContext
  split
  · exact h _
  · rfl

theorem driver_withDocument {serial : Nat} {act : Session → Except DocumentError Product × Press}
    (h : ∀ session, (act session).2.driver = press.driver) :
    (press.withDocument serial act).2.driver = press.driver := by
  unfold withDocument
  split
  · exact h _
  · rfl

/-- Other orders leave the driver. -/
theorem driver_perform (h : order.settings? = none) :
    (press.perform backend order).2.driver = press.driver := by
  cases order with
  | configure | reset | resetTo => cases h
  | openContext | openContextFor => exact driver_addContext _
  | rename => exact driver_withContext fun _ ↦ rfl
  | createDocument | install =>
    refine driver_withContext fun _ ↦ ?_
    split <;> rfl
  | call | close =>
    refine driver_withDocument fun _ ↦ ?_
    split <;> rfl
  | drop => exact driver_withDocument fun _ ↦ rfl

/-- The settings that the driver is given by events, whether they are valid or not. -/
def requested (events : List Event) : List Settings :=
  events.filterMap fun
    | .order order => order.settings?
    | .outside _ => none

theorem undergoAll_concat (events : List Event) (event : Event) :
    press.undergoAll backend (events ++ [event]) =
      (press.undergoAll backend events).undergo backend event := by
  rw [undergoAll, undergoAll, List.foldl_append]
  rfl

theorem settings_undergo (event : Event) : (press.undergo backend event).driver.settings =
    ((requested [event]).filter Settings.isValid).getLastD press.driver.settings := by
  cases event with
  | outside => rfl
  | order order =>
    rw [undergo]
    cases hs : order.settings? with
    | none =>
      rw [driver_perform backend hs]
      simp [requested, hs]
    | some settings =>
      rw [perform_of_settings backend hs]
      cases hv : settings.isValid <;> simp [requested, hs, hv]

/-- The driver has the last valid settings that it was given. -/
theorem settings_undergoAll (events : List Event) :
    (press.undergoAll backend events).driver.settings =
      ((requested events).filter Settings.isValid).getLastD press.driver.settings := by
  induction events using List.reverseRecOn with
  | nil => rfl
  | append_singleton events event ih =>
    have split : requested (events ++ [event]) = requested events ++ requested [event] :=
      List.filterMap_append
    rw [undergoAll_concat, settings_undergo, ih, split, List.filter_append]
    simp only [List.getLastD_eq_getLast?, List.getLast?_append]
    cases ((requested [event]).filter Settings.isValid).getLast? <;> rfl

/-! ### What an event changes -/

/-- Every document was there before, or is another state of one that was. -/
def KeepsDocuments (press next : Press) : Prop :=
  ∀ d ∈ next.documents, ∃ e ∈ press.documents, e.serial = d.serial ∧ e.settings = d.settings

/-- What an event does with the contexts, and with the documents that are made. -/
inductive Turn (backend : Backend) (press next : Press) (event : Event) : Prop where
  /-- No context is opened, and no document is made. A context may get another stem. -/
  | kept : next.contexts.map Context.settings = press.contexts.map Context.settings →
    next.contexts.map Context.created = press.contexts.map Context.created →
    next.made = press.made → press.KeepsDocuments next → ¬press.Opens backend event →
    (∀ position serial, ¬press.Creates backend event position serial) →
      Turn backend press next event
  | opened {context : Context} : press.Opens backend event →
    context.settings = press.driver.settings → context.created = false →
    next.contexts = press.contexts ++ [context] → next.made = press.made →
    press.KeepsDocuments next → Turn backend press next event
  | created {position : Nat} {context : Context} {place : Location} :
    press.Creates backend event position press.made →
    press.contexts[position]? = some context → context.created = false →
    next.contexts = press.contexts.set position { context with created := true } →
    next.made = press.made + 1 →
    next.documents = press.documents ++
      [context.document (context.documentPath backend) place press.made] →
    Turn backend press next event

theorem KeepsDocuments.refl (press : Press) : press.KeepsDocuments press :=
  fun d hd ↦ ⟨d, hd, rfl, rfl⟩

theorem not_opens (h : order.opens = false) : ¬press.Opens backend (.order order) := by
  rintro ⟨order, context, ⟨⟩, opens, -⟩
  rw [h] at opens
  cases opens

theorem not_creates (h : ∀ position, order ≠ .createDocument position) (position serial : Nat) :
    ¬press.Creates backend (.order order) position serial :=
  fun creates ↦ h position (Event.order.inj creates.1)

theorem turn_of_step {next : Press} {paths : List Path} (hs : press.Step backend order paths next)
    (ho : order.opens = false) (hc : ∀ position, order ≠ .createDocument position) :
    Turn backend press next (.order order) := by
  have kept {next : Press} (contexts : next.contexts = press.contexts)
      (made : next.made = press.made) (documents : press.KeepsDocuments next) :
      Turn backend press next (.order order) :=
    .kept (contexts ▸ rfl) (contexts ▸ rfl) made documents (not_opens backend ho)
      (not_creates backend hc)
  have released (serial : Nat) (files : FileSystem) :
      press.KeepsDocuments (press.release serial files) :=
    fun d hd ↦ ⟨d, List.mem_of_mem_filter hd, rfl, rfl⟩
  cases hs with
  | idle | installed => exact kept rfl rfl (.refl press)
  | created => exact absurd rfl (hc _)
  | closed | dropped => exact kept rfl rfl (released _ _)
  | @called serial call document numbers hd draws =>
    refine kept rfl rfl fun d hk ↦ ?_
    rcases mem_keep hk with rfl | ⟨hk, -⟩
    · have origin := draws.origin
      simp only [Document.origin, Prod.mk.injEq] at origin
      exact ⟨document, (mem_of_document? hd).1,
        (Session.serial_perform backend call ⟨document, _⟩).symm, origin.1.symm⟩
    · exact ⟨d, hk, rfl, rfl⟩

theorem turn_addContext {made : Except DocumentError Context × FileSystem}
    (hp : press.perform backend order = press.addContext made) (ho : order.opens = true)
    (hc : ∀ position, order ≠ .createDocument position)
    (hm : ∀ context, made.1 = .ok context →
      context.settings = press.driver.settings ∧ context.created = false) :
    Turn backend press (press.undergo backend (.order order)) (.order order) := by
  obtain ⟨answer, files⟩ := made
  cases answer with
  | error error =>
    rw [undergo, hp]
    refine .kept rfl rfl rfl (.refl press) ?_ (not_creates backend hc)
    rintro ⟨order, context, ⟨⟩, -, accepted⟩
    rw [hp] at accepted
    cases accepted
  | ok context =>
    rw [undergo, hp]
    obtain ⟨settings, fresh⟩ := hm context rfl
    exact .opened ⟨order, context, rfl, ho, congrArg Prod.fst hp⟩ settings fresh rfl rfl
      (.refl press)

theorem createContext_ok {driver : Driver} {directory : Path} {files : FileSystem}
    {context : Context} (h : (driver.createContext directory files).1 = .ok context) :
    context.settings = driver.settings ∧ context.created = false := by
  unfold Driver.createContext at h
  split at h <;> cases h
  exact ⟨rfl, rfl⟩

theorem createContextFor_ok {driver : Driver} {config : Config} {files : FileSystem}
    {context : Context} (h : (driver.createContextFor config files).1 = .ok context) :
    context.settings = driver.settings ∧ context.created = false := by
  change (driver.createContext config.directory files).1.map (·.withStem config.stem) = _ at h
  cases hc : (driver.createContext config.directory files).1 with
  | error error =>
    rw [hc] at h
    cases h
  | ok made =>
    rw [hc] at h
    cases h
    have opened := createContext_ok hc
    exact ⟨opened.1, opened.2⟩

theorem turn_createDocument (position : Nat) :
    Turn backend press (press.undergo backend (.order (.createDocument position)))
      (.order (.createDocument position)) := by
  -- An attempt that makes no document changes nothing.
  have failed {answer : Except DocumentError Product}
      (hp : press.perform backend (.createDocument position) = (answer, press))
      (ha : ∀ serial path, answer ≠ .ok (.document serial path)) :
      Turn backend press (press.undergo backend (.order (.createDocument position)))
        (.order (.createDocument position)) := by
    rw [undergo, hp]
    refine .kept rfl rfl rfl (.refl press) (not_opens backend rfl) ?_
    rintro other serial ⟨⟨⟩, path, accepted⟩
    rw [hp] at accepted
    exact ha serial path accepted
  cases hc : press.contexts[position]? with
  | none => exact failed (perform_missing backend hc) nofun
  | some context =>
    have performed := perform_createDocument backend hc
    split at performed
    · exact failed performed nofun
    · next fresh =>
      split at performed
      · exact failed performed nofun
      · rw [undergo, performed]
        exact .created ⟨rfl, _, congrArg Prod.fst performed⟩ hc (eq_false_of_ne_true fresh) rfl rfl
          rfl

theorem map_set_of_eq {α β : Type} {f : α → β} {list : List α} {old new : α}
    (h : list[position]? = some old) (hf : f new = f old) :
    (list.set position new).map f = list.map f := by
  obtain ⟨hi, rfl⟩ := List.getElem?_eq_some_iff.mp h
  have bound : position < (list.map f).length := by
    rwa [List.length_map]
  have same : f new = (list.map f)[position] := by
    rw [hf, List.getElem_map]
  rw [List.map_set, same, List.set_getElem_self]

theorem turn_rename (position : Nat) (stem : String) :
    Turn backend press (press.undergo backend (.order (.rename position stem)))
      (.order (.rename position stem)) := by
  have shut : ¬press.Opens backend (.order (.rename position stem)) := not_opens backend rfl
  have idle (other serial : Nat) :
      ¬press.Creates backend (.order (.rename position stem)) other serial :=
    fun creates ↦ nomatch creates.1
  rw [undergo, perform, withContext]
  cases hc : press.contexts[position]? with
  | none => exact .kept rfl rfl rfl (.refl press) shut idle
  | some context =>
    exact .kept (map_set_of_eq hc rfl) (map_set_of_eq hc rfl) rfl (.refl press) shut idle

/-- Every event is one of these. -/
theorem turn_undergo (press : Press) (event : Event) :
    Turn backend press (press.undergo backend event) event := by
  cases event with
  | outside change =>
    have shut : ¬press.Opens backend (.outside change) := fun ⟨_, _, h, _⟩ ↦ nomatch h
    exact .kept rfl rfl rfl (.refl press) shut fun _ _ h ↦ nomatch h.1
  | order order =>
    have step (h : order.keepsContexts = true) := step_perform backend press h
    cases order with
    | configure | reset | resetTo | install | call | close | drop =>
      exact turn_of_step backend (step rfl) rfl fun _ h ↦ nomatch h
    | openContext directory =>
      have performed : press.perform backend (.openContext directory) =
        press.addContext (press.driver.createContext directory press.files) := rfl
      exact turn_addContext backend performed rfl (fun _ h ↦ nomatch h) fun _ ↦ createContext_ok
    | openContextFor config =>
      have performed : press.perform backend (.openContextFor config) =
        press.addContext (press.driver.createContextFor config press.files) := rfl
      exact turn_addContext backend performed rfl (fun _ h ↦ nomatch h) fun _ ↦ createContextFor_ok
    | createDocument position => exact turn_createDocument backend position
    | rename position stem => exact turn_rename backend position stem

/-! ### The documents -/

section Documents

variable {backend} {next : Press} {serial : Nat} {settings : Settings}

/-- The order that makes a document neither opens a context nor makes another document. -/
theorem Creates.exclusive (h : press.Creates backend event position serial) :
    ¬press.Opens backend event ∧ ∀ other serial',
      press.Creates backend event other serial' → other = position ∧ serial' = serial := by
  obtain ⟨rfl, path, accepted⟩ := h
  refine ⟨not_opens backend rfl, ?_⟩
  rintro other serial' ⟨⟨⟩, path', accepted'⟩
  cases accepted.symm.trans accepted'
  exact ⟨rfl, rfl⟩

/-- A document with the serial was made, and it has the settings as long as it is open. -/
structure Bears (press : Press) (serial : Nat) (settings : Settings) : Prop where
  below : serial < press.made
  settings : ∀ d ∈ press.documents, d.serial = serial → d.settings = settings

theorem Bears.turn (h : press.Bears serial settings) (ht : Turn backend press next event) :
    next.Bears serial settings := by
  cases ht with
  | kept _ _ made keeps | opened _ _ _ _ made keeps =>
    refine ⟨made ▸ h.below, fun d hd hs ↦ ?_⟩
    obtain ⟨e, he, serial, same⟩ := keeps d hd
    exact same ▸ h.settings e he (serial.trans hs)
  | created _ _ _ _ made documents =>
    refine ⟨made ▸ Nat.lt_succ_of_lt h.below, fun d hd hs ↦ ?_⟩
    rw [documents] at hd
    rcases List.mem_append.mp hd with hd | hd
    · exact h.settings d hd hs
    · rw [List.mem_singleton.mp hd] at hs
      exact absurd hs (Nat.ne_of_gt h.below)

theorem bears_of_creates (h : press.Creates backend event position serial)
    (below : ∀ d ∈ press.documents, d.serial < press.made) (ht : Turn backend press next event) :
    ∃ context, press.contexts[position]? = some context ∧ next.Bears serial context.settings := by
  cases ht with
  | kept _ _ _ _ _ idle => exact (idle _ _ h).elim
  | opened opens => exact (h.exclusive.1 opens).elim
  | created creates found _ _ made documents =>
    obtain ⟨rfl, rfl⟩ := h.exclusive.2 _ _ creates
    refine ⟨_, found, made ▸ Nat.lt_succ_self _, fun d hd hs ↦ ?_⟩
    rw [documents] at hd
    rcases List.mem_append.mp hd with hd | hd
    · exact absurd hs (Nat.ne_of_lt (below d hd))
    · rw [List.mem_singleton.mp hd]
      rfl

end Documents

/-! ### Runs -/

variable {events : List Event} {serial : Nat} {settings : Settings}

/-- Something that an event did was done by an earlier event or by the last one. -/
theorem exists_event_concat (did : List Event → Event → Prop) :
    (∃ before found, before ++ [found] <+: events ++ [event] ∧ did before found) ↔
      (∃ before found, before ++ [found] <+: events ∧ did before found) ∨ did events event := by
  constructor
  · rintro ⟨before, found, hp, done⟩
    rcases List.prefix_concat_iff.mp hp with same | hp
    · obtain ⟨rfl, rfl⟩ := List.append_singleton_inj.mp same
      exact .inr done
    · exact .inl ⟨before, found, hp, done⟩
  · rintro (⟨before, found, hp, done⟩ | done)
    · exact ⟨before, found, hp.trans (List.prefix_append _ _), done⟩
    · exact ⟨events, event, List.prefix_rfl, done⟩

theorem created_concat : press.Created backend (events ++ [event]) position serial ↔
    press.Created backend events position serial ∨
      (press.undergoAll backend events).Creates backend event position serial :=
  exists_event_concat fun before event ↦
    (press.undergoAll backend before).Creates backend event position serial

theorem opened_concat : press.Opened backend (events ++ [event]) position settings ↔
    press.Opened backend events position settings ∨
      (press.undergoAll backend events).Opens backend event ∧
        (press.undergoAll backend events).contexts.length = position ∧
        (press.undergoAll backend events).driver.settings = settings :=
  exists_event_concat fun before event ↦ (press.undergoAll backend before).Opens backend event ∧
    (press.undergoAll backend before).contexts.length = position ∧
    (press.undergoAll backend before).driver.settings = settings

theorem not_prefix_nil {before : List Event} : ¬before ++ [event] <+: [] := by
  intro hp
  have short := hp.length_le
  rw [List.length_append] at short
  exact absurd short (Nat.not_succ_le_zero _)

section FromTheStart

variable {files : FileSystem}

/-- Contexts have the settings that the driver had when they were opened. -/
theorem opened_iff : ({ files } : Press).Opened backend events position settings ↔
    ((({ files } : Press).undergoAll backend events).contexts.map Context.settings)[position]? =
      some settings := by
  induction events using List.reverseRecOn generalizing position settings with
  | nil => exact ⟨fun ⟨_, _, hp, _⟩ ↦ (not_prefix_nil hp).elim, nofun⟩
  | append_singleton events event ih =>
    rw [opened_concat, ih, undergoAll_concat]
    generalize ({ files } : Press).undergoAll backend events = press
    cases turn_undergo backend press event with
    | kept same _ _ _ shut _ =>
      rw [same]
      exact or_iff_left fun h ↦ shut h.1
    | opened opens taken _ more _ _ =>
      rw [more, List.map_append, List.map_singleton, taken, List.getElem?_append,
        List.length_map]
      split
      · next inside => exact or_iff_left fun h ↦ Nat.ne_of_gt inside h.2.1
      · next outside =>
        rw [List.getElem?_eq_none (by rwa [List.length_map, ← Nat.not_lt]),
          List.getElem?_singleton]
        constructor
        · rintro (h | ⟨-, rfl, rfl⟩)
          · cases h
          · rw [if_pos (Nat.sub_self _)]
        · intro h
          split at h
          · next last =>
            cases h
            exact .inr ⟨opens, by omega, rfl⟩
          · cases h
    | @created other context place creates found _ used _ _ =>
      have same : (press.contexts.set other { context with created := true }).map Context.settings =
          press.contexts.map Context.settings := map_set_of_eq found rfl
      rw [used, same]
      refine or_iff_left ?_
      rintro ⟨⟨order, context, he, opens, -⟩, -⟩
      cases creates.1.symm.trans he
      cases opens

/-- A context counts as used as soon as it has made its document. -/
theorem created_iff : (∃ serial, ({ files } : Press).Created backend events position serial) ↔
    ((({ files } : Press).undergoAll backend events).contexts.map Context.created)[position]? =
      some true := by
  induction events using List.reverseRecOn generalizing position with
  | nil => exact ⟨fun ⟨_, _, _, hp, _⟩ ↦ (not_prefix_nil hp).elim, nofun⟩
  | append_singleton events event ih =>
    simp only [created_concat, exists_or, ih, undergoAll_concat]
    generalize ({ files } : Press).undergoAll backend events = press
    cases turn_undergo backend press event with
    | kept _ same _ _ _ idle =>
      rw [same]
      exact or_iff_left fun ⟨serial, creates⟩ ↦ idle _ _ creates
    | opened opens _ fresh more _ _ =>
      obtain ⟨order, context, rfl, opens, -⟩ := opens
      rw [more, List.map_append, List.map_singleton, fresh, List.getElem?_append]
      have idle : ¬∃ serial, press.Creates backend (.order order) position serial := by
        rintro ⟨serial, ⟨⟩, -⟩
        cases opens
      rw [or_iff_left idle]
      split
      · rfl
      · next outside =>
        rw [List.getElem?_eq_none (Nat.not_lt.mp outside), List.getElem?_singleton]
        split <;> simp
    | @created other context place creates found fresh used _ _ =>
      obtain ⟨rfl, path, accepted⟩ := creates
      rw [used, List.map_set]
      obtain ⟨inside, -⟩ := List.getElem?_eq_some_iff.mp found
      rcases eq_or_ne other position with rfl | apart
      · rw [List.getElem?_set_self (by rwa [List.length_map])]
        exact iff_of_true (.inr ⟨_, rfl, path, accepted⟩) rfl
      · rw [List.getElem?_set_ne apart]
        refine or_iff_left ?_
        rintro ⟨serial, same, -⟩
        exact apart (Order.createDocument.inj (Event.order.inj same))

/-- Serials are given to documents in turn. -/
theorem serial_lt_made {d : Document}
    (hd : d ∈ (({ files } : Press).undergoAll backend events).documents) :
    d.serial < (({ files } : Press).undergoAll backend events).made := by
  induction events using List.reverseRecOn generalizing d with
  | nil => cases hd
  | append_singleton events event ih =>
    rw [undergoAll_concat] at hd ⊢
    revert ih hd
    generalize ({ files } : Press).undergoAll backend events = press
    intro ih hd
    cases turn_undergo backend press event with
    | kept _ _ made keeps | opened _ _ _ _ made keeps =>
      obtain ⟨e, he, serial, -⟩ := keeps d hd
      rw [made, ← serial]
      exact ih he
    | created _ _ _ _ made documents =>
      rw [made]
      rw [documents] at hd
      rcases List.mem_append.mp hd with hd | hd
      · exact Nat.lt_succ_of_lt (ih hd)
      · rw [List.mem_singleton.mp hd]
        exact Nat.lt_succ_self _

/-- A document keeps the settings of its context. -/
theorem settings_of_created (h : ({ files } : Press).Created backend events position serial) :
    ∃ settings, ({ files } : Press).Opened backend events position settings ∧
      (({ files } : Press).undergoAll backend events).Bears serial settings := by
  induction events using List.reverseRecOn with
  | nil =>
    obtain ⟨_, _, hp, -⟩ := h
    exact (not_prefix_nil hp).elim
  | append_singleton events event ih =>
    have turn := turn_undergo backend (({ files } : Press).undergoAll backend events) event
    rw [undergoAll_concat]
    rcases (created_concat backend).mp h with h | h
    · obtain ⟨settings, opened, bears⟩ := ih h
      exact ⟨settings, (opened_concat backend).mpr (.inl opened), bears.turn turn⟩
    · obtain ⟨context, found, bears⟩ := bears_of_creates h (fun _ ↦ serial_lt_made backend) turn
      have opened := (opened_iff backend).mpr ((List.getElem?_map ..).trans (congrArg _ found))
      exact ⟨context.settings, (opened_concat backend).mpr (.inl opened), bears⟩

theorem isValid_settings :
    (({ files } : Press).undergoAll backend events).driver.settings.isValid = true := by
  rw [settings_undergoAll, List.getLastD_eq_getLast?]
  cases hl : ((requested events).filter Settings.isValid).getLast? with
  | none =>
    change ({} : Settings).isValid = true
    decide
  | some settings => exact (List.mem_filter.mp (List.mem_of_getLast? hl)).2

end FromTheStart

/-- Whatever happens to a press, in any order and whether it is accepted or not: the driver has the
last valid settings that it was given, and ones that are not valid change nothing. A context has the
settings that the driver had when it was opened, and so has its document. A context that has made
its document makes no other; one that has not makes it as soon as the file can be made, and an
attempt that fails changes nothing. -/
theorem snapshots_undergoAll (files : FileSystem) (events : List Event) :
    let start : Press := { files }
    let press := start.undergoAll backend events
    (press.driver.settings.isValid = true ∧
      press.driver.settings = ((requested events).filter Settings.isValid).getLastD {}) ∧
    (∀ order settings, order.settings? = some settings → press.perform backend order =
      if settings.isValid then (.ok .done, { press with driver := { settings } })
      else (.error (.invalidSettings settings.dpi), press)) ∧
    (∀ position settings, start.Opened backend events position settings ↔
      (press.contexts.map Context.settings)[position]? = some settings) ∧
    (∀ position serial, start.Created backend events position serial →
      ∃ context, press.contexts[position]? = some context ∧
        ∀ d ∈ press.documents, d.serial = serial → d.settings = context.settings) ∧
    ∀ position context, press.contexts[position]? = some context →
      ((∃ serial, start.Created backend events position serial) →
        press.perform backend (.createDocument position) = (.error .alreadyCreated, press)) ∧
      ((¬∃ serial, start.Created backend events position serial) →
        match press.files.create (context.documentPath backend) (.text "") with
        | .error reason =>
          press.perform backend (.createDocument position) = (.error (.io reason), press)
        | .ok _ => ∃ next,
          press.perform backend (.createDocument position) =
            (.ok (.document press.made (context.documentPath backend)), next) ∧
          ∃ d ∈ next.documents, d.serial = press.made ∧ d.settings = context.settings) := by
  intro start press
  refine ⟨⟨isValid_settings backend, settings_undergoAll backend events⟩,
    fun _ _ h ↦ perform_of_settings backend h, fun _ _ ↦ opened_iff backend, ?_, ?_⟩
  · intro position serial h
    obtain ⟨settings, opened, bears⟩ := settings_of_created backend h
    obtain ⟨context, found, same⟩ := Option.map_eq_some_iff.mp
      ((List.getElem?_map ..).symm.trans ((opened_iff backend).mp opened))
    exact ⟨context, found, fun d hd hs ↦ (bears.settings d hd hs).trans same.symm⟩
  · intro position context found
    have flag : (∃ serial, start.Created backend events position serial) ↔
        context.created = true := by
      rw [created_iff, List.getElem?_map]
      change (press.contexts[position]?.map Context.created) = _ ↔ _
      rw [found]
      exact Option.some_inj
    rw [perform_createDocument backend found, flag]
    constructor
    · intro used
      rw [if_pos used]
    · intro fresh
      rw [if_neg fresh]
      cases press.files.create (context.documentPath backend) (.text "") with
      | error reason => rfl
      | ok made => exact ⟨_, rfl, _, List.mem_concat_self, rfl, rfl⟩

/-- A press whose driver is given other settings, good and bad, after it opened a context. -/
def reconfigured : List Event :=
  [.order (.configure { dpi := 200 }), .order (.openContext { text := "out" }),
    .order (.configure { dpi := 300 }), .order (.configure { dpi := 5 }),
    .order (.createDocument 0)]

theorem snapshots_undergoAll_reconfigured :
    let start : Press := {}
    let press := start.undergoAll Xhtml.backend reconfigured
    press.driver.settings = { dpi := 300 } ∧
      start.Opened Xhtml.backend reconfigured 0 { dpi := 200 } ∧
      (∃ serial, start.Created Xhtml.backend reconfigured 0 serial ∧
        ∀ d ∈ press.documents, d.serial = serial → d.settings = { dpi := 200 }) ∧
      press.perform Xhtml.backend (.createDocument 0) = (.error .alreadyCreated, press) := by
  obtain ⟨⟨-, driver⟩, -, opened, documents, once⟩ :=
    snapshots_undergoAll Xhtml.backend {} reconfigured
  have last : ((requested reconfigured).filter Settings.isValid).getLastD {} = { dpi := 300 } := by
    decide
  have snapshot : ((({} : Press).undergoAll Xhtml.backend reconfigured).contexts.map
      Context.settings)[0]? = some { dpi := 200 } := by decide +kernel
  have used : ((({} : Press).undergoAll Xhtml.backend reconfigured).contexts.map
      Context.created)[0]? = some true := by decide +kernel
  obtain ⟨serial, created⟩ := (created_iff Xhtml.backend).mpr used
  obtain ⟨context, found, same⟩ := documents 0 serial created
  have taken : context.settings = { dpi := 200 } := by
    rw [List.getElem?_map, found] at snapshot
    exact Option.some.inj snapshot
  dsimp only
  exact ⟨driver.trans last, (opened 0 _).mpr snapshot,
    ⟨serial, created, fun d hd hs ↦ (same d hd hs).trans taken⟩,
    (once 0 context found).1 ⟨serial, created⟩⟩

end Press

end Manuscript
