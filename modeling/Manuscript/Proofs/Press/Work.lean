import Manuscript.Press.Orders
import Manuscript.Proofs.Document.Drawing
import Manuscript.Proofs.Document.Knowledge

/-!
# The work of a press

An order either changes the contexts of a press or works with them. What an order of the second sort
does is one of a few steps (`Press.Step`), and every step says which files have been made
(`Press.yields`): the output file of a new document, or the images of a call.
-/

namespace Manuscript

/-- Whether the order leaves the contexts, but for those that make their document. -/
def Order.keepsContexts : Order → Bool
  | openContext _ | openContextFor _ | rename _ _ => false
  | _ => true

/-- What a context is, whether it has made its document or not. -/
def Context.origin (context : Context) : Path × String × Settings :=
  (context.directory, context.stem, context.settings)

/-- A context makes its document with the output file, once. -/
theorem Context.createDocument_eq_ok {context : Context} {backend : Backend} {serial : Nat}
    {files : FileSystem} {made : Session × Context}
    (h : context.createDocument backend serial files = .ok made) :
    context.created = false ∧ ∃ place written,
      files.create (context.documentPath backend) (.text "") = .ok (place, written) ∧
      made = (⟨context.document (context.documentPath backend) place serial, written⟩,
        { context with created := true }) := by
  rw [createDocument] at h
  split at h
  · cases h
  · next fresh =>
    dsimp only at h
    split at h
    · cases h
    · next place written hm =>
      exact ⟨eq_false_of_ne_true fresh, place, written, hm, (Except.ok.inj h).symm⟩

/-- A context whose output file cannot be made has not made its document before. -/
theorem Context.createDocument_eq_io {context : Context} {backend : Backend} {serial : Nat}
    {files : FileSystem} {reason : IoError}
    (h : context.createDocument backend serial files = .error (.io reason)) :
    context.created = false ∧
      files.create (context.documentPath backend) (.text "") = .error reason := by
  rw [createDocument] at h
  split at h
  · cases h
  · next fresh =>
    dsimp only at h
    split at h
    · next hm =>
      cases h
      exact ⟨eq_false_of_ne_true fresh, hm⟩
    · cases h

/-- No call changes the serial of a document. -/
theorem Session.serial_perform (backend : Backend) (call : Call) (s : Session) :
    (s.perform backend call).2.document.serial = s.document.serial := by
  have lasting : Lasting fun labels _ ↦ labels.owner = s.document.labels.owner :=
    { create := fun labels _ target h ↦ (labels.extends_create target).owner.trans h
      mark := fun _ _ _ ho _ h ↦ ho.trans h
      cite := fun _ _ _ h ↦ h }
  exact lasting.run backend [call] rfl

namespace Press

variable {backend : Backend} {press next : Press}

/-- The files that an order makes, but for style sheets. -/
def yields (backend : Backend) (order : Order) (press : Press) : List Path :=
  match order with
  | .createDocument position =>
    match press.contexts[position]? with
    | some context =>
      match context.createDocument backend press.made press.files with
      | .ok (session, _) => [session.document.path]
      | .error _ => []
    | none => []
  | .call serial call =>
    match press.document? serial with
    | some document =>
      ((⟨document, press.files⟩ : Session).perform backend call).2.document.images.drop
        document.images.length
    | none => []
  | _ => []

/-- The files that orders make one after the other, but for style sheets. -/
def yieldsAll (backend : Backend) : List Order → Press → List Path
  | [], _ => []
  | order :: orders, press =>
    press.yields backend order ++ (press.perform backend order).2.yieldsAll backend orders

/-- What an order that leaves the contexts does with the documents and the files, and which files it
makes. -/
inductive Step (backend : Backend) (press : Press) : Order → List Path → Press → Prop where
  | idle {order : Order} {driver : Driver} : Step backend press order [] { press with driver }
  | created {position : Nat} {context : Context} {place : Location} {files : FileSystem} :
    press.contexts[position]? = some context → context.created = false →
      press.files.create (context.documentPath backend) (.text "") = .ok (place, files) →
      Step backend press (.createDocument position) [context.documentPath backend]
        { press with
          contexts := press.contexts.set position { context with created := true }
          documents := press.documents ++
            [context.document (context.documentPath backend) place press.made]
          made := press.made + 1
          files }
  | installed {position : Nat} {context : Context} : press.contexts[position]? = some context →
    Step backend press (.install position) []
      { press with
        files := (installResources context.directory backend.resources press.files).2 }
  | called {serial : Nat} {call : Call} {document : Document} {numbers : List String} :
    press.document? serial = some document →
      (⟨document, press.files⟩ : Session).Draws numbers
        ((⟨document, press.files⟩ : Session).perform backend call).2 →
      Step backend press (.call serial call) (numbers.map document.imagePath)
        (press.keep ((⟨document, press.files⟩ : Session).perform backend call).2)
  | closed {serial : Nat} {document : Document} {content : String} {files : FileSystem} :
    press.document? serial = some document →
      (files = press.files.put document.place (.text content) ∨
        files = (installResources document.directory backend.resources
          (press.files.put document.place (.text content))).2) →
      Step backend press (.close serial) [] (press.release serial files)
  | dropped {serial : Nat} {document : Document} {content : String} :
    press.document? serial = some document →
      Step backend press (.drop serial) []
        (press.release serial (press.files.put document.place (.text content)))

/-- Closing a document settles its file, and then installs the style sheets unless it is refused. -/
theorem files_of_close (backend : Backend) (s : Session) : ∃ content,
    (s.close backend).2 = s.files.put s.document.place (.text content) ∨
    (s.close backend).2 = (installResources s.document.directory backend.resources
      (s.files.put s.document.place (.text content))).2 := by
  unfold Session.close
  split
  · exact ⟨_, .inl rfl⟩
  · refine ⟨s.document.output.drain.streamed, .inr ?_⟩
    dsimp only
    split <;> next hi => exact (congrArg Prod.snd hi).symm

/-! ### What orders do -/

section Orders

variable (backend) {position serial : Nat} {context : Context} {d : Document}

/-- Making a document succeeds if the context has not made one and the file can be made; if not, the
press stays as it was. -/
theorem perform_createDocument (h : press.contexts[position]? = some context) :
    press.perform backend (.createDocument position) =
      if context.created then (.error .alreadyCreated, press)
      else match press.files.create (context.documentPath backend) (.text "") with
        | .error reason => (.error (.io reason), press)
        | .ok (place, files) =>
          (.ok (.document press.made (context.documentPath backend)),
            { press with
              contexts := press.contexts.set position { context with created := true }
              documents := press.documents ++
                [context.document (context.documentPath backend) place press.made]
              made := press.made + 1
              files }) := by
  rw [perform, withContext, h]
  simp only [Context.createDocument]
  cases context.created with
  | true => rfl
  | false =>
    simp only [Bool.false_eq_true, if_false]
    cases press.files.create (context.documentPath backend) (.text "") <;> rfl

theorem perform_missing (h : press.contexts[position]? = none) :
    press.perform backend (.createDocument position) = (.ok .missing, press) := by
  rw [perform, withContext, h]

/-- Installing the style sheets of a context changes the files alone. -/
theorem perform_install (h : press.contexts[position]? = some context) :
    press.perform backend (.install position) =
      ((context.install backend press.files).1.map .resources,
        { press with
          files := (installResources context.directory backend.resources press.files).2 }) := by
  rw [perform, withContext, h]
  dsimp only [Context.install]
  cases installResources context.directory backend.resources press.files with
  | mk answer files => cases answer <;> rfl

/-- An open document answers a call, and is kept as it is then. -/
theorem perform_call (h : press.document? serial = some d) (call : Call) :
    press.perform backend (.call serial call) =
      (((⟨d, press.files⟩ : Session).perform backend call).1.map .reply,
        press.keep ((⟨d, press.files⟩ : Session).perform backend call).2) := by
  rw [perform, withDocument, h]
  dsimp only
  cases (⟨d, press.files⟩ : Session).perform backend call with
  | mk answer next => cases answer <;> rfl

/-- A document that is closed is open no more, also if it has been closed too early. -/
theorem perform_close (h : press.document? serial = some d) :
    press.perform backend (.close serial) =
      (((⟨d, press.files⟩ : Session).close backend).1.map .summary,
        press.release serial ((⟨d, press.files⟩ : Session).close backend).2) := by
  rw [perform, withDocument, h]
  dsimp only
  cases (⟨d, press.files⟩ : Session).close backend with
  | mk answer files => cases answer <;> rfl

end Orders

theorem step_takeDriver (order : Order) (driver : Except DocumentError Driver) :
    Step backend press order [] (press.takeDriver driver).2 := by
  cases driver <;> exact .idle

/-- A context makes its document with the output file, or nothing happens. -/
theorem step_createDocument {position : Nat} {context : Context}
    (h : press.contexts[position]? = some context) :
    Step backend press (.createDocument position)
      (press.yields backend (.createDocument position))
      (press.perform backend (.createDocument position)).2 := by
  rw [yields, perform, withContext, h]
  dsimp only
  cases hm : context.createDocument backend press.made press.files with
  | error error => exact .idle
  | ok made =>
    obtain ⟨fresh, place, files, created, rfl⟩ := Context.createDocument_eq_ok hm
    exact .created h fresh created

/-- A document makes the images that a call draws. -/
theorem step_call {serial : Nat} {d : Document} (h : press.document? serial = some d)
    (call : Call) :
    Step backend press (.call serial call) (press.yields backend (.call serial call))
      (press.perform backend (.call serial call)).2 := by
  obtain ⟨numbers, draws⟩ := Session.drew_perform backend call ⟨d, press.files⟩
  rw [yields, h, perform_call backend h]
  dsimp only
  rw [draws.images, List.drop_left]
  exact .called h draws

/-- Every order that leaves the contexts is a step. -/
theorem step_perform (backend : Backend) (press : Press) {order : Order}
    (h : order.keepsContexts = true) :
    press.Step backend order (press.yields backend order) (press.perform backend order).2 := by
  cases order with
  | openContext | openContextFor | rename => cases h
  | configure | reset | resetTo => exact step_takeDriver _ _
  | createDocument position =>
    cases hc : press.contexts[position]? with
    | none =>
      rw [yields, hc, perform_missing backend hc]
      exact .idle
    | some context => exact step_createDocument hc
  | install position =>
    cases hc : press.contexts[position]? with
    | none =>
      rw [perform, withContext, hc]
      exact .idle
    | some context =>
      rw [perform_install backend hc]
      exact .installed hc
  | call serial call =>
    cases hd : press.document? serial with
    | none =>
      rw [yields, perform, withDocument, hd]
      exact .idle
    | some d => exact step_call hd call
  | close serial =>
    cases hd : press.document? serial with
    | none =>
      rw [perform, withDocument, hd]
      exact .idle
    | some d =>
      obtain ⟨content, files⟩ := files_of_close backend ⟨d, press.files⟩
      rw [perform_close backend hd]
      exact .closed hd files
  | drop serial =>
    rw [perform, withDocument]
    cases hd : press.document? serial with
    | none => exact .idle
    | some d => exact .dropped hd

/-! ### Orders that are refused -/

/-- A context that makes no document has been asked for it. -/
theorem exists_of_createDocument_error {position : Nat} {error : DocumentError}
    (h : (press.perform backend (.createDocument position)).1 = .error error) :
    ∃ context ∈ press.contexts,
      context.createDocument backend press.made press.files = .error error := by
  cases hc : press.contexts[position]? with
  | none =>
    rw [perform_missing backend hc] at h
    cases h
  | some context =>
    refine ⟨context, List.mem_of_getElem? hc, ?_⟩
    rw [perform, withContext, hc] at h
    dsimp only at h
    cases hm : context.createDocument backend press.made press.files with
    | ok made =>
      rw [hm] at h
      cases h
    | error error' =>
      rw [hm] at h
      cases h
      rfl

/-- A call that is refused is refused by an open document. -/
theorem exists_of_call_error {serial : Nat} {call : Call} {error : DocumentError}
    (h : (press.perform backend (.call serial call)).1 = .error error) :
    ∃ d, press.document? serial = some d ∧
      ((⟨d, press.files⟩ : Session).perform backend call).1 = .error error := by
  cases hd : press.document? serial with
  | none =>
    rw [perform, withDocument, hd] at h
    cases h
  | some d =>
    refine ⟨d, rfl, ?_⟩
    rw [perform_call backend hd] at h
    cases hp : ((⟨d, press.files⟩ : Session).perform backend call).1 with
    | ok reply =>
      rw [hp] at h
      cases h
    | error error' =>
      rw [hp] at h
      cases h
      rfl

end Press

end Manuscript
