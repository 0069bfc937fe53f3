import Manuscript.Proofs.Document.AlikeRuns
import Manuscript.Proofs.Document.Unmarked
import Manuscript.Proofs.Storage.Besides
import Manuscript.Proofs.Xhtml.Running
import Manuscript.Proofs.Xhtml.Weaving

/-!
# Layout

Markup that is laid out for people is the compact markup with line breaks in front of tags
(`Markup.Spaced`), and this holds of everything that is kept or handed on while a document is
written. So the setting decides nothing else: whatever is called, the answers, the labels, the
numbers and the plain texts are the same, and so are the files, apart from the line breaks
(`Session.layout_run`).
-/

namespace Manuscript

open Markup Xhtml

namespace Markup

/-- The second text is the first with line breaks inserted. Each is a newline and an even number of
spaces, directly before a `<`. -/
inductive Spaced : List Char → List Char → Prop where
  | nil : Spaced [] []
  | keep (c : Char) {text laid : List Char} : Spaced text laid → Spaced (c :: text) (c :: laid)
  | line (steps : Nat) {text laid : List Char} : Spaced text laid →
    Spaced ('<' :: text) ('\n' :: (List.replicate (2 * steps) ' ' ++ '<' :: laid))

namespace Spaced

variable {text laid text' laid' : List Char}

theorem refl (text : List Char) : Spaced text text := by
  induction text with
  | nil => exact .nil
  | cons c text ih => exact .keep c ih

theorem append (h : Spaced text laid) (h' : Spaced text' laid') :
    Spaced (text ++ text') (laid ++ laid') := by
  induction h with
  | nil => exact h'
  | keep c _ ih => exact .keep c ih
  | line steps _ ih =>
    have line := Spaced.line steps ih
    simpa only [List.cons_append, List.append_assoc] using line

theorem eq_nil_iff (h : Spaced text laid) : text = [] ↔ laid = [] := by
  cases h <;> simp

/-- A line break may stand in front of a tag that starts both texts. -/
theorem prepend (h : Spaced ('<' :: text) ('<' :: laid)) (steps : Nat) :
    Spaced ('<' :: text) ('\n' :: (List.replicate (2 * steps) ' ' ++ '<' :: laid)) := by
  cases h with
  | keep _ h => exact .line steps h

/-- Characters may be replaced if those of line breaks and those that start tags are not. -/
theorem flatMap (h : Spaced text laid) {f g : Char → List Char} (hs : ∀ c, Spaced (f c) (g c))
    (hf : f '<' = ['<']) (hg : ∀ c ∈ ['<', '\n', ' '], g c = [c]) :
    Spaced (text.flatMap f) (laid.flatMap g) := by
  induction h with
  | nil => exact .nil
  | keep c _ ih => exact (hs c).append ih
  | line steps _ ih =>
    have spaces : (List.replicate (2 * steps) ' ').flatMap g = List.replicate (2 * steps) ' ' := by
      rw [List.flatMap_congr fun c hc ↦ hg c (by simp [List.eq_of_mem_replicate hc])]
      exact List.flatMap_singleton' _
    rw [List.flatMap_cons, List.flatMap_cons, List.flatMap_append, spaces, List.flatMap_cons, hf,
      hg '\n' (by decide), hg '<' (by decide)]
    exact .line steps ih

end Spaced

/-- The second markup is the first laid out. -/
def Laid (text laid : String) : Prop := Spaced text.toList laid.toList

theorem laid_refl (text : String) : Laid text text := .refl _

theorem joining_laid : Joining Laid where
  empty := laid_refl ""
  append h h' := by
    unfold Laid at *
    rw [String.toList_append, String.toList_append]
    exact h.append h'

theorem weaves_laid : Weaves Laid where
  toJoining := joining_laid
  text _ _ := laid_refl _
  startTag _ _ _ _ := laid_refl _
  emptyTag _ _ _ _ := laid_refl _
  endTag _ := laid_refl _
  prolog := laid_refl _
  letterStart := laid_refl _
  escape _ := laid_refl _
  eq_empty_iff h := by rw [← String.toList_eq_nil_iff, ← String.toList_eq_nil_iff, h.eq_nil_iff]

/-- Laid out arguments may stand in a body that is laid out. -/
theorem laid_expand {body body' : String} {arguments arguments' : List (Option String)}
    (hb : Laid body body') (ha : List.Forall₂ (Option.Rel Laid) arguments arguments') :
    Laid ((Macro.Template.parse body).expand arguments)
      ((Macro.Template.parse body').expand arguments') := by
  unfold Laid
  rw [Macro.toList_expand_parse, Macro.toList_expand_parse]
  refine hb.flatMap (fun c ↦ ?_) rfl (by simp [Macro.fill, Marker.index?, Marker.base])
  unfold Macro.fill
  split
  · next index _ => exact joining_laid.argument ha index
  · exact .refl _

/-- Compact markup, and markup that is laid out. -/
def layout : Likeness where
  markup := Laid
  lineBreak compact laid := compact = "" ∧
    ∃ steps, laid = String.ofList ('\n' :: List.replicate (2 * steps) ' ')
  float _ _ := Laid

/-- What starts with a tag may be laid out on a line of its own. -/
theorem lines_layout {text text' : String} (h : Laid text text') (ho : Opens text)
    (ho' : Opens text') : layout.Lines text text' := by
  rintro _ _ ⟨rfl, steps, rfl⟩
  obtain ⟨rest, hr⟩ := List.head?_eq_some_iff.mp ho
  obtain ⟨rest', hr'⟩ := List.head?_eq_some_iff.mp ho'
  unfold Laid at h
  rw [hr, hr'] at h
  change Spaced _ _
  rw [String.empty_append, hr, String.toList_append, String.toList_ofList, hr']
  exact h.prepend steps

theorem laid_of_bears {counter : Counter} {number : Nat} {text text' : String}
    (h : Bears Laid counter number text text') : Laid text text' := by
  obtain ⟨numeral, _, front, front', back, back', hf, hb, rfl, rfl⟩ := h
  exact joining_laid.append (joining_laid.append hf (laid_refl numeral)) hb

theorem respects_layout : layout.Respects backend :=
  weaves_laid.respects laid_expand (fun _ ↦ laid_refl _) lines_layout
    fun h ↦ lines_layout (laid_of_bears h)

/-- What has reached the roots is laid out, whatever has been counted. -/
def LaidAtRoot (_ : Counter → Nat) (whole whole' : String) : Prop := Laid whole whole'

theorem follows_layout : layout.Follows (fun _ _ ↦ True) LaidAtRoot where
  append := joining_laid.append
  float := joining_laid.append
  skip h _ := h
  markup _ h := h

end Markup

/-- The context with documents that are laid out or not. -/
def Context.laidOut (context : Context) (readable : Bool) : Context :=
  { context with settings := { context.settings with humanReadable := readable } }

/-- New documents are alike but for their layout. -/
theorem Context.alike_document (context : Context) (path : Path) (place : Location)
    (serial : Nat) :
    ((context.laidOut false).document path place serial).Alike layout LaidAtRoot
      ((context.laidOut true).document path place serial) where
  core := rfl
  lines depth := ⟨rfl, depth, rfl⟩
  frames := .nil
  captures := .nil
  head := ⟨.none, .nil, .none⟩
  macros := .nil
  root := laid_refl ""

/-- A document can be made laid out where it can be made compact. -/
theorem Context.exists_createDocument_laidOut {context used : Context} {serial : Nat}
    {files : FileSystem} {s : Session}
    (hs : (context.laidOut false).createDocument backend serial files = .ok (s, used)) :
    ∃ path place s' used', (context.laidOut true).createDocument backend serial files =
        .ok (s', used') ∧ s.document = (context.laidOut false).document path place serial ∧
      s'.document = (context.laidOut true).document path place serial ∧ s.files = s'.files := by
  rw [createDocument] at hs
  split at hs
  · cases hs
  · next fresh =>
    dsimp only at hs
    split at hs
    · cases hs
    · next place made created =>
      cases hs
      have created' : files.create ((context.laidOut true).documentPath backend) (.text "") =
          .ok (place, made) := created
      refine ⟨(context.laidOut true).documentPath backend, place, ⟨_, made⟩,
        { context.laidOut true with created := true }, ?_, rfl, rfl, rfl⟩
      have fresh' : ¬ (context.laidOut true).created = true := fresh
      rw [createDocument, if_neg fresh']
      dsimp only
      rw [created']
      rfl

namespace Session

/-- The layout of a document is decided by its setting, and nothing else is. The document is made
laid out where it is made compact. Whatever is called, every answer is the same; labels, counters,
cited works, and all that is held back and gathered is the same without its markup; and so are the
files besides the output file, with the images. The documents are closed with the same answer, and
then the one file is the other with line breaks inserted before tags. -/
theorem layout_run (context used : Context) (serial : Nat) (files : FileSystem) (s : Session)
    (hs : (context.laidOut false).createDocument backend serial files = .ok (s, used)) :
    ∃ s' used', (context.laidOut true).createDocument backend serial files = .ok (s', used') ∧
      ∀ calls : List Call,
        let t := s.run backend calls
        let t' := s'.run backend calls
        (∀ call, (t.perform backend call).1 = (t'.perform backend call).1) ∧
        t.document.withoutMarkup = t'.document.withoutMarkup ∧ t.files = t'.files ∧
        (t.close backend).1 = (t'.close backend).1 ∧
        (∀ other, other ≠ s.document.place →
          (t.close backend).2.node? other = (t'.close backend).2.node? other) ∧
        (∀ summary, (t.close backend).1 = .ok summary → ∃ text text',
          (t.close backend).2.node? s.document.place = some (.text text) ∧
          (t'.close backend).2.node? s.document.place = some (.text text') ∧
          Spaced text.toList text'.toList) := by
  obtain ⟨path, place, s', used', hs', hd, hd', same⟩ := Context.exists_createDocument_laidOut hs
  have ending := Context.endsIn_createDocument hs (c := 'l') (by decide) (by decide) (by decide)
  have start : s.Alike layout LaidAtRoot s' :=
    ⟨hd ▸ hd' ▸ context.alike_document path place serial, same⟩
  refine ⟨s', used', hs', fun calls ↦ ?_⟩
  intro t t'
  have alike : t.Alike layout LaidAtRoot t' := alike_run respects_layout follows_layout start calls
    fun _ _ _ _ _ _ _ ↦ trivial
  have there : t.document.place = s.document.place :=
    congrArg (·.2.2.2.2) (run_keeps (keeps_origin_action backend) calls s)
  have there' : t'.document.place = s.document.place :=
    (alike.document.same Document.place fun _ ↦ rfl).symm.trans there
  have closed : _ ∧ FileSystem.Besides _ (t.close backend).2 (t'.close backend).2 :=
    alike_close alike (there ▸ ending.ne_nil)
  refine ⟨fun call ↦ ?_, alike.document.withoutMarkup_eq, alike.files, closed.1, ?_, ?_⟩
  · exact (alike_perform respects_layout follows_layout alike call fun _ _ _ ↦ trivial).1
  · exact there ▸ closed.2.elsewhere
  · intro summary hc
    have text := (node?_of_close (there ▸ ending) (Prod.ext hc rfl)).2.2
    have text' := (node?_of_close (there' ▸ ending) (Prod.ext (closed.1 ▸ hc) rfl)).2.2
    rw [there] at text
    rw [there'] at text'
    exact ⟨_, _, text, text', alike.document.root⟩

/-- A document with a paragraph. -/
def paragraph : List Call :=
  [.beginElement .header, .endElement .header, .beginElement .body, .beginElement .paragraph,
    .write "a\n  <b", .endElement .paragraph, .endElement .body]

/-- The two documents are closed, and line breaks are inserted, though not in the text that looks
like one. -/
theorem layout_run_paragraph :
    ∃ s used s' used' text text',
      ((⟨⟨"/"⟩, "index", {}, false⟩ : Context).laidOut false).createDocument backend 0 {} =
        .ok (s, used) ∧
      ((⟨⟨"/"⟩, "index", {}, false⟩ : Context).laidOut true).createDocument backend 0 {} =
        .ok (s', used') ∧
      ((s.run backend paragraph).close backend).2.node? s.document.place = some (.text text) ∧
      ((s'.run backend paragraph).close backend).2.node? s.document.place = some (.text text') ∧
      Spaced text.toList text'.toList ∧ text ≠ text' := by
  obtain ⟨s, used, s', used', made, made', closed, differ⟩ : ∃ s used s' used',
      ((⟨⟨"/"⟩, "index", {}, false⟩ : Context).laidOut false).createDocument backend 0 {} =
        .ok (s, used) ∧
      ((⟨⟨"/"⟩, "index", {}, false⟩ : Context).laidOut true).createDocument backend 0 {} =
        .ok (s', used') ∧
      ((s.run backend paragraph).close backend).1.isOk = true ∧
      ((s.run backend paragraph).close backend).2.node? s.document.place ≠
        ((s'.run backend paragraph).close backend).2.node? s.document.place :=
    ⟨_, _, _, _, rfl, rfl, by decide +kernel, by decide +kernel⟩
  obtain ⟨_, _, same, laid⟩ := layout_run _ used 0 {} s made
  obtain ⟨rfl, rfl⟩ := Prod.mk.inj (Except.ok.inj (made'.symm.trans same))
  obtain ⟨_, _, _, _, _, texts⟩ := laid paragraph
  cases hc : ((s.run backend paragraph).close backend).1 with
  | error error =>
    rw [hc] at closed
    cases closed
  | ok summary =>
    obtain ⟨text, text', node, node', spaced⟩ := texts summary hc
    refine ⟨s, used, s', used', text, text', made, made', node, node', spaced, ?_⟩
    rintro rfl
    exact differ (node.trans node'.symm)

end Session

end Manuscript
