import Manuscript.Proofs.Document.AlikeRuns
import Manuscript.Proofs.Document.Issuing
import Manuscript.Proofs.Xhtml.Beginning
import Manuscript.Proofs.Xhtml.Numerals
import Manuscript.Proofs.Xhtml.Running

/-!
# Numbers of floats

A float takes the next number when it ends, and is written with it. So the numbers in the file of a
closed document are those up to the count, each once and in order (`Session.numbers_run`). The
numbers that floats inside macros take are aside, since what a macro holds is written as often as the
macro is used, and so are those that are taken by ends that are refused.
-/

namespace Manuscript

open Markup Xhtml

/-- The labels of what is counted have this target. -/
def Counter.target : Counter → Target
  | figures => .figure
  | tables => .table
  | equations => .equation

theorem Document.count_eq_counter (d : Document) (counter : Counter) :
    d.count counter = d.ledger.counter counter.target := by
  cases counter <;> rfl

/-- How much has been numbered in a closed document. -/
def Summary.count (summary : Summary) : Counter → Nat
  | .figures => summary.figures
  | .tables => summary.tables
  | .equations => summary.equations

instance (frames : Frames) : Decidable frames.InMacro :=
  inferInstanceAs (Decidable (∃ frame ∈ frames, frame.kind.isMacro = true))

/-- Documents can be read for numbers from the start. -/
theorem Context.alike_numbering (context : Context) (path : Path) (place : Location) (serial : Nat)
    (counter : Counter) (keeps : Nat → Bool) :
    (context.document path place serial).Alike (numbering counter keeps) (ReadAtRoot counter keeps)
      (context.document path place serial) where
  core := rfl
  lines _ := tells_lineBreak _
  frames := .nil
  captures := .nil
  head := ⟨.none, .nil, .none⟩
  macros := .nil
  root := by cases counter <;> exact counts_nil

/-! ### Taking numbers -/

namespace Ledger

variable {l l' : Ledger} {frame : Frame} {call : Call} {answer : Except DocumentError Reply}

/-- An element that has been taken off is not counted, or it is a float and counted once. -/
theorem counter_count (l : Ledger) (suits : frame.state.suits frame.kind = true) (target : Target) :
    (l.count frame.state).counter target = l.counter target ∨
      (l.count frame.state).counter target = l.counter target + 1 ∧
        frame.kind.carriesLabel = true ∧ (l.count frame.state).frames = l.frames := by
  obtain ⟨kind, captured, state⟩ := frame
  cases state with
  | figure | figureSeries | table | equation =>
    cases eq_of_beq suits
    cases target
    all_goals first
      | exact .inl rfl
      | exact .inr ⟨rfl, rfl, rfl⟩
  | _ => exact .inl (by cases target <;> rfl)

/-- A call takes no number, or it ends a float and takes the next one. -/
theorem Step.counter (h : l.Step call answer l') (nested : l.frames.Nested) (target : Target) :
    l'.counter target = l.counter target ∨ l'.counter target = l.counter target + 1 ∧
      ∃ frame : Frame, frame.kind.carriesLabel = true ∧ frame.StandsOn l'.frames := by
  have off {frame : Frame} {outer : Frames} (hf : l.frames = frame :: outer)
      (given : List (Label × String)) (stored : List Path) :
      let left := (l.takeOff frame outer).settle given stored
      left.counter target = l.counter target ∨ left.counter target = l.counter target + 1 ∧
        ∃ frame : Frame, frame.kind.carriesLabel = true ∧ frame.StandsOn left.frames := by
    intro left
    have same : left.counter target = (l.takeOff frame outer).counter target := by
      cases target <;> rfl
    have outside : ({ l with frames := outer } : Ledger).counter target = l.counter target := by
      cases target <;> rfl
    have here := (hf ▸ nested).1
    rcases counter_count { l with frames := outer } here.suits target with hc | ⟨hc, carries, kept⟩
    · exact .inl (same.trans (hc.trans outside))
    · rw [outside] at hc
      exact .inr ⟨same.trans hc, frame, carries, (show left.frames = outer from kept) ▸ here⟩
  cases h with
  | refused | written => exact .inl rfl
  | created | begun => exact .inl (by cases target <;> rfl)
  | ended stored hf => exact off hf _ stored
  | failed hf fails =>
    cases fails with
    | operands => exact .inl (by cases target <;> rfl)
    | picture stored => exact off hf _ stored

end Ledger

namespace Session

section

variable {backend : Backend} {s : Session} {call : Call} {calls : List Call} {counter : Counter}
  {number : Nat}

/-- The number that a call takes is the next one. -/
theorem count_perform (h : s.document.Orderly) (backend : Backend) (call : Call)
    (counter : Counter) :
    (s.perform backend call).2.document.count counter = s.document.count counter ∨
      (s.perform backend call).2.document.count counter = s.document.count counter + 1 := by
  simp only [Document.count_eq_counter]
  exact ((h.step backend call).counter h.frames_nested counter.target).imp_right And.left

/-- What is held back when a float has ended is held back by a macro. -/
theorem inMacro_of_count_ne (h : s.document.Orderly)
    (taken : (s.perform backend call).2.document.count counter ≠ s.document.count counter)
    (held : (s.perform backend call).2.document.output.captures ≠ []) :
    (s.perform backend call).2.document.frames.InMacro := by
  simp only [Document.count_eq_counter] at taken
  rcases (h.step backend call).counter h.frames_nested counter.target with same | ⟨_, stands⟩
  · exact absurd same taken
  · obtain ⟨frame, carries, stands⟩ := stands
    refine (nested_perform backend call h.nested).1.inMacro held fun parent hp ↦ ?_
    have allowed := stands.allowed
    rw [show (s.perform backend call).2.document.ledger.frames.innermost = some parent from
      (Frames.innermost_bare _).trans hp] at allowed
    exact Kind.surrounds_parent (.inr carries) allowed

/-- The number that a call takes, if it takes one for a float inside a macro or is refused. -/
def asideNumber? (backend : Backend) (counter : Counter) (s : Session) (call : Call) :
    Option Nat :=
  let answer := (s.perform backend call).1
  let next := (s.perform backend call).2.document
  if next.count counter ≠ s.document.count counter ∧
      (answer.isOk = false ∨ next.frames.InMacro) then
    some (next.count counter)
  else none

/-- The numbers that the calls take for floats inside macros, and those that they take when they are
refused. -/
def asideNumbers (backend : Backend) (counter : Counter) (s : Session) : List Call → List Nat
  | [] => []
  | call :: calls =>
    (s.asideNumber? backend counter call).toList ++
      (s.perform backend call).2.asideNumbers backend counter calls

/-- A float that does not reach the root takes a number that is aside. -/
theorem SetsAside.asideNumber?_eq (h : s.document.Orderly) (ha : s.SetsAside backend call counter number) :
    s.asideNumber? backend counter call = some number := by
  have taken : (s.perform backend call).2.document.count counter ≠ s.document.count counter := by
    rw [ha.taken, ha.next]
    exact Nat.succ_ne_self _
  rw [asideNumber?, if_pos ⟨taken, ha.away.imp_right (inMacro_of_count_ne h taken)⟩, ha.taken]

theorem mem_asideNumbers (h : s.document.Orderly) {before after : List Call}
    (hc : calls = before ++ call :: after)
    (ha : (s.run backend before).SetsAside backend call counter number) :
    number ∈ s.asideNumbers backend counter calls := by
  subst hc
  induction before generalizing s with
  | nil =>
    refine List.mem_append_left _ (Option.mem_toList.mpr ?_)
    exact SetsAside.asideNumber?_eq h ha
  | cons first before ih => exact List.mem_append_right _ (ih (h.perform backend first) ha)

/-- Counts only go up. -/
theorem count_le_count_run (h : s.document.Orderly) (backend : Backend) (counter : Counter)
    (calls : List Call) :
    s.document.count counter ≤ (s.run backend calls).document.count counter := by
  induction calls generalizing s with
  | nil => exact Nat.le_refl _
  | cons call calls ih =>
    refine Nat.le_trans ?_ (ih (h.perform backend call))
    exact (count_perform h backend call counter).elim Eq.ge fun next ↦
      (Nat.le_succ _).trans next.ge

/-- The numbers that are aside have been counted. -/
theorem mem_range'_of_mem_asideNumbers (h : s.document.Orderly)
    (hm : number ∈ s.asideNumbers backend counter calls) :
    number ∈ List.range' 1 ((s.run backend calls).document.count counter) := by
  induction calls generalizing s with
  | nil => cases hm
  | cons call calls ih =>
    have next := h.perform backend call
    rcases List.mem_append.mp hm with hm | hm
    · have step := count_perform h backend call counter
      have later := count_le_count_run next backend counter calls
      rw [Option.mem_toList, asideNumber?, Option.ite_none_right_eq_some] at hm
      obtain ⟨⟨taken, _⟩, hm⟩ := hm
      cases hm
      refine List.mem_range'_1.mpr ⟨?_, Nat.lt_one_add_iff.mpr later⟩
      omega
    · exact ih next hm

/-- The summary of a closed document says how much has been numbered. -/
theorem count_of_close {summary : Summary} {final : FileSystem}
    (h : s.close backend = (.ok summary, final)) : summary.count = s.document.count := by
  obtain ⟨_, resources, rfl⟩ := closeFault_of_close h
  funext counter
  cases counter <;> rfl

end

/-- In the file of a closed document the numbers of floats are those up to the count, each once and
in order, but for those that are aside. No other numbers are read. -/
theorem numbers_run (context used : Context) (serial : Nat) (files : FileSystem) (s : Session)
    (hs : context.createDocument backend serial files = .ok (s, used)) (calls : List Call)
    (summary : Summary) (final : FileSystem)
    (hc : (s.run backend calls).close backend = (.ok summary, final)) :
    ∃ text, final.node? s.document.place = some (.text text) ∧ ∀ counter,
      let numbers := numbersBehind counter.mark.toList text.toList
      let counted := List.range' 1 (summary.count counter)
      let aside := s.asideNumbers backend counter calls
      numbers.filter (· ∉ aside) = counted.filter (· ∉ aside) ∧ numbers ⊆ counted := by
  obtain ⟨path, place, hd⟩ := context.exists_document_of_createDocument hs
  have orderly : s.document.Orderly := hd ▸ context.orderly_document path place serial
  have ending := context.endsIn_createDocument hs (c := 'l') (by decide) (by decide) (by decide)
  have there : (s.run backend calls).document.place = s.document.place :=
    congrArg (·.2.2.2.2) (run_keeps (keeps_origin_action backend) calls s)
  have file := (node?_of_close (there ▸ ending) hc).2.2
  rw [there] at file
  refine ⟨_, file, fun counter ↦ ?_⟩
  intro numbers counted aside
  have total : summary.count counter = (s.run backend calls).document.count counter :=
    congrFun (count_of_close hc) counter
  have start : s.Alike (numbering counter (· ∉ aside)) (ReadAtRoot counter (· ∉ aside)) s :=
    ⟨hd ▸ context.alike_numbering path place serial counter _, rfl⟩
  have read : ReadAtRoot counter (· ∉ aside) _ _ _ :=
    (alike_run respects_numbering follows_numbering start calls
      fun before call after he sort number ha hsort ↦ by
        subst hsort
        simpa using mem_asideNumbers orderly he ha).document.root
  have same : numbers.filter (· ∉ aside) = counted.filter (· ∉ aside) := by
    simpa only [counted, total] using read.filter_eq
  refine ⟨same, fun number hn ↦ ?_⟩
  by_cases ha : number ∈ aside
  · simpa only [counted, total] using mem_range'_of_mem_asideNumbers orderly ha
  · have kept : number ∈ numbers.filter (· ∉ aside) := List.mem_filter.mpr ⟨hn, by simpa using ha⟩
    exact (List.mem_filter.mp (same ▸ kept)).1

/-- The signature of a macro with a parameter. -/
def boxed : Macro.Signature := ⟨"box", 1, Nat.le_of_ble_eq_true rfl⟩

/-- A macro with an equation in its body. -/
def boxedEquation : List Call :=
  [.beginElement (.macroDefinition boxed), .beginElement (.equation none), .endElement .equation,
    .endElement .macroDefinition]

/-- An invocation of the macro. -/
def box : List Call := [.beginElement (.macroInvocation boxed), .endElement .macroInvocation]

/-- Calls inside the body of a document. -/
def within (calls : List Call) : List Call :=
  [.beginElement .header, .endElement .header, .beginElement .body] ++ calls ++ [.endElement .body]

/-- Floats of all sorts, and a macro with an equation between two others. -/
def floats : List Call :=
  within ([.beginElement (.figure none), .endElement .figure, .beginElement (.table none []),
    .endElement .table, .beginElement (.equation none), .endElement .equation] ++ boxedEquation ++
    box ++ [.beginElement (.equation none), .endElement .equation])

/-- The floats outside the macro are numbered in order, and the equation inside it takes the number
between. -/
theorem numbers_run_floats :
    ∃ s used summary final text,
      (⟨⟨"/"⟩, "index", {}, false⟩ : Context).createDocument backend 0 {} = .ok (s, used) ∧
      (s.run backend floats).close backend = (.ok summary, final) ∧
      final.node? s.document.place = some (.text text) ∧
      numbersBehind Counter.figures.mark.toList text.toList = [1] ∧
      numbersBehind Counter.tables.mark.toList text.toList = [1] ∧
      (numbersBehind Counter.equations.mark.toList text.toList).filter (· ∉ [2]) = [1, 3] := by
  obtain ⟨s, used, made, figures, tables, equations, counts, closed⟩ : ∃ s used,
      (⟨⟨"/"⟩, "index", {}, false⟩ : Context).createDocument backend 0 {} = .ok (s, used) ∧
      s.asideNumbers backend .figures floats = [] ∧ s.asideNumbers backend .tables floats = [] ∧
      s.asideNumbers backend .equations floats = [2] ∧
      [Counter.figures, .tables, .equations].map (s.run backend floats).document.count =
        [1, 1, 3] ∧
      ((s.run backend floats).close backend).1.isOk = true :=
    ⟨_, _, rfl, by decide +kernel⟩
  cases hc : (s.run backend floats).close backend with
  | mk answer final =>
    rw [hc] at closed
    cases answer with
    | error error => cases closed
    | ok summary =>
      obtain ⟨text, hn, read⟩ := numbers_run _ used 0 {} s made floats summary final hc
      rw [← count_of_close hc] at counts
      simp only [List.map_cons, List.map_nil, List.cons.injEq, and_true] at counts
      refine ⟨s, used, summary, final, text, made, hc, hn, ?_, ?_, ?_⟩
      · simpa [figures, counts.1] using (read .figures).1
      · simpa [tables, counts.2.1] using (read .tables).1
      · have three := (read .equations).1
        rw [equations, counts.2.2] at three
        exact three.trans (by decide)

/-- The document whose macro is invoked twice. -/
def boxes : List Call := within (boxedEquation ++ box ++ box)

/-- The characters of a file that has a byte for each. -/
def asciiChars (file : Option Node) : List Char :=
  ((bytes? file).getD []).map fun byte ↦ Char.ofNat byte.toNat

/-- The number of an equation in a macro comes as often as the macro is invoked, although the
equation is counted once. -/
theorem repeated_numbers_run :
    ∃ s used summary final text,
      (⟨⟨"/"⟩, "index", { humanReadable := false }, false⟩ : Context).createDocument backend 0 {} =
        .ok (s, used) ∧
      (s.run backend boxes).close backend = (.ok summary, final) ∧
      final.node? s.document.place = some (.text text) ∧
      numbersBehind Counter.equations.mark.toList text.toList = [1, 1] ∧
      List.range' 1 (summary.count .equations) = [1] := by
  obtain ⟨s, used, made, closed, counts, written, read⟩ : ∃ s used,
      (⟨⟨"/"⟩, "index", { humanReadable := false }, false⟩ : Context).createDocument backend 0 {} =
        .ok (s, used) ∧
      ((s.run backend boxes).close backend).1.isOk = true ∧
      (s.run backend boxes).document.count .equations = 1 ∧
      let file := ((s.run backend boxes).close backend).2.node? s.document.place
      bytes? file = some ((asciiChars file).flatMap String.utf8EncodeChar) ∧
        numbersBehind Counter.equations.mark.toList (asciiChars file) = [1, 1] :=
    ⟨_, _, rfl, by decide +kernel⟩
  have file := eq_text_of_bytes? written
  cases hc : (s.run backend boxes).close backend with
  | mk answer final =>
    rw [hc] at closed file read
    cases answer with
    | error error => cases closed
    | ok summary =>
      refine ⟨s, used, summary, final, _, made, hc, file, ?_, ?_⟩
      · rwa [String.toList_ofList]
      · rw [count_of_close hc, counts]
        rfl

end Session

end Manuscript
