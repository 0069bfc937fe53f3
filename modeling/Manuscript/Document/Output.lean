/-!
# Output

Text goes to the innermost capture, or to the root if nothing is held back. The root is streamed to
the file once it is long enough; a capture is released as a whole.
-/

namespace Manuscript

/-- Markup and the plain text that it reads as. -/
structure Passage where
  markup : String := ""
  text : String := ""
  deriving DecidableEq, Repr

namespace Passage

/-- One passage behind the other. -/
def append (first second : Passage) : Passage :=
  ⟨first.markup ++ second.markup, first.text ++ second.text⟩

instance : Append Passage := ⟨append⟩

/-- Whether both channels are empty. -/
def isEmpty (passage : Passage) : Bool := passage.markup == "" && passage.text == ""

/-- Passages one behind the other. -/
def join (passages : List Passage) : Passage := passages.foldr append {}

end Passage

/-- What has been written: the part that is in the file, the part that waits at the root, and the
captures, the innermost first. -/
structure Output where
  streamed : String := ""
  root : Passage := {}
  captures : List Passage := []
  /-- The number of bytes of markup from which on the root is streamed; without it the root is never
  streamed. -/
  threshold : Option Nat := some (16 * 1024)
  deriving DecidableEq, Repr

namespace Output

/-- Append to the innermost capture, or to the root. -/
def write (output : Output) (passage : Passage) : Output :=
  match output.captures with
  | [] => { output with root := output.root ++ passage }
  | capture :: outer => { output with captures := (capture ++ passage) :: outer }

/-- Begin a capture. -/
def capture (output : Output) : Output := { output with captures := {} :: output.captures }

/-- End the innermost capture and hand it over. -/
def release? (output : Output) : Option (Passage × Output) :=
  match output.captures with
  | [] => none
  | capture :: outer => some (capture, { output with captures := outer })

/-- Move the root into the file. -/
def drain (output : Output) : Output :=
  { output with streamed := output.streamed ++ output.root.markup, root := {} }

/-- Move the root into the file if nothing is captured and the root is long enough. -/
def stream (output : Output) : Output :=
  if output.captures.isEmpty && output.threshold.any (· ≤ output.root.markup.utf8ByteSize) then
    output.drain
  else output

@[simp] theorem length_captures_write (output : Output) (passage : Passage) :
    (output.write passage).captures.length = output.captures.length := by
  unfold write
  split
  · next h => rw [h]
  · next h => rw [h, List.length_cons, List.length_cons]

@[simp] theorem captures_stream (output : Output) : output.stream.captures = output.captures := by
  unfold stream
  split <;> rfl

end Output

end Manuscript
