import Manuscript.Macro.Marker

/-!
# Escaped text

Text becomes character data of XHTML by writing the characters that would start markup as
references. Markers of macro parameters are written as references too, so that text never looks
like a placeholder.
-/

namespace Manuscript

namespace Xhtml

/-- A character as character data. -/
def escapeChar (c : Char) : List Char :=
  match c with
  | '&' => ['&', 'a', 'm', 'p', ';']
  | '<' => ['&', 'l', 't', ';']
  | '>' => ['&', 'g', 't', ';']
  | '"' => ['&', 'q', 'u', 'o', 't', ';']
  | c =>
    match Marker.index? c with
    | some index => ['&', '#', 'x', 'E', '0', '0', Nat.digitChar index, ';']
    | none => [c]

/-- A text as character data. -/
def escape (text : String) : String := String.ofList (text.toList.flatMap escapeChar)

/-- What a buffer holds, and behind it a text as character data, written a character at a time. -/
def escapeOnto (buffer text : String) : String :=
  text.toList.foldl (fun written c ↦ written ++ String.ofList (escapeChar c)) buffer

@[simp] theorem escapeOnto_eq (buffer text : String) :
    escapeOnto buffer text = buffer ++ escape text := by
  unfold escapeOnto escape
  induction text.toList generalizing buffer with
  | nil => exact String.append_empty.symm
  | cons c cs ih =>
    rw [List.foldl_cons, ih, List.flatMap_cons, String.ofList_append, String.append_assoc]

end Xhtml

end Manuscript
