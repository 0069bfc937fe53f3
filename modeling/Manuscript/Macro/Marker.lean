/-!
# Placeholder markers

Inside a macro body a parameter is a marker: a character of the private-use area. Text that happens
to hold a marker is written so that it cannot be taken for one: as a character reference in markup,
as a replacement character in plain text.
-/

namespace Manuscript

namespace Marker

/-- The code point of the marker of the first parameter. -/
def base : Nat := 0xe000

/-- The number of markers, one for each parameter that a macro may have. -/
def count : Nat := 9

/-- The marker of a parameter, if there are that many. -/
def char? (index : Nat) : Option Char :=
  if index < count then some (Char.ofNat (base + index)) else none

/-- The parameter that a character marks. -/
def index? (c : Char) : Option Nat :=
  if base ≤ c.toNat ∧ c.toNat < base + count then some (c.toNat - base) else none

/-- What stands for a marker in plain text. -/
def replacement : Char := '\ufffd'

/-- The text with every marker replaced. -/
def hide (text : String) : String :=
  String.ofList (text.toList.map fun c ↦ if (index? c).isSome then replacement else c)

end Marker

end Manuscript
