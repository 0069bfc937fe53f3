import Manuscript.Prose.Span

/-!
# Series of items

Items are joined the way a sentence lists them: `A, B, and C`, `either A or B`, `1 to 4`. The last
item follows the conjunction after an ordinary space or, when it is bound, after a non-breaking
one.
-/

namespace Manuscript

/-- How the items of a series are joined. -/
inductive Joiner where
  /-- `A, B, C` -/
  | comma
  /-- `A, B, and C` -/
  | and
  /-- `A, B, or C` -/
  | or
  /-- `either A, B, or C` -/
  | xor
  /-- `neither A, B, nor C` -/
  | nor
  /-- `A to C` -/
  | fromTo
  deriving DecidableEq, Repr

namespace Joiner

/-- Every way of joining. -/
def all : List Joiner := [comma, and, or, xor, nor, fromTo]

/-- The name of the way of joining. -/
def name : Joiner → String
  | comma => "Comma"
  | and => "And"
  | or => "Or"
  | xor => "Xor"
  | nor => "Nor"
  | fromTo => "FromTo"

/-- What stands in front of a lone item. -/
def loneLead : Joiner → Phrase
  | nor => [.text "not "]
  | _ => []

/-- What stands in front of several items. -/
def lead : Joiner → Phrase
  | xor => [.text "either "]
  | nor => [.text "neither "]
  | _ => []

/-- The word in front of the last of several items. -/
def conjunction : Joiner → Option String
  | comma => none
  | and => some "and"
  | or => some "or"
  | xor => some "or"
  | nor => some "nor"
  | fromTo => some "to"

/-- How many of several items stand in front of the last one: a range shows only its first. -/
def stop (joiner : Joiner) (count : Nat) : Nat := if joiner = fromTo then 1 else count - 1

/-- What stands between the items in front and the last one: a comma if `many` items are in front
or no conjunction follows, the conjunction, and a space. -/
def link (joiner : Joiner) (many bound : Bool) : Phrase :=
  (if many || joiner == comma then [.text ","] else []) ++
  (match joiner.conjunction with
    | some word => [.text " ", .text word]
    | none => []) ++
  [if bound then .space else .text " "]

end Joiner

/-- Items that are written one at a time. Whoever writes them may keep a state and change it. -/
structure Source (σ : Type) where
  /-- How many items there are. -/
  length : σ → Nat
  /-- Write the item at a position. -/
  write : Nat → StateM σ Phrase

namespace Source

/-- The texts of a list; there is nothing behind its end. -/
def ofList (texts : List String) : Source Unit where
  length _ := texts.length
  write index := pure (match texts[index]? with
    | some text => [.text text]
    | none => [])

/-- The texts of an array; there is nothing behind its end. -/
def ofArray (texts : Array String) : Source Unit where
  length _ := texts.size
  write index := pure (match texts[index]? with
    | some text => [.text text]
    | none => [])

variable {σ : Type}

/-- As many items as stated, written by a function. -/
def ofFn (length : Nat) (write : Nat → StateM σ Phrase) : Source σ where
  length _ := length
  write := write

/-- Write the items in front of a position, with commas between them. -/
def front (source : Source σ) : Nat → StateM σ Phrase
  | 0 => pure []
  | index + 1 => do
    let written ← source.front index
    let item ← source.write index
    pure (written ++ (if 0 < index then [.text ", "] else []) ++ item)

/-- Write the items joined; `bound` puts a non-breaking space in front of the last one. -/
def join (source : Source σ) (joiner : Joiner) (bound : Bool) : StateM σ Phrase := do
  let count := source.length (← get)
  match count with
  | 0 => pure []
  | 1 =>
    let item ← source.write 0
    pure (joiner.loneLead ++ item)
  | _ =>
    let stop := joiner.stop count
    let front ← source.front stop
    let item ← source.write (count - 1)
    pure (joiner.lead ++ front ++ joiner.link (1 < stop) bound ++ item)

end Source

namespace Series

/-- The item at a position, nothing if there is none. -/
def item (items : List Phrase) (index : Nat) : Phrase := items[index]?.getD []

/-- Join items that are there already. -/
def join (joiner : Joiner) (bound : Bool) (items : List Phrase) : Phrase :=
  (((Source.ofFn items.length fun index ↦ pure (item items index)).join joiner bound).run ()).1

/-- Join texts with commas and `and`. -/
def andTexts (texts : List String) : Phrase :=
  (((Source.ofList texts).join .and false).run ()).1

end Series

end Manuscript
