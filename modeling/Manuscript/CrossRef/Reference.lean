import Manuscript.CrossRef.Registry
import Manuscript.Prose.Series

/-!
# References to labels

A reference lists labels as links with nouns in front: `Figures 1 and 2 and Table 3`. Neighbours of
one target share a noun.
-/

namespace Manuscript

namespace Reference

/-- What a link to a label shows: its number, or a triangle that points up to an element that is
still open and down to one that has not been begun. -/
def shownState : LabelState → String
  | .resolved number => number
  | .begun => "\u25b2"
  | .pending => "\u25bc"

/-- The labels that stand before and after position `index`. A range shows its two ends alone, so
there they are each other's neighbours. -/
def neighbours (joiner : Joiner) (labels : List Label) (index : Nat) :
    Option Label × Option Label :=
  if joiner = .fromTo then
    if index = 0 then (none, if 1 < labels.length then labels.getLast? else none)
    else (labels.head?, none)
  else (if index = 0 then none else labels[index - 1]?, labels[index + 1]?)

/-- Whether there is a label with the target. -/
def hasTarget (target : Target) (label : Option Label) : Bool :=
  label.any (·.target == target)

/-- The noun in front of the link at a position, unless the label before it has the same target. It
is plural if the label after it has the same target too. -/
def noun (joiner : Joiner) (labels : List Label) (index : Nat) (label : Label) : Phrase :=
  let (previous, next) := neighbours joiner labels index
  if hasTarget label.target previous then []
  else [.text (label.target.noun (hasTarget label.target next)), .space]

/-- The link to a label. -/
def link (label : Label) (state : LabelState) : Span :=
  .link ("#" ++ label.key) (shownState state)

/-- The references to labels whose states are known. -/
def phrase (joiner : Joiner) (bound : Bool) (labels : List Label) (states : List LabelState) :
    Phrase :=
  Series.join joiner bound
    ((labels.zip states).mapIdx fun index (label, state) ↦
      noun joiner labels index label ++ [link label state])

end Reference

end Manuscript
