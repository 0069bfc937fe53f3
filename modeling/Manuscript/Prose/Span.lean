/-!
# Runs of text

A phrase is a list of spans: plain text, non-breaking spaces, emphasised text and links. Whoever
writes a phrase decides what the spans become; `Phrase.plain` is what is left of them where no
style can be shown.
-/

namespace Manuscript

/-- A run of text of one style. -/
inductive Span where
  | text (text : String)
  | space
  | emphasized (text : String)
  | link (target text : String)
  deriving DecidableEq, Repr

/-- A list of runs, read from left to right. -/
abbrev Phrase := List Span

namespace Span

/-- A space at which no line may be broken. -/
def noBreakSpace : String := "\u00a0"

/-- The text of the run without its style. -/
def plain : Span → String
  | .text s => s
  | .space => noBreakSpace
  | .emphasized s => s
  | .link _ s => s

end Span

namespace Phrase

/-- The text of the phrase without styles. -/
def plain (phrase : Phrase) : String := String.join (phrase.map Span.plain)

end Phrase

end Manuscript
