import Manuscript.Xhtml.Escape

/-!
# Tags

Start tags, end tags and empty tags. Attribute values are escaped here and nowhere else.
-/

namespace Manuscript

namespace Xhtml

/-- The name of an attribute with its value as plain text. -/
abbrev Attribute := String × String

/-- An attribute inside a tag. -/
def attr (name value : String) : String := " " ++ name ++ "=\"" ++ escape value ++ "\""

/-- The attributes of a tag. -/
def attributes (list : List Attribute) : String :=
  String.join (list.map fun (name, value) ↦ attr name value)

/-- The tag that opens an element. -/
def startTag (name : String) (list : List Attribute) : String :=
  "<" ++ name ++ attributes list ++ ">"

/-- The tag that closes an element. -/
def endTag (name : String) : String := "</" ++ name ++ ">"

/-- The tag of an element without content. -/
def emptyTag (name : String) (list : List Attribute) : String :=
  "<" ++ name ++ attributes list ++ "/>"

/-- An element around content that is markup already. -/
def element (name : String) (list : List Attribute) (content : String) : String :=
  startTag name list ++ content ++ endTag name

/-- The attribute that style sheets refer to. -/
def classed (name : String) : List Attribute := [("class", name)]

/-- The identifier of an element, if it has one. -/
def identified (anchor : Option String) : List Attribute := (anchor.map (("id", ·))).toList

end Xhtml

end Manuscript
