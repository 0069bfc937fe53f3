import Manuscript.Storage.MediaType.Application
import Manuscript.Storage.MediaType.Audiovisual
import Manuscript.Storage.MediaType.Text
import Manuscript.Storage.Path

/-!
# Media types

The media type of a file is guessed from its extension, whatever the case of its letters.
-/

namespace Manuscript

namespace MediaType

/-- The media type of a file of unknown content. -/
def unknown : String := "application/octet-stream"

/-- The kinds with their subtypes. No extension occurs twice. -/
def kinds : List (String × List (String × List String)) :=
  [("application", standardApplications), ("application", vendorApplications),
    ("application", unregisteredApplications), ("audio", audio), ("image", image),
    ("model", model), ("video", video), ("text", text), ("chemical", chemical),
    ("drawing", drawing), ("font", font), ("message", message), ("x-conference", conference),
    ("x-world", world)]

/-- The subtype that lists an extension. -/
def subtype? (subtypes : List (String × List String)) (ending : String) : Option String :=
  (subtypes.find? (·.2.contains ending)).map Prod.fst

/-- The media type of files with an extension in lower case. -/
def ofExtension? (ending : String) : Option String :=
  kinds.findSome? fun (kind, subtypes) ↦ (subtype? subtypes ending).map (kind ++ "/" ++ ·)

/-- The character without case. Beside the capital letters there are ligatures and variants that
stand for small letters. -/
def foldCase (c : Char) : List Char :=
  match c with
  | 'ſ' => ['s']
  | '\u212a' => ['k']
  | 'ß' | 'ẞ' => ['s', 's']
  | 'ﬀ' => ['f', 'f']
  | 'ﬁ' => ['f', 'i']
  | 'ﬂ' => ['f', 'l']
  | 'ﬃ' => ['f', 'f', 'i']
  | 'ﬄ' => ['f', 'f', 'l']
  | 'ﬅ' | 'ﬆ' => ['s', 't']
  | c => [c.toLower]

/-- The media type of the file that a path names. -/
def ofPath (path : Path) : String :=
  match path.extension? with
  | some ending => (ofExtension? (String.ofList (ending.toList.flatMap foldCase))).getD unknown
  | none => unknown

end MediaType

end Manuscript
