import Manuscript.Proofs.Xhtml.Running

/-!
# Identifiers

An identifier in the file of a closed document is the key of a label or of a cited work. Neither
sort of key comes twice, but a key of one sort may be a key of the other, and an element that is
begun inside a macro is written whenever the macro is used. Nothing else repeats an identifier
(`Session.count_ids_run`).
-/

namespace Manuscript

open Markup Xhtml

/-- A key comes once among the labels that elements carry, and once among the cited works. -/
theorem Document.count_anchors_le {d : Document} (h : d.bibliography.Keyed) (id : String) :
    d.anchors.count id ≤ d.labels.attachedKeys.count id + d.bibliography.keys.count id := by
  have written : d.bibliography.works.map (escape ·.key) = d.bibliography.keys := by
    rw [Bibliography.keys]
    refine List.map_congr_left fun work hw ↦ ?_
    exact escape_eq_self (h.names _ (List.mem_map_of_mem hw))
  rw [anchors, List.count_append, written]
  split
  · exact Nat.le_refl _
  · exact Nat.le_add_right _ _

namespace Session

section Labels

variable {backend : Backend} {s : Session} {calls : List Call}

/-- An element with the identifier is begun somewhere inside a macro. -/
def Repeats (backend : Backend) (s : Session) (calls : List Call) (id : String) : Prop :=
  ∃ before element after, calls = before ++ .beginElement element :: after ∧
    ((s.run backend before).perform backend (.beginElement element)).1.isOk = true ∧
    (s.run backend before).document.frames.InMacro ∧ id ∈ anchorOf element.label?

/-- Genuine labels are welcome, and those that macros repeat are loose. -/
theorem Genuine.welcomes (hg : s.Genuine backend calls) (hk : s.document.bibliography.Keyed)
    {before after : List Call} {element : Element}
    (hc : calls = before ++ .beginElement element :: after)
    (ho : ((s.run backend before).perform backend (.beginElement element)).1.isOk = true) :
    (s.run backend before).document.Welcomes (s.Repeats backend calls) element where
  genuine _ hl _ hw := (hg.made hk hc hl hw).label? hk
  repeated hm _ hl :=
    ⟨before, element, after, hc, ho, hm, Option.mem_toList.mpr (Option.mem_map_of_mem _ hl)⟩

end Labels

/-- A body with an equation that carries a label of the document. -/
def labelledEquation : List Call :=
  [.beginElement .header, .endElement .header, .beginElement .body,
    .beginElement (.equation (some ⟨0, 0, 1, .equation⟩)), .endElement .equation,
    .endElement .body]

/-- The characters of a text. -/
def plainTokens (text : String) : List Token := text.toList.map (.text ∘ .char)

/-- An attribute whose value stands for itself. -/
def plainAttr (name value : String) : Attr := ⟨name, value.toList.map .char⟩

/-- The link to a style sheet. -/
def sheetToken (name media : String) : Token :=
  .empty "link" [plainAttr "rel" "stylesheet", plainAttr "type" "text/css", plainAttr "href" name,
    plainAttr "media" media]

/-- An equation without a formula. -/
def equationTokens (key number : String) : List Token :=
  [[.start "table" [plainAttr "class" "equation", plainAttr "id" key], .start "tr" [],
    .start "td" [plainAttr "class" "equationBody"], .stop "td",
    .start "td" [plainAttr "class" "equationNumber"]], plainTokens number,
    [.stop "td", .stop "tr", .stop "table"]].flatten

/-- A labelled section in which a macro with a labelled equation is invoked twice, and a work is
cited whose author has the name of the section's label. -/
def repeatingCalls : List Call :=
  [.createLabel .sect, .createLabel .equation,
    .beginElement .header, .endElement .header, .beginElement .body,
    .beginElement (.sect (some ⟨0, 0, 1, .sect⟩)), .beginElement .sectionBody,
    .beginElement (.macroDefinition ⟨"m", 0, by decide⟩),
    .beginElement (.equation (some ⟨0, 1, 1, .equation⟩)), .endElement .equation,
    .endElement .macroDefinition,
    .beginElement (.macroInvocation ⟨"m", 0, by decide⟩), .endElement .macroInvocation,
    .beginElement (.macroInvocation ⟨"m", 0, by decide⟩), .endElement .macroInvocation,
    .beginElement .paragraph,
    .cite .numbers [{ authors := [⟨"", "Sec1"⟩], title := "T", kind := .website none }],
    .endElement .paragraph, .endElement .sectionBody, .endElement .sect, .endElement .body]

/-- What these calls write behind the prolog. -/
def repeatingTokens : List Token :=
  [[.start "html" [plainAttr "xmlns" "http://www.w3.org/1999/xhtml", plainAttr "xml:lang" "en"]],
    plainTokens "\n", [.start "head" []], plainTokens "\n",
    [.empty "meta" [plainAttr "http-equiv" "Content-Type",
      plainAttr "content" "application/xhtml+xml; charset=UTF-8"]], plainTokens "\n",
    [.start "title" [], .stop "title", sheetToken "screen.css" "screen",
      sheetToken "print.css" "print"], plainTokens "\n", [.stop "head"], plainTokens "\n",
    [.start "body" [], .start "div" [plainAttr "class" "section", plainAttr "id" "sec1"],
      .start "div" [plainAttr "class" "sectionBody"]],
    equationTokens "eq1" "(1)", equationTokens "eq1" "(1)",
    [.start "p" []], plainTokens "[", [.start "a" [plainAttr "href" "#sec1"]], plainTokens "1",
    [.stop "a"], plainTokens "]", [.stop "p", .stop "div", .stop "div"],
    [.start "div" [plainAttr "class" "references"],
      .start "h2" [plainAttr "class" "sectionHead"]], plainTokens "References",
    [.stop "h2", .start "ol" [plainAttr "class" "references"],
      .start "li" [plainAttr "id" "sec1"]], plainTokens "by Sec1: “T”.",
    [.stop "li", .stop "ol", .stop "div"], plainTokens "\n", [.stop "body"], plainTokens "\n",
    [.stop "html"], plainTokens "\n"].flatten

end Session

end Manuscript
