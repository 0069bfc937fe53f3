import Manuscript.Formula.Operator
import Manuscript.Xhtml.Tag

/-!
# Formulas

Operators become text with signs between the operands, or nested tables where a formula needs two
dimensions. A two-dimensional form with the wrong number of operands is left out.
-/

namespace Manuscript

namespace Xhtml

/-- Operands with signs in front, between and behind. -/
def enclosed (opening separator closing : String) (operands : List String) : String :=
  opening ++ separator.intercalate operands ++ closing

/-- Operands with a sign between each two. -/
def chained (sign : String) (operands : List String) : String := enclosed "" sign "" operands

/-- Operands between delimiters, with commas between them. -/
def bracketed (opening closing : String) (operands : List String) : String :=
  enclosed opening ", " closing operands

/-- A cell of a formula table. -/
def cell (role content : String) : String := element "td" (classed role) content

/-- A cell of a formula table that plays no role. -/
def plainCell (content : String) : String := element "td" [] content

/-- A row of a formula table. -/
def row (cells : List String) : String := element "tr" [] (String.join cells)

/-- A formula laid out as a table. -/
def layout (role : String) (rows : List String) : String :=
  element "table" (classed ("math " ++ role)) (String.join rows)

/-- The sign of roots, as a character reference. -/
def radical : String := cell "radical" "&#x221A;"

/-- A numerator above a denominator. -/
def fraction : List String → String
  | [top, bottom] =>
    layout "fraction" [row [cell "fractionTop" top], row [cell "fractionBottom" bottom]]
  | _ => ""

/-- A base with an exponent beside its upper half. -/
def power : List String → String
  | [base, exponent] =>
    layout "power"
      [row [element "td" [("class", "base"), ("rowspan", "2")] base, cell "exponent" exponent],
        row [plainCell ""]]
  | _ => ""

/-- A square root. -/
def squareRoot : List String → String
  | [radicand] => layout "sqrt" [row [radical, cell "radicand" radicand]]
  | _ => ""

/-- A root with its index in front. -/
def indexedRoot : List String → String
  | [index, radicand] =>
    layout "root" [row [cell "rootIndex" index, radical, cell "radicand" radicand]]
  | _ => ""

/-- A large sign between its limits, with the body behind it. -/
def bigOperator (sign : String) : List String → String
  | [lower, upper, body] =>
    layout "bigOperator"
      [row [cell "limit" upper, plainCell ""],
        row [cell "bigOperator" sign, plainCell body],
        row [cell "limit" lower, plainCell ""]]
  | _ => ""

/-- A function in front of its arguments. -/
def application : List String → String
  | applied :: arguments => applied ++ bracketed "(" ")" arguments
  | [] => ""

/-- An operand between bars. -/
def absolute : List String → String
  | [value] => layout "abs" [row [cell "bar" "|", plainCell value, cell "bar" "|"]]
  | _ => ""

/-- The markup of an operator applied to operands. -/
def formula : Operator → List String → String
  | .add => chained " + "
  | .subtract => chained " \u2212 "
  | .multiply => chained " \u00b7 "
  | .divide => chained "/"
  | .equals => chained " = "
  | .notEquals => chained " \u2260 "
  | .less => chained " &lt; "
  | .lessOrEqual => chained " \u2264 "
  | .greater => chained " &gt; "
  | .greaterOrEqual => chained " \u2265 "
  | .approx => chained " \u2248 "
  | .and => chained " \u2227 "
  | .or => chained " \u2228 "
  | .elementOf => chained " \u2208 "
  | .subset => chained " \u2286 "
  | .union => chained " \u222a "
  | .intersection => chained " \u2229 "
  | .modulo => chained " mod "
  | .assign => chained " \u2190 "
  | .negate => bracketed "\u2212" ""
  | .not => bracketed "\u00ac" ""
  | .factorial => bracketed "" "!"
  | .parentheses => bracketed "(" ")"
  | .brackets => bracketed "[" "]"
  | .braces => bracketed "\x7b" "\x7d"
  | .floor => bracketed "\u230a" "\u230b"
  | .ceil => bracketed "\u2308" "\u2309"
  | .set => bracketed "\x7b" "\x7d"
  | .tuple => bracketed "(" ")"
  | .fraction => fraction
  | .power => power
  | .sqrt => squareRoot
  | .root => indexedRoot
  | .sum => bigOperator "\u2211"
  | .product => bigOperator "\u220f"
  | .function => application
  | .abs => absolute

end Xhtml

end Manuscript
