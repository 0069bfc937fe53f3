/-!
# Operators of formulas

Each operator has bounds on the number of its operands, a symbol, and a plain-text form for places
that hold no markup. The markup of an operator belongs to the backend.
-/

namespace Manuscript

/-- An operator that a formula applies to its operands. -/
inductive Operator where
  | add
  | subtract
  | multiply
  | divide
  | equals
  | notEquals
  | less
  | lessOrEqual
  | greater
  | greaterOrEqual
  | approx
  | and
  | or
  | elementOf
  | subset
  | union
  | intersection
  | modulo
  | assign
  | negate
  | not
  | factorial
  | parentheses
  | brackets
  | braces
  | floor
  | ceil
  | set
  | tuple
  | fraction
  | power
  | sqrt
  | root
  | sum
  | product
  | function
  | abs
  deriving DecidableEq, Repr

namespace Operator

/-- Every operator. -/
def all : List Operator :=
  [add, subtract, multiply, divide, equals, notEquals, less, lessOrEqual, greater,
    greaterOrEqual, approx, and, or, elementOf, subset, union, intersection, modulo, assign,
    negate, not, factorial, parentheses, brackets, braces, floor, ceil, set, tuple, fraction,
    power, sqrt, root, sum, product, function, abs]

/-- The name that messages use. -/
def name : Operator → String
  | add => "Add"
  | subtract => "Subtract"
  | multiply => "Multiply"
  | divide => "Divide"
  | equals => "Equals"
  | notEquals => "NotEquals"
  | less => "Less"
  | lessOrEqual => "LessOrEqual"
  | greater => "Greater"
  | greaterOrEqual => "GreaterOrEqual"
  | approx => "Approx"
  | and => "And"
  | or => "Or"
  | elementOf => "ElementOf"
  | subset => "Subset"
  | union => "Union"
  | intersection => "Intersection"
  | modulo => "Modulo"
  | assign => "Assign"
  | negate => "Negate"
  | not => "Not"
  | factorial => "Factorial"
  | parentheses => "Parentheses"
  | brackets => "Brackets"
  | braces => "Braces"
  | floor => "Floor"
  | ceil => "Ceil"
  | set => "Set"
  | tuple => "Tuple"
  | fraction => "Fraction"
  | power => "Power"
  | sqrt => "Sqrt"
  | root => "Root"
  | sum => "Sum"
  | product => "Product"
  | function => "Function"
  | abs => "Abs"

/-- Bounds on the number of operands; `most` is absent when any number from `fewest` on will do. -/
structure Arity where
  fewest : Nat
  most : Option Nat
  deriving DecidableEq, Repr

/-- How many operands the operator takes. -/
def arity : Operator → Arity
  | add | subtract | multiply | divide | equals | notEquals | less | lessOrEqual | greater
  | greaterOrEqual | approx | and | or | union | intersection => ⟨2, none⟩
  | elementOf | subset | modulo | assign | fraction | power | root => ⟨2, some 2⟩
  | negate | not | factorial | parentheses | brackets | braces | floor | ceil | sqrt | abs =>
    ⟨1, some 1⟩
  | set | tuple => ⟨0, none⟩
  | sum | product => ⟨3, some 3⟩
  | function => ⟨1, none⟩

/-- Whether the operator takes `count` operands. -/
def accepts (operator : Operator) (count : Nat) : Bool :=
  operator.arity.fewest ≤ count && operator.arity.most.all (count ≤ ·)

/-- The symbol of the operator in plain text, empty where the operator has only brackets. -/
def symbol : Operator → String
  | add => "+"
  | subtract | negate => "\u2212"
  | multiply => "\u00b7"
  | divide | fraction => "/"
  | equals => "="
  | notEquals => "\u2260"
  | less => "<"
  | lessOrEqual => "\u2264"
  | greater => ">"
  | greaterOrEqual => "\u2265"
  | approx => "\u2248"
  | and => "\u2227"
  | or => "\u2228"
  | elementOf => "\u2208"
  | subset => "\u2286"
  | union => "\u222a"
  | intersection => "\u2229"
  | modulo => "mod"
  | assign => "\u2190"
  | not => "\u00ac"
  | factorial => "!"
  | power => "^"
  | sqrt | root => "\u221a"
  | sum => "\u2211"
  | product => "\u220f"
  | parentheses | brackets | braces | floor | ceil | set | tuple | function | abs => ""

/-- The operands between two delimiters, with commas between them. -/
def listed (opening closing : String) (operands : List String) : String :=
  opening ++ ", ".intercalate operands ++ closing

/-- The plain-text form of the operator applied to operands. An operator whose form needs a fixed
number of operands writes any other number with its symbol between them. -/
def plainText (operator : Operator) (operands : List String) : String :=
  match operator, operands with
  | negate, [x] => "\u2212" ++ x
  | not, [x] => "\u00ac" ++ x
  | sqrt, [x] => "\u221a" ++ x
  | factorial, [x] => x ++ "!"
  | parentheses, [x] => "(" ++ x ++ ")"
  | brackets, [x] => "[" ++ x ++ "]"
  | braces, [x] => "\x7b" ++ x ++ "\x7d"
  | floor, [x] => "\u230a" ++ x ++ "\u230b"
  | ceil, [x] => "\u2308" ++ x ++ "\u2309"
  | abs, [x] => "|" ++ x ++ "|"
  | set, operands => listed "\x7b" "\x7d" operands
  | tuple, operands => listed "(" ")" operands
  | function, applied :: arguments => applied ++ listed "(" ")" arguments
  | root, [index, radicand] => index ++ "\u221a" ++ radicand
  | power, [base, exponent] => base ++ "^" ++ exponent
  | sum, [lower, upper, summand] => "\u2211_" ++ lower ++ "^" ++ upper ++ " " ++ summand
  | product, [lower, upper, factor] => "\u220f_" ++ lower ++ "^" ++ upper ++ " " ++ factor
  | operator, operands => (" " ++ operator.symbol ++ " ").intercalate operands

end Operator

end Manuscript
