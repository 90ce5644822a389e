import Reckoner.Expression.Sign

/-!
# The grammar of expressions

An expression is a tree of figures, signs and operators between two operands. It is written as a
list of terminals: sums of products of factors, where a factor is a figure, a signed factor or a sum
in parentheses, and operators of one level are carried out from left to right. Parentheses belong to
the writing and not to the tree. A tree has a value by recursion and a listing in which every
operator follows its operands.
-/

namespace Reckoner.Expression

set_option autoImplicit false

structure Figure where
  text : Text
  value : Binary64
  isShare : Bool
deriving DecidableEq

namespace Figure

def token (figure : Figure) : Token :=
  ⟨if figure.isShare then .percent else .number, figure.text, some figure.value⟩

def ofNumeral (numeral : Numeral) : Figure :=
  ⟨numeral.text, numeral.value, numeral.isPercent⟩

end Figure

inductive Sign
  | plus
  | minus
deriving DecidableEq

namespace Sign

def char : Sign → Char
  | plus => '+'
  | minus => '-'

def token : Sign → Token
  | plus => .bare .operator Token.unaryPlus
  | minus => .bare .operator Token.unaryMinus

end Sign

/-- How tightly a part of an expression holds together. -/
inductive Level
  | sum
  | product
  | factor
deriving DecidableEq

/-- The level of the right operands of a level's operators. -/
def Level.next : Level → Level
  | sum => product
  | product => factor
  | factor => factor

inductive Operator
  | plus
  | minus
  | times
  | divide
deriving DecidableEq

namespace Operator

def char : Operator → Char
  | plus => '+'
  | minus => '-'
  | times => '*'
  | divide => '/'

def token (operator : Operator) : Token :=
  .bare .operator [operator.char]

def level : Operator → Level
  | plus | minus => .sum
  | times | divide => .product

end Operator

/-- An expression without its parentheses. -/
inductive Tree
  | leaf (figure : Figure)
  | signed (sign : Sign) (operand : Tree)
  | combined (operator : Operator) (left right : Tree)

namespace Tree

/-- A figure under any signs keeps being a share; the result of an operator is plain. -/
def isShare : Tree → Bool
  | leaf figure => figure.isShare
  | signed _ operand => operand.isShare
  | combined _ _ _ => false

/-- The value of an expression. Adding or subtracting a share takes it of the other operand, the
right one being asked first; other operators take it as the fraction it is. -/
def value : Tree → Binary64
  | leaf figure => figure.value
  | signed .plus operand => operand.value
  | signed .minus operand => -operand.value
  | combined .plus left right =>
      if right.isShare then left.value + left.value * right.value
      else if left.isShare then right.value + right.value * left.value
      else left.value + right.value
  | combined .minus left right =>
      if right.isShare then left.value - left.value * right.value
      else if left.isShare then right.value - right.value * left.value
      else left.value - right.value
  | combined .times left right => left.value * right.value
  | combined .divide left right =>
      if right.value.isZero then .nan else left.value / right.value

/-- The tokens of an expression with each operator behind its operands. -/
def postorder : Tree → List Token
  | leaf figure => [figure.token]
  | signed sign operand => operand.postorder ++ [sign.token]
  | combined operator left right => left.postorder ++ (right.postorder ++ [operator.token])

end Tree

inductive Terminal
  | figure (figure : Figure)
  | sign (sign : Sign)
  | operator (operator : Operator)
  | opening
  | closing
deriving DecidableEq

namespace Terminal

/-- The token of a terminal, signs of single operands marked. -/
def token : Terminal → Token
  | .figure found => found.token
  | .sign found => found.token
  | .operator found => found.token
  | .opening => .bare .openParen ['(']
  | .closing => .bare .closeParen [')']

/-- The token of a terminal as it is read, where signs look like operators. -/
def unmarked : Terminal → Token
  | .sign found => .bare .operator [found.char]
  | terminal => terminal.token

end Terminal

/-- The terminals are a writing of the tree as a part of the level. -/
inductive Derives : Level → Tree → List Terminal → Prop
  | figure (figure : Figure) : Derives .factor (.leaf figure) [.figure figure]
  | signed {operand : Tree} {terminals : List Terminal} (sign : Sign) :
      Derives .factor operand terminals →
      Derives .factor (.signed sign operand) (.sign sign :: terminals)
  | group {tree : Tree} {terminals : List Terminal} :
      Derives .sum tree terminals →
      Derives .factor tree (.opening :: (terminals ++ [.closing]))
  | single {level : Level} {tree : Tree} {terminals : List Terminal} :
      Derives level.next tree terminals →
      Derives level tree terminals
  | combined {left right : Tree} {before behind : List Terminal} (operator : Operator) :
      Derives operator.level left before →
      Derives operator.level.next right behind →
      Derives operator.level (.combined operator left right)
        (before ++ .operator operator :: behind)

end Reckoner.Expression
