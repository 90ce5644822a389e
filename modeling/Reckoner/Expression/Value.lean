import Reckoner.Expression.Lexeme
import Reckoner.Expression.Normal
import Reckoner.Expression.Postfix
import Reckoner.Expression.Sign

/-!
# The value of an expression

Tokens in postfix order are carried out on a stack of operands. An operand is a plain number or a
share that comes from a percent literal: adding or subtracting a share takes it of the other
operand, the right one being asked first, and every other operator takes it as the fraction it is.
Signs leave a share a share; the result of an operator between two operands is always plain.

An operand may lack its number, where its token carries none. It can be left over as it is and keep
a sign that changes nothing, but no calculation can be made with it.
-/

namespace Reckoner.Expression

set_option autoImplicit false

/-- A number on the stack, as far as there is one, and whether it still counts as a share. -/
inductive Operand
  | plain (number : Option Binary64)
  | share (fraction : Option Binary64)
deriving DecidableEq

namespace Operand

/-- The number of an operand; of a share, its fraction. -/
def number : Operand → Option Binary64
  | plain number => number
  | share fraction => fraction

def opposite : Option Binary64 → Except Fault Binary64
  | some number => .ok (-number)
  | none => .error .numberlessNegation

/-- The operand with its sign changed; a share stays one. -/
def negated : Operand → Except Fault Operand
  | plain number => (opposite number).map fun changed => plain (some changed)
  | share fraction => (opposite fraction).map fun changed => share (some changed)

/-- The result of a calculation with two numbers, neither of which may be missing. -/
def calculated (sign : Char) (calculation : Binary64 → Binary64 → Binary64) :
    Option Binary64 → Option Binary64 → Except Fault Binary64
  | some left, some right => .ok (calculation left right)
  | left, right => .error (.numberlessOperand sign left.isSome right.isSome)

def part (whole fraction : Option Binary64) : Except Fault Binary64 :=
  calculated '*' (· * ·) whole fraction

/-- The sum. A share is taken of the other operand. -/
def sum : Operand → Operand → Except Fault Binary64
  | left, share fraction => do
      let taken ← part left.number fraction
      calculated '+' (· + ·) left.number (some taken)
  | share fraction, plain right => do
      let taken ← part right fraction
      calculated '+' (· + ·) right (some taken)
  | plain left, plain right => calculated '+' (· + ·) left right

/-- The difference. A share is taken of the other operand and off it, whichever side it is on. -/
def difference : Operand → Operand → Except Fault Binary64
  | left, share fraction => do
      let taken ← part left.number fraction
      calculated '-' (· - ·) left.number (some taken)
  | share fraction, plain right => do
      let taken ← part right fraction
      calculated '-' (· - ·) right (some taken)
  | plain left, plain right => calculated '-' (· - ·) left right

def product (left right : Operand) : Except Fault Binary64 :=
  calculated '*' (· * ·) left.number right.number

/-- The quotient. By zero there is none, whatever the dividend, which may then lack its number. -/
def quotient (left right : Operand) : Except Fault Binary64 :=
  if right.number.any Binary64.isZero then .ok .nan
  else calculated '/' (· / ·) left.number right.number

def combination (symbol : Text) (left right : Operand) : Except Fault Binary64 :=
  if symbol = ['+'] then sum left right
  else if symbol = ['-'] then difference left right
  else if symbol = ['*'] then product left right
  else if symbol = ['/'] then quotient left right
  else .error (.unknownOperator symbol)

def combined (symbol : Text) (left right : Operand) : Except Fault Operand :=
  (combination symbol left right).map fun number => plain (some number)

end Operand

/-- The stack after a token, the top first. A token that is neither a literal nor a sign of a single
operand acts as an operator between two operands, whatever its kind. -/
def step (stack : List Operand) (token : Token) : Except Fault (List Operand) :=
  match token.kind with
  | .number => .ok (.plain token.value :: stack)
  | .percent => .ok (.share token.value :: stack)
  | _ =>
      if token.isUnaryOperator then
        match stack with
        | [] => .error (.missingOperand (token.text.drop 1))
        | operand :: below =>
            if token.text = Token.unaryPlus then .ok (operand :: below)
            else operand.negated.map (· :: below)
      else
        match stack with
        | right :: left :: below => do
            let result ← Operand.combined token.text left right
            return result :: below
        | _ => .error (.missingOperand token.text)

/-- The number that tokens in postfix order come to; none where they are a single operand without
one. -/
def numberOfPostfix (queue : List Token) : Except Fault (Option Binary64) := do
  match ← queue.foldlM step [] with
  | [result] => return result.number
  | _ => throw .leftoverOperands

/-- The value of tokens in postfix order. Where a number is missing the value is not a number; the
tokens of an expression carry all of theirs. -/
def valueOfPostfix (queue : List Token) : Except Fault Binary64 :=
  (numberOfPostfix queue).map (·.getD .nan)

def postfixOf (expression : Text) : Except Fault (List Token) := do
  let text ← normal expression
  let found ← tokens text
  if found.isEmpty then throw .emptyExpression else toPostfix (markSigns found)

def evaluate (expression : Text) : Except Fault Binary64 :=
  postfixOf expression >>= valueOfPostfix

/-- The expression has a value, be it finite or not; else the wording of what is wrong with it. -/
def validate (expression : Text) : Except Text Unit :=
  match evaluate expression with
  | .ok _ => .ok ()
  | .error fault => .error fault.message

end Reckoner.Expression
