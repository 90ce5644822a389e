import Reckoner.Text.Blank

/-!
# Equations in a line

A line asks for a result by ending in an equals sign and exactly two blanks. What is evaluated is
the part after the last equals sign before that, so that results can be chained on one line; it must
hold a digit. The answered line has single spaces around the equals signs that it touches.
-/

namespace Reckoner.Field

set_option autoImplicit false

/-- A line that asks for a result: what stands up to its last settled equals sign, what stands
behind that, and the expression in it. -/
structure Equation where
  leftPart : Text
  segment : Text
  expression : Text
deriving DecidableEq, Repr

namespace Equation

def isInSegment (c : Char) : Bool :=
  c != '='

/-- The equation of a line without the sign that asks for the result, read from its end. -/
def ofReversedHead? (head : Text) : Option Equation :=
  let segment := (head.takeWhile isInSegment).reverse
  let expression := Text.trim segment
  if expression.any Char.isDigit then
    some ⟨(head.dropWhile isInSegment).reverse, segment, expression⟩
  else none

def ofLine? (line : Text) : Option Equation :=
  match line.reverse with
  | last :: previous :: '=' :: head =>
      if Text.isBlank last && Text.isBlank previous then
        ofReversedHead? (head.dropWhile Text.isBlank)
      else none
  | _ => none

def spacedEquals : Text := [' ', '=', ' ']

/-- The settled part of a line with single spaces around the equals sign that ends it. A part that
does not end in one stays as it is. -/
def settled (leftPart : Text) : Text :=
  match leftPart.reverse.dropWhile Text.isBlank with
  | '=' :: before => (before.dropWhile Text.isBlank).reverse ++ spacedEquals
  | _ => leftPart

def answered (leftPart expression result : Text) : Text :=
  settled leftPart ++ expression ++ spacedEquals ++ result ++ [' ']

end Equation

end Reckoner.Field
