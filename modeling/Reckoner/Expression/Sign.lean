import Reckoner.Token

/-!
# Signs

A plus or minus belongs to the single operand behind it where no operand stands before it: at the
beginning, behind an opening parenthesis, and behind another operator or sign of the notation.
-/

namespace Reckoner.Expression

set_option autoImplicit false

/-- A plus or minus behind this token is a sign of one operand. -/
def expectsOperand : Option Token → Bool
  | none => true
  | some previous =>
      previous.kind = .openParen || previous.isBinaryOperator || previous.isUnaryOperator

/-- The token as it is marked behind another token. -/
def marked (previous : Option Token) (token : Token) : Token :=
  if token.kind = .operator ∧ expectsOperand previous then
    if token.text = ['+'] then .bare .operator Token.unaryPlus
    else if token.text = ['-'] then .bare .operator Token.unaryMinus
    else token
  else token

def markSignsAfter (previous : Option Token) : List Token → List Token
  | [] => []
  | token :: rest =>
      marked previous token :: markSignsAfter (some (marked previous token)) rest

def markSigns (tokens : List Token) : List Token :=
  markSignsAfter none tokens

end Reckoner.Expression
