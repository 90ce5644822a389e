import Reckoner.Fault
import Reckoner.Token

/-!
# Postfix order

Tokens in the order they are written are put into the order they are carried out in: each operator
directly behind its operands, and no parentheses. Operators wait on a stack until one that binds
less tightly arrives, their parentheses close or the tokens end.
-/

namespace Reckoner.Expression

set_option autoImplicit false

def ranks : List (Text × Nat) :=
  [(Token.unaryPlus, 3), (Token.unaryMinus, 3), (['*'], 2), (['/'], 2), (['+'], 1), (['-'], 1)]

def rank (symbol : Text) : Except Fault Nat :=
  match ranks.lookup symbol with
  | some rank => .ok rank
  | none => .error (.unrankedOperator symbol)

/-- A waiting token is carried out before the operator that arrives. Operators of equal rank are
carried out from left to right, signs of single operands from right to left. -/
def yieldsTo (waiting arriving : Token) : Except Fault Bool :=
  if waiting.kind = .operator then do
    let waitingRank ← rank waiting.text
    let arrivingRank ← rank arriving.text
    return if Token.unarySymbols.contains arriving.text then arrivingRank < waitingRank
      else arrivingRank ≤ waitingRank
  else return false

/-- The waiting tokens that are carried out before the operator that arrives, and those that stay.
-/
def release (arriving : Token) : List Token → Except Fault (List Token × List Token)
  | [] => .ok ([], [])
  | waiting :: below =>
      match yieldsTo waiting arriving with
      | .error fault => .error fault
      | .ok false => .ok ([], waiting :: below)
      | .ok true =>
          (release arriving below).map fun (released, kept) => (waiting :: released, kept)

def isParenthesis (token : Token) : Bool :=
  token.kind = .openParen || token.kind = .closeParen

/-- The postfix order of the tokens that follow, with the operators that wait for them. -/
def postfixAfter (waiting : List Token) : List Token → Except Fault (List Token)
  | [] => if waiting.any isParenthesis then .error .mismatchedParentheses else .ok waiting
  | token :: rest =>
      match token.kind with
      | .number | .percent => (postfixAfter waiting rest).map (token :: ·)
      | .operator =>
          match release token waiting with
          | .error fault => .error fault
          | .ok (released, kept) => (postfixAfter (token :: kept) rest).map (released ++ ·)
      | .openParen => postfixAfter (token :: waiting) rest
      | .closeParen =>
          match waiting.dropWhile (·.kind != .openParen) with
          | [] => .error .mismatchedParentheses
          | _ :: below =>
              (postfixAfter below rest).map (waiting.takeWhile (·.kind != .openParen) ++ ·)
      | .word | .blank | .other _ => .error (.unexpectedToken token.text)

def toPostfix (tokens : List Token) : Except Fault (List Token) :=
  postfixAfter [] tokens

end Reckoner.Expression
