import Reckoner.Fault
import Reckoner.Text.Blank
import Reckoner.Token

/-!
# The tokens of an expression

An expression is cut into literals, each as long as possible, operators and parentheses. Blanks
separate and are dropped; any other character is an error at its position.
-/

namespace Reckoner.Expression

set_option autoImplicit false

/-- The tokens of a text that begins at a position of a longer one. -/
def tokensFrom (position : Nat) (source : Text) : Except Fault (List Token) :=
  match source with
  | [] => .ok []
  | c :: rest =>
      if Text.isBlank c then tokensFrom (position + 1) rest
      else
        match _literal : Numeral.read? (c :: rest) with
        | some (numeral, after) =>
            (tokensFrom (position + numeral.text.length) after).map (Token.ofNumeral numeral :: ·)
        | none =>
            match Token.ofSymbol? c with
            | some token => (tokensFrom (position + 1) rest).map (token :: ·)
            | none => .error (.unexpectedCharacter c position)
termination_by source.length
decreasing_by
  · simp
  · exact Numeral.length_lt_of_read _literal
  · simp

def tokens (expression : Text) : Except Fault (List Token) :=
  tokensFrom 0 expression

end Reckoner.Expression
