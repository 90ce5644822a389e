import Reckoner.Token.Numeral

/-!
# Tokens

A token is a piece of text together with what it is taken for and the number it carries, if any. As
they are read, literals carry their number and other tokens none; a list of tokens from elsewhere
may be made up in other ways. Operators are known by their text, so that such a list may hold
operators the notation does not have; the two signs that apply to a single operand are written `u+`
and `u-`.
-/

namespace Reckoner

set_option autoImplicit false

/-- What a token is taken for. Kinds that are neither read from expressions nor from running text go
by their names. -/
inductive Kind
  | number
  | percent
  | operator
  | openParen
  | closeParen
  | word
  | blank
  | other (name : Text)
deriving DecidableEq, Repr

/-- A classified piece of text. The value of a percent literal is its share, a hundredth of the
number that is written. -/
structure Token where
  kind : Kind
  text : Text
  value : Option Binary64 := none
deriving DecidableEq

namespace Token

def unaryPlus : Text := ['u', '+']

def unaryMinus : Text := ['u', '-']

def binarySymbols : List Text := [['+'], ['-'], ['*'], ['/']]

def unarySymbols : List Text := [unaryPlus, unaryMinus]

def isOperand (token : Token) : Bool :=
  match token.kind with
  | .number | .percent => true
  | _ => false

def isBinaryOperator (token : Token) : Bool :=
  token.kind = .operator && binarySymbols.contains token.text

def isUnaryOperator (token : Token) : Bool :=
  token.kind = .operator && unarySymbols.contains token.text

def ofNumeral (numeral : Numeral) : Token :=
  ⟨if numeral.isPercent then .percent else .number, numeral.text, some numeral.value⟩

def bare (kind : Kind) (text : Text) : Token :=
  ⟨kind, text, none⟩

/-- The token of an operator or a parenthesis, each of which is a single character. -/
def ofSymbol? (c : Char) : Option Token :=
  if c = '(' then some (bare .openParen [c])
  else if c = ')' then some (bare .closeParen [c])
  else if binarySymbols.contains [c] then some (bare .operator [c])
  else none

theorem text_of_symbol {c : Char} {token : Token} (found : ofSymbol? c = some token) :
    token.text = [c] := by
  unfold ofSymbol? at found
  split at found
  · cases found
    rfl
  · split at found
    · cases found
      rfl
    · split at found
      · cases found
        rfl
      · contradiction

end Token

end Reckoner
