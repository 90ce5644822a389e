import Reckoner.Fault
import Reckoner.Text.Blank
import Reckoner.Text.WordCharacter
import Reckoner.Token

/-!
# Arithmetic in running text

Running text is cut into literals, operators and parentheses, words and blanks, and stray characters
that belong to none of them; nothing of the text is lost by the cut (`pieces_text`). The arithmetic
is what is left without words, blanks and stray characters, and the unit is the word directly behind
the first literal.
-/

namespace Reckoner

set_option autoImplicit false

/-- The arithmetic of a text, empty where the text has no literal, and the unit if there is one. -/
structure Extraction where
  expression : Text
  unit : Option Text
deriving DecidableEq, Repr

namespace Extraction

def isEmpty (extraction : Extraction) : Bool :=
  extraction.expression.isEmpty

/-- A piece of running text: a token, or a character that belongs to none. -/
inductive Piece
  | token (token : Token)
  | stray (c : Char)
deriving DecidableEq

def Piece.text : Piece → Text
  | token found => found.text
  | stray c => [c]

def Piece.token? : Piece → Option Token
  | token found => some found
  | stray _ => none

/-- The pieces of a text, which make up the text again. -/
def pieces (source : Text) : List Piece :=
  match source with
  | [] => []
  | c :: rest =>
      match _literal : Numeral.read? (c :: rest) with
      | some (numeral, after) => .token (Token.ofNumeral numeral) :: pieces after
      | none =>
          match Token.ofSymbol? c with
          | some symbol => .token symbol :: pieces rest
          | none =>
              if c = Text.timesSign then .token (.bare .operator [c]) :: pieces rest
              else if Text.isWordCharacter c then
                .token (.bare .word (c :: rest.takeWhile Text.isWordCharacter))
                  :: pieces (rest.dropWhile Text.isWordCharacter)
              else if Text.isBlank c then
                .token (.bare .blank (c :: rest.takeWhile Text.isBlank))
                  :: pieces (rest.dropWhile Text.isBlank)
              else .stray c :: pieces rest
termination_by source.length
decreasing_by
  · exact Numeral.length_lt_of_read _literal
  · simp
  · simp
  · exact Nat.lt_succ_of_le (List.dropWhile_suffix _).length_le
  · exact Nat.lt_succ_of_le (List.dropWhile_suffix _).length_le
  · simp

def tokensOf (source : Text) : List Token :=
  (pieces source).filterMap Piece.token?

/-- The tokens of a text, unless it is longer than the limit. -/
def scan (limit : Int) (raw : Text) : Except Fault (List Token) :=
  if limit < raw.length then .error (.inputTooLong limit) else .ok (tokensOf raw)

theorem pieces_text (source : Text) : (pieces source).flatMap Piece.text = source := by
  fun_induction pieces source with
  | case1 => rfl
  | case2 c rest numeral after literal ih =>
      simp [Piece.text, Token.ofNumeral, ih, Numeral.text_append_of_read literal]
  | case3 c rest _ symbol found ih =>
      have text : symbol.text = [c] := Token.text_of_symbol found
      simp [Piece.text, ih, text]
  | case4 rest _ _ ih => simp [Piece.text, Token.bare, ih]
  | case5 c rest _ _ _ _ ih =>
      simp [Piece.text, Token.bare, ih, List.takeWhile_append_dropWhile]
  | case6 c rest _ _ _ _ _ ih =>
      simp [Piece.text, Token.bare, ih, List.takeWhile_append_dropWhile]
  | case7 c rest _ _ _ _ _ ih => simp [Piece.text, ih]

/-- The word at the beginning of the tokens, blanks aside. -/
def leadingWord? : List Token → Option Text
  | [] => none
  | token :: rest =>
      match token.kind with
      | .blank => leadingWord? rest
      | .word => some token.text
      | _ => none

/-- The word directly behind the first literal. -/
def findUnit (tokens : List Token) : Option Text :=
  leadingWord? ((tokens.dropWhile (!·.isOperand)).drop 1)

def isArithmetic (token : Token) : Bool :=
  match token.kind with
  | .number | .percent | .operator | .openParen | .closeParen => true
  | .word | .blank | .other _ => false

/-- The text of a token in the arithmetic, where multiplication is written `*`. -/
def notated (token : Token) : Text :=
  if token.text = [Text.timesSign] then ['*'] else token.text

/-- The arithmetic of the tokens with single spaces; empty where there is no literal. -/
def arithmetic (tokens : List Token) : Text :=
  if tokens.any Token.isOperand then
    Text.joined [' '] ((tokens.filter isArithmetic).map notated)
  else []

def ofText (limit : Int) (raw : Text) : Except Fault Extraction :=
  (scan limit raw).map fun tokens => ⟨arithmetic tokens, findUnit tokens⟩

end Extraction

end Reckoner
