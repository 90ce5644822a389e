import Reckoner.Binary64.Shortest
import Reckoner.Journal.Disk
import Reckoner.Journal.Misfit

/-!
# Faults

Everything that can go wrong is one cause with its data. Most causes belong to a category, which has
a code that hosts can test for; the others are not answered with a code. The wording of each cause
is in one function.
-/

namespace Reckoner

set_option autoImplicit false

/-- The kinds of fault that carry a code. -/
inductive Category
  | validation
  | parse
  | invalidCharacter
  | mismatchedParentheses
  | malformedExpression
  | nonFiniteResult
deriving DecidableEq, Repr

namespace Category

def code : Category → Text
  | validation => "VALIDATION_ERROR".toList
  | parse => "PARSE_ERROR".toList
  | invalidCharacter => "INVALID_CHARACTER".toList
  | mismatchedParentheses => "MISMATCHED_PARENTHESES".toList
  | malformedExpression => "MALFORMED_EXPRESSION".toList
  | nonFiniteResult => "NON_FINITE_RESULT".toList

/-- The fault lies in the expression, not in the text as a whole. -/
def concernsExpression : Category → Bool
  | validation => false
  | _ => true

/-- The code of a fault that was raised with a code of its own. A fault in the expression takes an
empty code for none. -/
def codeOr (category : Category) : Option Text → Text
  | none => category.code
  | some given => if category.concernsExpression && given.isEmpty then category.code else given

end Category

inductive Fault
  /-- The text is longer than the limit. -/
  | inputTooLong (limit : Int)
  /-- A character that no expression has, at a position of the normal text. -/
  | invalidCharacter (c : Char) (position : Nat)
  /-- A character that starts no token, at a position of the text. -/
  | unexpectedCharacter (c : Char) (position : Nat)
  /-- A token that has no place in an expression. -/
  | unexpectedToken (text : Text)
  /-- A parenthesis without its partner. -/
  | mismatchedParentheses
  /-- An operator with too few operands. -/
  | missingOperand (symbol : Text)
  /-- A binary operator that the notation does not have. -/
  | unknownOperator (symbol : Text)
  /-- Not exactly one value is left at the end. -/
  | leftoverOperands
  /-- There is no token at all. -/
  | emptyExpression
  /-- The value is infinite or no number. -/
  | notFinite (value : Binary64)
  /-- An operator without a rank had to be compared with another one. -/
  | unrankedOperator (symbol : Text)
  /-- The rounded number has more digits than are ever written. -/
  | tooManyDigits
  /-- The place to round to lies beyond all powers of ten in use. -/
  | placeTooHigh
  /-- A sign is to change an operand that has no number. -/
  | numberlessNegation
  /-- An operand of a calculation has no number; whether the left and the right one have one. -/
  | numberlessOperand (sign : Char) (left right : Bool)
  /-- A setting is not an integer. -/
  | notAnInteger (text : Text)
  /-- A setting is an integer of too many digits. -/
  | integerTooLong (digits : Nat)
  /-- The name of a level is that of the layout of journal lines. -/
  | layoutAsLevel
  /-- The name of a level is that of the table of layouts. -/
  | layoutTableAsLevel
  /-- The file of the journal is not opened. -/
  | fileUnopened (obstacle : Journal.Obstacle)
  /-- The option for the number of places has no value. -/
  | placesWithoutValue
  /-- The option for a line to answer has no value. -/
  | lineWithoutValue
  /-- The option for an expression to evaluate has no value. -/
  | expressionWithoutValue
  /-- The year of a time is not in the calendar. -/
  | yearOutOfRange (year : Int)
  /-- A time lies so far away that its year cannot be counted. -/
  | yearUncountable
  /-- A time lies so far away that its seconds cannot be counted. -/
  | secondsUncountable
  /-- The arguments of a message do not fit its template. -/
  | misfit (cause : Journal.Misfit)
deriving DecidableEq

namespace Fault

/-- The category of a fault; none for the causes that are answered without a code. -/
def category? : Fault → Option Category
  | inputTooLong _ => some .validation
  | invalidCharacter _ _ | unexpectedCharacter _ _ | unexpectedToken _ => some .invalidCharacter
  | mismatchedParentheses => some .mismatchedParentheses
  | missingOperand _ | unknownOperator _ | leftoverOperands | emptyExpression =>
      some .malformedExpression
  | notFinite _ => some .nonFiniteResult
  | _ => none

/-- The code of a fault. A text that is too long has one of its own. -/
def code? : Fault → Option Text
  | inputTooLong _ => some "TOO_LONG".toList
  | fault => fault.category?.map Category.code

/-- The longest quoted text that is shown for a setting that is not an integer. -/
def quotedSettingLimit : Nat := 200

def operandName (hasNumber : Bool) : Text :=
  if hasNumber then "'float'".toList else "'NoneType'".toList

def layout : Text := "'%(levelname)s:%(name)s:%(message)s'".toList

def layoutTable : Text :=
  "\x7b'%': (<class 'logging.PercentStyle'>, ".toList ++ layout
    ++ "), '\x7b': (<class 'logging.StrFormatStyle'>, ".toList
    ++ "'\x7blevelname\x7d:\x7bname\x7d:\x7bmessage\x7d'".toList
    ++ "), '$': (<class 'logging.StringTemplateStyle'>, ".toList
    ++ "'$\x7blevelname\x7d:$\x7bname\x7d:$\x7bmessage\x7d')\x7d".toList

def message : Fault → Text
  | inputTooLong limit =>
      "Input too long (max ".toList ++ Decimal.integerNumeral limit ++ " characters)".toList
  | invalidCharacter c position =>
      "Invalid character ".toList ++ Text.quoted [c] ++ " in expression at position ".toList
        ++ Decimal.numeral position
  | unexpectedCharacter c position =>
      "Unexpected ".toList ++ Text.quoted [c] ++ " at position ".toList ++ Decimal.numeral position
  | unexpectedToken text => "Unexpected token ".toList ++ Text.quoted text
  | mismatchedParentheses => "Mismatched parentheses".toList
  | missingOperand symbol => "Missing operand for ".toList ++ Text.quoted symbol
  | unknownOperator symbol => "Unknown operator ".toList ++ Text.quoted symbol
  | leftoverOperands => "Invalid expression".toList
  | emptyExpression => "Empty expression".toList
  | notFinite value => "Result is not a finite number: ".toList ++ value.text
  | unrankedOperator symbol => Text.quoted symbol
  | tooManyDigits => "[<class 'decimal.InvalidOperation'>]".toList
  | placeTooHigh => "[<class 'decimal.Overflow'>]".toList
  | numberlessNegation => "bad operand type for unary -: 'NoneType'".toList
  | numberlessOperand sign left right =>
      "unsupported operand type(s) for ".toList ++ sign :: ": ".toList ++ operandName left
        ++ " and ".toList ++ operandName right
  | notAnInteger text =>
      "invalid literal for int() with base 10: ".toList
        ++ (Text.quoted text).take quotedSettingLimit
  | integerTooLong digits =>
      "Exceeds the limit (4300 digits) for integer string conversion: value has ".toList
        ++ Decimal.numeral digits
        ++ " digits; use sys.set_int_max_str_digits() to increase the limit".toList
  | layoutAsLevel => "Unknown level: ".toList ++ layout
  | layoutTableAsLevel => "Level not an integer or a valid string: ".toList ++ layoutTable
  | fileUnopened obstacle => obstacle.message
  | placesWithoutValue => "'>=' not supported between instances of 'list' and 'int'".toList
  | lineWithoutValue => "'list' object has no attribute 'rfind'".toList
  | expressionWithoutValue => "'list' object has no attribute 'strip'".toList
  | yearOutOfRange year =>
      "year ".toList ++ Decimal.integerNumeral year ++ " is out of range".toList
  | yearUncountable => "[Errno 75] Value too large for defined data type".toList
  | secondsUncountable => "timestamp out of range for platform time_t".toList
  | misfit cause => cause.message

end Fault

end Reckoner
