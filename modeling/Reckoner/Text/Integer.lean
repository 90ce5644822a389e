import Reckoner.Text.Blank
import Reckoner.Text.DecimalDigit

/-!
# Integers in text

The reader of whole numbers that are given as settings: blanks around the number, one sign, decimal
digits of any script, and single underscores between digits. The information separators count as
blanks elsewhere but not here. The number of digits is limited, and the limit is tested before what
follows the digits is looked at.
-/

namespace Reckoner.Text

set_option autoImplicit false

inductive IntegerReading
  | integer (value : Int)
  | tooManyDigits (count : Nat)
  | malformed
deriving DecidableEq, Repr

def integerDigitLimit : Nat := 4300

def isIntegerPadding (c : Char) : Bool :=
  isBlank c && !(0x1C ≤ c.toNat && c.toNat ≤ 0x1F)

/-- The digits of a run of digits and underscores, if each underscore stands between two digits. The
flag says whether a digit came directly before. -/
def integerDigits? (afterDigit : Bool) : Text → Option (List Nat)
  | [] => if afterDigit then some [] else none
  | '_' :: rest => if afterDigit then integerDigits? false rest else none
  | c :: rest =>
      match decimalDigit? c with
      | some digit => (integerDigits? true rest).map (digit :: ·)
      | none => none

/-- The sign at the beginning of a text, true for minus, and the rest. -/
def splitSign : Text → Bool × Text
  | '-' :: rest => (true, rest)
  | '+' :: rest => (false, rest)
  | rest => (false, rest)

def readInteger (text : Text) : IntegerReading :=
  let (negative, unsigned) := splitSign (text.dropWhile isIntegerPadding)
  let inRun := fun c => c == '_' || (decimalDigit? c).isSome
  match integerDigits? false (unsigned.takeWhile inRun) with
  | none => .malformed
  | some digits =>
      if integerDigitLimit < digits.length then .tooManyDigits digits.length
      else if (unsigned.dropWhile inRun).all isIntegerPadding then
        let size : Nat := digits.foldl (fun value digit => 10 * value + digit) 0
        .integer (if negative then -size else size)
      else .malformed

end Reckoner.Text
