import Reckoner.Decimal.Digits
import Reckoner.Fault

/-!
# Fixed places

A finite number rounded to a multiple of a power of ten, a half away from zero, and written without
an exponent, without trailing zeros in the fraction and without a point at the end. Zero is never
negative here. The number of places may be negative; then the multiple is a whole number.
-/

namespace Reckoner.Decimal

set_option autoImplicit false

/-- The quotient rounded to the nearest natural number, a half upwards. -/
def roundHalfUp (numerator denominator : Nat) : Nat :=
  (2 * numerator + denominator) / (2 * denominator)

/-- How many times the last place, 10^-places, goes into a magnitude of so many grains, rounded. -/
def lastPlaceCount (grains : Nat) (places : Int) : Nat :=
  roundHalfUp (grains * Nat.pow 10 places.toNat)
    (Binary64.grainsPerOne * Nat.pow 10 (-places).toNat)

/-- The count has more digits than are ever written. -/
def isTooLong (count : Nat) : Bool :=
  Nat.pow 10 400 ≤ count

def fixedText (negative : Bool) (count : Nat) (places : Int) : Text :=
  if count = 0 then ['0']
  else
    let sign := if negative then ['-'] else []
    let scale := Nat.pow 10 places.toNat
    let fraction := trimZeros (padded places.toNat (count % scale))
    sign ++ numeral (count / scale * Nat.pow 10 (-places).toNat)
      ++ (if fraction.isEmpty then [] else '.' :: fraction)

/-- The furthest place from the point, on either side, that can be named. -/
def placeLimit : Nat := 2000054

def highestPlace : Int := 999999

def fixed (value : Binary64) (places : Int) : Except Fault Text :=
  match value with
  | .finite negative rank =>
      if placeLimit < places.natAbs then .error .tooManyDigits
      else if highestPlace < -places then .error .placeTooHigh
      else
        let count := lastPlaceCount (Binary64.grainsOfRank rank) places
        if isTooLong count then .error .tooManyDigits else .ok (fixedText negative count places)
  | _ => .error (.notFinite value)

/-- A text with its unit behind it; an empty unit is none. -/
def withUnit (text : Text) : Option Text → Text
  | none | some [] => text
  | some unit => text ++ ' ' :: unit

end Reckoner.Decimal
