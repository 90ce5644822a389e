import Reckoner.Binary64.Basic

/-!
# Arithmetic

Each operation on finite numbers is one exact calculation in grains followed by one rounding. An
operand that is no number makes the result no number, and so does a divisor that is zero: here a
division by zero has no value, not an infinite one.
-/

namespace Reckoner.Binary64

set_option autoImplicit false

def signedGrains (negative : Bool) (rank : Nat) : Int :=
  if negative then -(grainsOfRank rank : Int) else grainsOfRank rank

def neg : Binary64 → Binary64
  | nan => nan
  | infinite negative => infinite !negative
  | finite negative rank => finite (!negative) rank

/-- The sum. An exact sum of zero is negative only if both operands are. -/
def add : Binary64 → Binary64 → Binary64
  | nan, _ => nan
  | _, nan => nan
  | infinite left, infinite right => if left = right then infinite left else nan
  | infinite left, finite _ _ => infinite left
  | finite _ _, infinite right => infinite right
  | finite left leftRank, finite right rightRank =>
      let sum := signedGrains left leftRank + signedGrains right rightRank
      if sum = 0 then zero (left && right) else ofGrains (decide (sum < 0)) sum.natAbs 1

def sub (left right : Binary64) : Binary64 :=
  add left (neg right)

/-- The product. Zero times an infinite number is no number. -/
def mul : Binary64 → Binary64 → Binary64
  | nan, _ => nan
  | _, nan => nan
  | infinite left, infinite right => infinite (left ^^ right)
  | infinite left, finite right rank => if rank.val = 0 then nan else infinite (left ^^ right)
  | finite left rank, infinite right => if rank.val = 0 then nan else infinite (left ^^ right)
  | finite left leftRank, finite right rightRank =>
      ofGrains (left ^^ right) (grainsOfRank leftRank * grainsOfRank rightRank) grainsPerOne

/-- The quotient; no number where the divisor is zero. -/
def div : Binary64 → Binary64 → Binary64
  | nan, _ => nan
  | _, nan => nan
  | infinite _, infinite _ => nan
  | infinite left, finite right rank => if rank.val = 0 then nan else infinite (left ^^ right)
  | finite left _, infinite right => zero (left ^^ right)
  | finite left leftRank, finite right rightRank =>
      if rightRank.val = 0 then nan
      else ofGrains (left ^^ right) (grainsOfRank leftRank * grainsPerOne) (grainsOfRank rightRank)

instance : Neg Binary64 := ⟨neg⟩
instance : Add Binary64 := ⟨add⟩
instance : Sub Binary64 := ⟨sub⟩
instance : Mul Binary64 := ⟨mul⟩
instance : Div Binary64 := ⟨div⟩

end Reckoner.Binary64
