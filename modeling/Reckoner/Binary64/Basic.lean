/-!
# Double precision numbers

The numbers of the 64 bit binary format: a finite magnitude is a whole multiple of the least
positive one, the grain 2^-1074. The magnitudes are numbered in ascending order, and that number,
the rank, stands for the magnitude: it has one rank only, its neighbours have the ranks before and
after, and the ranks are exactly the bit patterns without the sign. There is one value that is no
number.

Rounding takes a ratio of natural numbers, counted in grains, to the nearest magnitude; of two that
are equally near, to the one with even rank.
-/

namespace Reckoner

set_option autoImplicit false

/-- The number of finite magnitudes. -/
def Binary64.rankLimit : Nat := 2047 * Nat.pow 2 52

/-- A double precision number. Zero has two signs, and the value that is no number has none. -/
inductive Binary64
  | nan
  | infinite (negative : Bool)
  | finite (negative : Bool) (rank : Fin Binary64.rankLimit)
deriving DecidableEq

namespace Binary64

def grainsPerOne : Nat := Nat.pow 2 1074

/-- The magnitude of a rank in grains. Ranks below 2^52 count single grains; each further block of
2^52 ranks starts at a power of two and has steps twice as wide as the block before. -/
def grainsOfRank (rank : Nat) : Nat :=
  if rank < Nat.pow 2 52 then rank
  else (Nat.pow 2 52 + rank % Nat.pow 2 52) * Nat.pow 2 (rank / Nat.pow 2 52 - 1)

/-- The quotient rounded to the nearest natural number, a half to the even one. -/
def roundHalfEven (numerator denominator : Nat) : Nat :=
  let quotient := numerator / denominator
  let twice := 2 * (numerator % denominator)
  if twice < denominator ∨ (twice = denominator ∧ quotient % 2 = 0) then quotient
  else quotient + 1

/-- The rank of the magnitude nearest to a ratio of grains, as if there were ranks without end. The
steps at the ratio are 2^shift grains wide; a quotient that is rounded up to 2^53 steps carries into
the next block by itself. -/
def nearestRank (numerator denominator : Nat) : Nat :=
  let shift := (numerator / denominator).log2 - 52
  shift * Nat.pow 2 52 + roundHalfEven numerator (denominator * Nat.pow 2 shift)

/-- The nearest number to a ratio of grains under a sign; infinite from half a step above the
greatest magnitude on. -/
def ofGrains (negative : Bool) (numerator denominator : Nat) : Binary64 :=
  if inRange : nearestRank numerator denominator < rankLimit then
    finite negative ⟨nearestRank numerator denominator, inRange⟩
  else infinite negative

def ofDecimal (digits places : Nat) : Binary64 :=
  ofGrains false (digits * grainsPerOne) (Nat.pow 10 places)

def ofScientific (negative : Bool) (coefficient : Nat) (exponent : Int) : Binary64 :=
  ofGrains negative (coefficient * Nat.pow 10 exponent.toNat * grainsPerOne)
    (Nat.pow 10 (-exponent).toNat)

def zero (negative : Bool) : Binary64 :=
  finite negative ⟨0, by decide⟩

def isFinite : Binary64 → Bool
  | finite _ _ => true
  | _ => false

def isZero : Binary64 → Bool
  | finite _ rank => rank.val == 0
  | _ => false

end Binary64

end Reckoner
