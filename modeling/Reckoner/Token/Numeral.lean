import Reckoner.Binary64.Arithmetic
import Reckoner.Decimal.Digits

/-!
# Literals

A literal is a run of digits, then if present a point with at least one more digit, then if present
a percent sign. The reader takes the longest literal at the beginning of a text, and what it takes
and what it leaves make up the text again.
-/

namespace Reckoner

set_option autoImplicit false

/-- A literal in its parts. An empty fraction means that there is no point. -/
structure Numeral where
  whole : Text
  fraction : Text
  isPercent : Bool
deriving DecidableEq, Repr

namespace Numeral

def fractionText (fraction : Text) : Text :=
  if fraction.isEmpty then [] else '.' :: fraction

def percentText (isPercent : Bool) : Text :=
  if isPercent then ['%'] else []

def text (numeral : Numeral) : Text :=
  numeral.whole ++ (fractionText numeral.fraction ++ percentText numeral.isPercent)

/-- The nearest double precision number to the written one, the percent sign left aside. -/
def plainValue (numeral : Numeral) : Binary64 :=
  Binary64.ofDecimal (Decimal.valueOf (numeral.whole ++ numeral.fraction)) numeral.fraction.length

/-- The number of a plain literal, or the share of one that a percent literal names. -/
def value (numeral : Numeral) : Binary64 :=
  if numeral.isPercent then numeral.plainValue / Binary64.ofDecimal 100 0 else numeral.plainValue

/-- The digits behind a point at the beginning of a text, and the rest. A point that no digit
follows stays in the rest. -/
def splitFraction : Text → Text × Text
  | '.' :: rest =>
      if (rest.takeWhile Char.isDigit).isEmpty then ([], '.' :: rest)
      else (rest.takeWhile Char.isDigit, rest.dropWhile Char.isDigit)
  | rest => ([], rest)

/-- Whether a text begins with a percent sign, and the rest. -/
def splitPercent : Text → Bool × Text
  | '%' :: rest => (true, rest)
  | rest => (false, rest)

/-- The longest literal at the beginning of a text, and the rest. -/
def read? (source : Text) : Option (Numeral × Text) :=
  if (source.takeWhile Char.isDigit).isEmpty then none
  else
    let (fraction, afterFraction) := splitFraction (source.dropWhile Char.isDigit)
    let (isPercent, rest) := splitPercent afterFraction
    some (⟨source.takeWhile Char.isDigit, fraction, isPercent⟩, rest)

theorem split_fraction_append (source : Text) :
    fractionText (splitFraction source).1 ++ (splitFraction source).2 = source := by
  unfold splitFraction
  split
  · split
    · simp [fractionText]
    · rename_i nonempty
      simp [fractionText, nonempty, List.takeWhile_append_dropWhile]
  · simp [fractionText]

theorem split_percent_append (source : Text) :
    percentText (splitPercent source).1 ++ (splitPercent source).2 = source := by
  unfold splitPercent
  split <;> simp [percentText]

theorem text_append_of_read {source rest : Text} {numeral : Numeral}
    (read : read? source = some (numeral, rest)) : numeral.text ++ rest = source := by
  unfold read? at read
  split at read
  · contradiction
  · simp only [Option.some.injEq, Prod.mk.injEq] at read
    obtain ⟨rfl, rfl⟩ := read
    simp only [text, List.append_assoc, split_percent_append, split_fraction_append,
      List.takeWhile_append_dropWhile]

theorem whole_ne_nil_of_read {source rest : Text} {numeral : Numeral}
    (read : read? source = some (numeral, rest)) : numeral.whole ≠ [] := by
  unfold read? at read
  split at read
  · contradiction
  · rename_i nonempty
    simp only [Option.some.injEq, Prod.mk.injEq] at read
    obtain ⟨rfl, rfl⟩ := read
    simpa using nonempty

theorem length_lt_of_read {source rest : Text} {numeral : Numeral}
    (read : read? source = some (numeral, rest)) : rest.length < source.length := by
  have whole := List.length_pos_iff.2 (whole_ne_nil_of_read read)
  rw [← text_append_of_read read]
  simp only [text, List.length_append]
  omega

end Numeral

end Reckoner
