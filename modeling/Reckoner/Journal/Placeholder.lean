import Reckoner.Binary64.Places
import Reckoner.Journal.Argument

/-!
# Placeholders

A placeholder begins with a percent sign. After it may stand a name in parentheses, flags, the least
width, a precision behind a point, and a letter for a size that has no meaning here; at the end
stands the directive, which says what is made of the argument. A star for a width or a precision
takes it from an argument of its own.

Reading a placeholder never fails. What is wrong with it is found when it is filled, in the order in
which its parts stand, because an argument may be wrong before that.
-/

namespace Reckoner.Journal

set_option autoImplicit false

inductive Selector
  | next
  | named (name : Text)
  | unfinished
deriving DecidableEq, Repr

/-- A width or precision: a number, or the next argument. -/
inductive Size
  | fixed (value : Nat)
  | argument
deriving DecidableEq, Repr

/-- A placeholder in its parts. It has no directive where the template ends before it. -/
structure Placeholder where
  selector : Selector
  flags : Text
  width : Size
  precision : Option Size
  directive : Option Char
deriving DecidableEq, Repr

namespace Selector

/-- The name up to its closing parenthesis, and the rest. Parentheses within the name come in pairs.
-/
def splitName? (depth : Nat) : Text → Option (Text × Text)
  | [] => none
  | c :: rest =>
      if c = ')' ∧ depth = 0 then some ([], rest)
      else
        let inside := if c = '(' then depth + 1 else if c = ')' then depth - 1 else depth
        (splitName? inside rest).map fun (name, after) => (c :: name, after)

def read : Text → Selector × Text
  | '(' :: rest =>
      match splitName? 0 rest with
      | some (name, after) => (named name, after)
      | none => (unfinished, [])
  | rest => (next, rest)

theorem length_split_name_le {depth : Nat} {source name rest : Text}
    (split : splitName? depth source = some (name, rest)) : rest.length ≤ source.length := by
  induction source generalizing depth name with
  | nil => contradiction
  | cons c source ih =>
      simp only [splitName?] at split
      split at split
      · cases split
        exact Nat.le_succ _
      · obtain ⟨⟨tail, after⟩, found, same⟩ := Option.map_eq_some_iff.1 split
        cases same
        exact Nat.le_succ_of_le (ih found)

theorem length_read_le (source : Text) : (read source).2.length ≤ source.length := by
  unfold read
  split
  · split
    · rename_i found
      exact Nat.le_succ_of_le (length_split_name_le found)
    · exact Nat.zero_le _
  · exact Nat.le_refl _

/-- The arguments that are left for a placeholder: those in order, or the one of its name. -/
def choose (names : Option (List (Text × Argument))) (arguments : List Argument) :
    Selector → Except Misfit (List Argument)
  | next => .ok arguments
  | named name =>
      match names with
      | none => .error .withoutNames
      | some entries =>
          match entries.lookup name with
          | some argument => .ok [argument]
          | none => .error (.unknownName name)
  | unfinished => .error (if names.isSome then .unfinishedName else .withoutNames)

end Selector

namespace Size

/-- The size at the beginning of a text, and the rest; without one it is zero. -/
def read : Text → Size × Text
  | '*' :: rest => (argument, rest)
  | rest => (fixed (Decimal.valueOf (rest.takeWhile Char.isDigit)), rest.dropWhile Char.isDigit)

theorem length_read_le (source : Text) : (read source).2.length ≤ source.length := by
  unfold read
  split
  · exact Nat.le_succ _
  · exact (List.dropWhile_suffix _).length_le

/-- The greatest width that can be counted is one less. -/
def widthLimit : Nat := Nat.pow 2 63

/-- The greatest precision that can be counted is one less. -/
def precisionLimit : Nat := Nat.pow 2 31

/-- The value of a size below a limit, and the arguments that are left. -/
def value (limit : Nat) (written given : Misfit) (arguments : List Argument) :
    Size → Except Misfit (Int × List Argument)
  | fixed value => if value < limit then .ok (value, arguments) else .error written
  | argument =>
      match arguments with
      | [] => .error .missingArgument
      | first :: others =>
          match first.integer? with
          | none => .error .sizeNotAnInteger
          | some value =>
              if -limit ≤ value ∧ value < limit then .ok (value, others) else .error given

def asWidth (size : Size) (arguments : List Argument) : Except Misfit (Int × List Argument) :=
  size.value widthLimit .widthTooGreat .givenWidthTooGreat arguments

/-- The precision that a size gives; a negative one is zero. -/
def asPrecision (size : Option Size) (arguments : List Argument) :
    Except Misfit (Option Nat × List Argument) :=
  match size with
  | none => .ok (none, arguments)
  | some size =>
      (size.value precisionLimit .precisionTooGreat .givenPrecisionTooGreat arguments).map
        fun (value, others) => (some value.toNat, others)

end Size

namespace Placeholder

/-- A flag: aligned to the left, a sign or a blank before what is not negative, filled up with
zeros, or in the longer form. -/
def isFlag (c : Char) : Bool :=
  "-+ 0#".toList.contains c

def splitPrecision : Text → Option Size × Text
  | '.' :: rest => ((Size.read rest).1, (Size.read rest).2)
  | rest => (none, rest)

/-- The text behind a letter for the size of an argument. -/
def afterLetter : Text → Text
  | [] => []
  | c :: rest => if "hlL".toList.contains c then rest else c :: rest

/-- The placeholder whose percent sign stands before a text, and the rest of the text. -/
def read (source : Text) : Placeholder × Text :=
  let (selector, afterName) := Selector.read source
  let (width, afterWidth) := Size.read (afterName.dropWhile isFlag)
  let (precision, afterPrecision) := splitPrecision afterWidth
  let ending := afterLetter afterPrecision
  (⟨selector, afterName.takeWhile isFlag, width, precision, ending.head?⟩, ending.tail)

theorem length_split_precision_le (source : Text) :
    (splitPrecision source).2.length ≤ source.length := by
  unfold splitPrecision
  split
  · exact Nat.le_succ_of_le (Size.length_read_le _)
  · exact Nat.le_refl _

theorem length_after_letter_le (source : Text) : (afterLetter source).length ≤ source.length := by
  unfold afterLetter
  split
  · exact Nat.le_refl _
  · split
    · exact Nat.le_succ _
    · exact Nat.le_refl _

theorem length_read_le (source : Text) : (read source).2.length ≤ source.length := by
  have name := Selector.length_read_le source
  have flags := (List.dropWhile_suffix isFlag (l := (Selector.read source).2)).length_le
  have width := Size.length_read_le ((Selector.read source).2.dropWhile isFlag)
  have precision := length_split_precision_le
    (Size.read ((Selector.read source).2.dropWhile isFlag)).2
  have letter := length_after_letter_le
    (splitPrecision (Size.read ((Selector.read source).2.dropWhile isFlag)).2).2
  simp only [read, List.length_tail]
  omega

end Placeholder

/-- What a directive makes of its argument. The forms with capital letters are marked. -/
inductive Conversion
  | plain
  | marked
  | escaped
  | character
  | whole
  | octal
  | hexadecimal (capital : Bool)
  | fixed (capital : Bool)
  | scientific (capital : Bool)
  | general (capital : Bool)
deriving DecidableEq, Repr

def Conversion.directives : List (Char × Conversion) :=
  [('s', plain), ('r', marked), ('a', escaped), ('c', character), ('d', whole), ('i', whole),
   ('u', whole), ('o', octal), ('x', hexadecimal false), ('X', hexadecimal true),
   ('f', fixed false), ('F', fixed true), ('e', scientific false), ('E', scientific true),
   ('g', general false), ('G', general true)]

end Reckoner.Journal
