import Reckoner.Binary64.Arithmetic
import Reckoner.Binary64.Shortest
import Reckoner.Journal.Misfit

/-!
# Arguments of messages

What a message is filled with: texts, numbers, truth values, nothing at all, and compound values,
which are known by their kind and the way they are shown. An argument gives different things to
different placeholders, as far as its kind allows.
-/

namespace Reckoner.Journal

set_option autoImplicit false

inductive Argument
  | text (value : Text)
  | integer (value : Int)
  | number (value : Binary64)
  | truth (value : Bool)
  | nothing
  | compound (kind shown : Text)
deriving DecidableEq

namespace Argument

def plain : Argument → Text
  | text value => value
  | integer value => Decimal.integerNumeral value
  | number value => value.text
  | truth value => if value then "True".toList else "False".toList
  | nothing => "None".toList
  | compound _ shown => shown

/-- The argument with quotation marks around a text. -/
def marked : Argument → Text
  | text value => Text.quoted value
  | other => other.plain

/-- The argument with quotation marks around a text and escapes for all but ASCII characters. -/
def escaped (argument : Argument) : Text :=
  argument.marked.flatMap fun c => if c.toNat < 0x80 then [c] else Text.codeEscape c

def list (items : List Argument) : Argument :=
  compound "list".toList ('[' :: Text.joined ", ".toList (items.map marked) ++ [']'])

def table (entries : List (Text × Argument)) : Argument :=
  let shown := entries.map fun (name, value) => Text.quoted name ++ ": ".toList ++ value.marked
  compound "dict".toList ('\x7b' :: Text.joined ", ".toList shown ++ ['\x7d'])

def kind : Argument → Text
  | text _ => "str".toList
  | integer _ => "int".toList
  | number _ => "float".toList
  | truth _ => "bool".toList
  | nothing => "NoneType".toList
  | compound kind _ => kind

/-- The integer that an argument is. A truth value is one too. -/
def integer? : Argument → Option Int
  | integer value => some value
  | truth value => some (if value then 1 else 0)
  | _ => none

/-- The integer for a directive that takes nothing else. -/
def exactInteger (directive : Char) (argument : Argument) : Except Misfit Int :=
  match argument.integer? with
  | some value => .ok value
  | none => .error (.notAnInteger directive argument.kind)

/-- The whole number for a directive that takes the part of a number before the point. -/
def whole (directive : Char) (argument : Argument) : Except Misfit Int :=
  match argument with
  | number (.finite negative rank) =>
      .ok ((Binary64.signedGrains negative rank).tdiv Binary64.grainsPerOne)
  | number (.infinite _) => .error .infiniteWhole
  | number .nan => .error .undefinedWhole
  | other =>
      match other.integer? with
      | some value => .ok value
      | none => .error (.notWhole directive other.kind)

def nearest (value : Int) : Except Misfit Binary64 :=
  match Binary64.ofScientific (value < 0) value.natAbs 0 with
  | .infinite _ => .error .integerTooGreat
  | found => .ok found

def real (argument : Argument) : Except Misfit Binary64 :=
  match argument with
  | number value => .ok value
  | other =>
      match other.integer? with
      | some value => nearest value
      | none => .error (.notANumber other.kind)

/-- The character that an argument gives, itself or by its code point. -/
def character (argument : Argument) : Except Misfit Char :=
  match argument with
  | text [c] => .ok c
  | other =>
      match other.integer? with
      | some value =>
          if 0 ≤ value ∧ value < 0x110000 then .ok (Char.ofNat value.toNat)
          else .error .noCodePoint
      | none => .error .notACharacter

end Argument

/-- The arguments of a message: one after the other, or each by its name. -/
inductive Arguments
  | inOrder (arguments : List Argument)
  | byName (entries : List (Text × Argument))
deriving DecidableEq

namespace Arguments

/-- The arguments that placeholders without a name take. Arguments with names are together one of
them, a table. -/
def ordered : Arguments → List Argument
  | inOrder arguments => arguments
  | byName entries => [.table entries]

def names? : Arguments → Option (List (Text × Argument))
  | inOrder _ => none
  | byName entries => some entries

end Arguments

end Reckoner.Journal
