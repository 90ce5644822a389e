import Reckoner.CommandLine.Flag
import Reckoner.Text.DecimalDigit

/-!
# Arguments

Each argument is taken for a value or for an option before any of them is acted on.

* An option goes by its short or its long name. A long name may be cut short as long as one option
  alone begins so.
* A value can be attached to an option, behind an equals sign or, for a short name, directly.
* An argument that begins with a dash is a value only if it is a dash alone, looks like a negative
  number, or has a space and is no option. Behind the argument `--` there are only values.

The standard parser read arguments so before its release 3.11.9. Since that release a letter that is
no option, behind short names without a value, is an argument that nobody knows. Since release
3.11.10 the marker `--`, attached to an option, is the value of the option; here it leaves the
option without one.
-/

namespace Reckoner.CommandLine

set_option autoImplicit false

/-- What an argument is taken for: a value, an option nobody knows, or an option with the text that
is attached to it. Only a short name can be followed by further short names. -/
inductive Shape
  | value
  | unknown
  | option (flag : Flag) (short : Bool) (attached : Option Text)
deriving DecidableEq, Repr

/-- The argument behind which there are only values. -/
def marker : Text := ['-', '-']

def afterEquals? (argument : Text) : Option Text :=
  match argument.dropWhile (· != '=') with
  | [] => none
  | _ :: value => some value

def beforeEquals (argument : Text) : Text :=
  argument.takeWhile (· != '=')

/-- A name with one dash is short. -/
def isShort : Text → Bool
  | _ :: second :: _ => second != '-'
  | _ => false

/-- The option that an argument names in full, alone or with a value behind an equals sign. -/
def exactShape? (argument : Text) : Option Shape :=
  match Flag.ofName? argument with
  | some flag => some (.option flag (isShort argument) none)
  | none =>
      match afterEquals? argument with
      | some value =>
          (Flag.ofName? (beforeEquals argument)).map fun flag =>
            .option flag (isShort argument) (some value)
      | none => none

/-- The names that an argument can be read as, a short one with a text attached to it or long ones
that are cut short, with what the argument is taken for then. -/
def readings (argument : Text) : List (Text × Shape) :=
  if isShort argument then
    match Flag.ofName? (argument.take 2) with
    | some flag => [(argument.take 2, .option flag true (some (argument.drop 2)))]
    | none => []
  else
    (Flag.named.filter fun entry => (beforeEquals argument).isPrefixOf entry.1).map fun entry =>
      (entry.1, .option entry.2 false (afterEquals? argument))

/-- A decimal digit of any script. -/
def isAnyDigit (c : Char) : Bool :=
  (Text.decimalDigit? c).isSome

/-- The digits behind the dash of a negative number: a run of them, with a point before the last at
most. -/
def isUnsignedNumber (text : Text) : Bool :=
  match text.dropWhile isAnyDigit with
  | [] => !text.isEmpty
  | '.' :: fraction => !fraction.isEmpty && fraction.all isAnyDigit
  | _ => false

/-- The argument looks like a negative number. A line break at its end does not count. -/
def looksNegative (argument : Text) : Bool :=
  match argument with
  | '-' :: number =>
      isUnsignedNumber (if number.getLast? = some '\n' then number.dropLast else number)
  | _ => false

def shapeOf (argument : Text) : Except Problem Shape :=
  match argument with
  | '-' :: _ :: _ =>
      match exactShape? argument with
      | some shape => .ok shape
      | none =>
          match readings argument with
          | [(_, shape)] => .ok shape
          | [] => .ok (if looksNegative argument || argument.contains ' ' then .value else .unknown)
          | several => .error (.ambiguous argument (several.map (·.1)))
  | _ => .ok .value

/-- The arguments with what they are taken for. Nobody knows the marker itself. -/
def classified : List Text → Except Problem (List (Text × Shape))
  | [] => .ok []
  | argument :: rest =>
      if argument = marker then .ok ((argument, .unknown) :: rest.map (·, .value))
      else
        match shapeOf argument with
        | .error problem => .error problem
        | .ok shape => (classified rest).map ((argument, shape) :: ·)

/-- The options that one argument names: some without a value, and a last one with the value that is
attached to it. -/
structure Chain where
  before : List Flag := []
  last : Flag
  value : Option Text := none
deriving DecidableEq, Repr

namespace Chain

def behind (flag : Flag) (chain : Chain) : Chain :=
  { chain with before := flag :: chain.before }

/-- The options of an argument whose first option has a text attached to it. Of a short name without
a value the text is the next short name, with what is attached to that. -/
def ofAttached (flag : Flag) (short : Bool) (attached : Text) : Except Problem Chain :=
  if flag.takesValue then .ok { last := flag, value := some attached }
  else
    match attached with
    | [] => .error (.uselessValue flag attached)
    | c :: rest =>
        match if short then Flag.ofName? ['-', c] else none with
        | none => .error (.uselessValue flag attached)
        | some next =>
            if rest.isEmpty then .ok { before := [flag], last := next }
            else (ofAttached next true rest).map (behind flag)

def ofShape (flag : Flag) (short : Bool) : Option Text → Except Problem Chain
  | none => .ok { last := flag }
  | some attached => ofAttached flag short attached

def needsValue (chain : Chain) : Bool :=
  chain.value.isNone && chain.last.takesValue

end Chain

end Reckoner.CommandLine
