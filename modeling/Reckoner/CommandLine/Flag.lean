import Reckoner.Text.Quoted

/-!
# Flags

The options that the command line knows, the names they go by, what they are for, and the reasons
why a command line is refused.
-/

namespace Reckoner.CommandLine

set_option autoImplicit false

inductive Flag
  | help
  | expression
  | line
  | format
  | places
  | version
  | journalLevel
  | journalFile
deriving DecidableEq, Repr

namespace Flag

def names : Flag → List Text
  | help => ["-h".toList, "--help".toList]
  | expression => ["-e".toList, "--eval".toList]
  | line => ["--line".toList]
  | format => ["--format".toList]
  | places => ["-d".toList, "--decimals".toList]
  | version => ["-v".toList, "--version".toList]
  | journalLevel => ["--log-level".toList]
  | journalFile => ["--log-file".toList]

def purpose : Flag → Text
  | help => "show this help message and exit".toList
  | expression => "Evaluate one expression and exit (non-interactive)".toList
  | line => "Apply the '=  ' trigger to a line of text and print the rewritten line".toList
  | format => "Output format: json (machine-readable) or human (human-readable)".toList
  | places => "Maximum fractional digits in results".toList
  | version => "Show program version".toList
  | journalLevel => "Set logging level (default: INLINEMATH_LOG_LEVEL or WARNING)".toList
  | journalFile => "Write logs to file".toList

/-- All options, in the order in which they are looked through. -/
def all : List Flag :=
  [help, expression, line, format, places, version, journalLevel, journalFile]

def takesValue : Flag → Bool
  | help | version => false
  | _ => true

def named : List (Text × Flag) :=
  all.flatMap fun flag => flag.names.map (·, flag)

def ofName? (name : Text) : Option Flag :=
  named.lookup name

/-- The option as errors name it. -/
def title (flag : Flag) : Text :=
  Text.joined ['/'] flag.names

end Flag

inductive Problem
  /-- A shortened name is the beginning of several names. -/
  | ambiguous (argument : Text) (names : List Text)
  /-- No value follows an option that needs one. -/
  | withoutValue (flag : Flag)
  /-- A value is attached to an option that takes none. -/
  | uselessValue (flag : Flag) (value : Text)
  /-- The value of an option is not an integer. -/
  | notAnInteger (flag : Flag) (value : Text)
  /-- The value of an option is none of those it can have. -/
  | notAChoice (flag : Flag) (value : Text) (choices : List Text)
  /-- Nobody takes these arguments. -/
  | unknownArguments (arguments : List Text)
deriving DecidableEq, Repr

namespace Problem

def about (flag : Flag) (wording : Text) : Text :=
  "argument ".toList ++ flag.title ++ ": ".toList ++ wording

def message : Problem → Text
  | ambiguous argument names =>
      "ambiguous option: ".toList ++ argument ++ " could match ".toList
        ++ Text.joined ", ".toList names
  | withoutValue flag => about flag "expected one argument".toList
  | uselessValue flag value => about flag ("ignored explicit argument ".toList ++ Text.quoted value)
  | notAnInteger flag value => about flag ("invalid int value: ".toList ++ Text.quoted value)
  | notAChoice flag value choices =>
      about flag ("invalid choice: ".toList ++ Text.quoted value ++ " (choose from ".toList
        ++ Text.joined ", ".toList (choices.map Text.quoted) ++ [')'])
  | unknownArguments arguments =>
      "unrecognized arguments: ".toList ++ Text.joined [' '] arguments

end Problem

end Reckoner.CommandLine
