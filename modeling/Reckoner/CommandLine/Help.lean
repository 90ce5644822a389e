import Reckoner.CommandLine.Options

/-!
# The help

The help shows how the program is called and what each of its options is for. It is laid out for 80
columns, of which the last two stay free. No word of it is too long for its line, and none is parted
at a hyphen there.
-/

namespace Reckoner.CommandLine

set_option autoImplicit false

namespace Help

def width : Nat := 78

def purposeColumn : Nat := 24

/-- The words of a text. Several spaces part two words as one does. -/
def words (text : Text) : List Text :=
  (text.splitBy fun c d => c != ' ' && d != ' ').filter (· != [' '])

/-- Lines that a line is continued to with some words. Each takes as many of them as fit. -/
def filled (width : Nat) (line : Text) : List Text → List Text
  | [] => [line]
  | word :: rest =>
      if line.length + 1 + word.length ≤ width then filled width (line ++ ' ' :: word) rest
      else line :: filled width word rest

def paragraph (width : Nat) : List Text → List Text
  | [] => []
  | word :: rest => filled width word rest

def indented (columns : Nat) (line : Text) : Text :=
  List.replicate columns ' ' ++ line

end Help

namespace Flag

def valueName : Flag → Text
  | help | version => []
  | expression => "EVAL_EXPR".toList
  | line => "LINE".toList
  | format => oneOf Options.formatNames
  | places => "DECIMALS".toList
  | journalLevel => oneOf Options.journalLevelNames
  | journalFile => "LOG_FILE".toList
where
  oneOf (choices : List Text) : Text := '\x7b' :: Text.joined [','] choices ++ ['\x7d']

def withValueName (flag : Flag) (name : Text) : Text :=
  if flag.takesValue then name ++ ' ' :: flag.valueName else name

/-- An option as the call of the program shows it, under its first name. -/
def called (flag : Flag) : List Text :=
  (flag.names.take 1).map fun name => '[' :: flag.withValueName name ++ [']']

def heading (flag : Flag) : Text :=
  Help.indented 2 (Text.joined ", ".toList (flag.names.map flag.withValueName))

/-- The lines of an option. Its purpose begins next to its heading if two spaces fit between them.
-/
def explained (flag : Flag) : List Text :=
  let purpose := Help.paragraph (Help.width - Help.purposeColumn) (Help.words flag.purpose)
  if flag.heading.length + 2 ≤ Help.purposeColumn then
    (flag.heading.rightpad Help.purposeColumn ' ' ++ purpose.headD []) ::
      purpose.tail.map (Help.indented Help.purposeColumn)
  else flag.heading :: purpose.map (Help.indented Help.purposeColumn)

end Flag

namespace Help

def opening : Text := "usage: inlinemath ".toList

/-- How the program is called. All lines but the first are indented as far as the first option is.
-/
def call : Text :=
  opening ++ Text.joined ('\n' :: indented opening.length [])
    (paragraph (width - opening.length) (Flag.all.flatMap Flag.called))

end Help

def help : Text :=
  (Help.call :: [] :: "options:".toList :: Flag.all.flatMap Flag.explained).flatMap (· ++ ['\n'])

end Reckoner.CommandLine
