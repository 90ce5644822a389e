import Reckoner.Fault

/-!
# Journal levels

A level is a number; what is noted is what is at least as severe. Levels are set by name, in capital
or small letters, and an unknown name stands for the level of warnings; but two names that belong to
other things of the journal are refused. Level 0 leaves the decision to the surroundings, which note
warnings and worse.
-/

namespace Reckoner.Journal

set_option autoImplicit false

/-- The level that unknown names stand for. -/
def defaultLevel : Int := 30

def namedLevels : List (Text × Int) :=
  [("DEBUG".toList, 10), ("INFO".toList, 20), ("WARNING".toList, 30), ("WARN".toList, 30),
   ("ERROR".toList, 40), ("CRITICAL".toList, 50), ("FATAL".toList, 50), ("NOTSET".toList, 0)]

/-- The names that belong to other things of the journal, with what is wrong about them. -/
def refusedNames : List (Text × Fault) :=
  [("BASIC_FORMAT".toList, .layoutAsLevel), ("_STYLES".toList, .layoutTableAsLevel)]

/-- A character in capital letters, as far as these names are concerned: the small ASCII letters,
and the dotless i, the long s and the two ligatures of s and t, whose capitals are ASCII letters
too. -/
def capitals (c : Char) : Text :=
  if c = 'ı' then ['I']
  else if c = 'ſ' then ['S']
  else if c = 'ﬅ' ∨ c = 'ﬆ' then ['S', 'T']
  else [Text.capitalLetter c]

def levelOfName (name : Text) : Except Fault Int :=
  let capitalName := name.flatMap capitals
  match refusedNames.lookup capitalName with
  | some fault => .error fault
  | none => .ok ((namedLevels.lookup capitalName).getD defaultLevel)

/-- The least severity that is noted at a level. -/
def effectiveLevel (level : Int) : Int :=
  if level = 0 then defaultLevel else level

end Reckoner.Journal
