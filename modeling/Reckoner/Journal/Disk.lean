import Reckoner.Decimal.Digits
import Reckoner.Text.Quoted

/-!
# The disk

A journal can be kept in a file, which is opened by its path. Which file a path leads to and what
stands against opening it is up to the disk as it is at that moment. Nothing is known of it
beforehand except that no path with a null character in it is opened.
-/

namespace Reckoner.Journal

set_option autoImplicit false

/-- What stands against opening a file: a null character, or something that the system reports by
its number, with the full path. -/
inductive Obstacle
  | nullInPath
  | reported (number : Nat) (wording path : Text)
deriving DecidableEq, Repr

def Obstacle.message : Obstacle → Text
  | nullInPath => "embedded null byte".toList
  | reported number wording path =>
      "[Errno ".toList ++ Decimal.numeral number ++ "] ".toList ++ wording ++ ": ".toList
        ++ Text.quoted path

/-- The files that paths lead to. Two paths can lead to the same file. -/
structure Disk where
  place : Text → Except Obstacle Text

namespace Disk

def opened (disk : Disk) (path : Text) : Except Obstacle Text :=
  if path.contains '\x00' then .error .nullInPath else disk.place path

def openedIfAny (disk : Disk) : Option Text → Except Obstacle (Option Text)
  | none => .ok none
  | some path => (disk.opened path).map some

def root : Text := ['/']

/-- A disk on which each path but the root leads to a file of its own. -/
def plain : Disk where
  place path :=
    if path = root then .error (.reported 21 "Is a directory".toList root) else .ok path

end Disk

end Reckoner.Journal
