import Reckoner.Answer
import Reckoner.Field.Equation
import Reckoner.Field.Line

/-!
# Edits

If the line at the caret asks for a result, the field is edited: the line is replaced by the
answered one and the caret moves to its end. A host keeps a field and its caret, and lets each
change be followed by such an edit.
-/

namespace Reckoner.Field

set_option autoImplicit false

/-- A field after an edit, with its caret and the line to announce. -/
structure Edit where
  value : Text
  caret : Nat
  announcement : Text
deriving DecidableEq, Repr

namespace Edit

def replacing (value : Text) (bounds : LineBounds) (line : Text) : Edit :=
  let before := value.take bounds.start ++ line
  ⟨before ++ value.drop bounds.stop, before.length, line⟩

def ofField? (settings : Settings) (value : Text) (caret : Int) : Except Fault (Option Edit) :=
  let bounds := lineBounds value caret
  match Equation.ofLine? (between value bounds) with
  | none => .ok none
  | some equation =>
      (Answer.textOf settings equation.expression).map fun result =>
        some (replacing value bounds
          (Equation.answered equation.leftPart equation.expression result))

end Edit

structure Host where
  value : Text
  caret : Nat
deriving DecidableEq, Repr

namespace Host

inductive Change
  | insert (text : Text)
  | backspace (count : Nat)
  | moveTo (caret : Int)
deriving DecidableEq, Repr

def opened (value : Text) : Host :=
  ⟨value, value.length⟩

/-- The field after a change. A caret out of range stops at the nearer end. -/
def changed (host : Host) : Change → Host
  | .insert text =>
      ⟨host.value.take host.caret ++ text ++ host.value.drop host.caret,
        host.caret + text.length⟩
  | .backspace count =>
      ⟨host.value.take (host.caret - count) ++ host.value.drop host.caret, host.caret - count⟩
  | .moveTo caret => ⟨host.value, min host.value.length caret.toNat⟩

/-- The field after a change and the edit that may follow, and whether one did. -/
def step (settings : Settings) (host : Host) (change : Change) : Except Fault (Host × Bool) :=
  let next := host.changed change
  (Edit.ofField? settings next.value next.caret).map fun
    | some edit => (⟨edit.value, edit.caret⟩, true)
    | none => (next, false)

def run (settings : Settings) (host : Host) : List Change → Except Fault (List (Host × Bool))
  | [] => .ok []
  | change :: rest => do
      let reached ← step settings host change
      (run settings reached.1 rest).map (reached :: ·)

end Host

end Reckoner.Field
