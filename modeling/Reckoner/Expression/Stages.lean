import Reckoner.Expression.Value

/-!
# The stages of an evaluation

What an expression becomes on the way to its value, as far as it gets. An expression without tokens
gets as far as the empty queue here and fails for want of a value.
-/

namespace Reckoner.Expression

set_option autoImplicit false

/-- The finished stages of an evaluation and its outcome. -/
structure Stages where
  normalText : Option Text := none
  found : Option (List Token) := none
  signed : Option (List Token) := none
  queue : Option (List Token) := none
  outcome : Except Fault Binary64

def stages (expression : Text) : Stages :=
  match normal expression with
  | .error fault => { outcome := .error fault }
  | .ok text =>
      let normalText := some text
      match tokens text with
      | .error fault => { normalText, outcome := .error fault }
      | .ok list =>
          let found := some list
          let signed := some (markSigns list)
          match toPostfix (markSigns list) with
          | .error fault => { normalText, found, signed, outcome := .error fault }
          | .ok queue =>
              { normalText, found, signed, queue := some queue, outcome := valueOfPostfix queue }

end Reckoner.Expression
