import Reckoner.Text.Letter
import Reckoner.Text.NumberSign

/-!
# Word characters

Words of running text are runs of letters and number signs. The capital X is kept out of them, as it
is the multiplication sign of the notation. Decimal digits, marks and the underscore are no word
characters either.
-/

namespace Reckoner.Text

set_option autoImplicit false

/-- The sign that is typed for multiplication. -/
def timesSign : Char := 'X'

def isWordCharacter (c : Char) : Bool :=
  c != timesSign && (isLetter c || isNumberSign c)

end Reckoner.Text
