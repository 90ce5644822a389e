/-!
# Text

A text is the list of its code points. Every length, position and caret of the library counts code
points, so a text needs no encoding and no byte offsets.
-/

namespace Reckoner

set_option autoImplicit false

/-- A piece of text, one character per code point. -/
abbrev Text := List Char

namespace Text

def joined (separator : Text) (parts : List Text) : Text :=
  separator.intercalate parts

def smallLetter (c : Char) : Char :=
  if 'A' ≤ c ∧ c ≤ 'Z' then Char.ofNat (c.toNat + 32) else c

def capitalLetter (c : Char) : Char :=
  if 'a' ≤ c ∧ c ≤ 'z' then Char.ofNat (c.toNat - 32) else c

end Text

end Reckoner
