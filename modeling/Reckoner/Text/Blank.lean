import Reckoner.Text.Basic
import Reckoner.Text.CodeRanges

/-!
# Blanks

The white space characters of Unicode 14 together with the four information separators, and the
operations that drop or collapse runs of them.
-/

namespace Reckoner.Text

set_option autoImplicit false

def blankRanges : CodeRanges :=
  [(0x9, 0xD), (0x1C, 0x20), (0x85, 0x85), (0xA0, 0xA0), (0x1680, 0x1680), (0x2000, 0x200A),
   (0x2028, 0x2029), (0x202F, 0x202F), (0x205F, 0x205F), (0x3000, 0x3000)]

/-- A character that separates and leaves no mark: spaces, tabs, line and paragraph ends. -/
def isBlank (c : Char) : Bool :=
  blankRanges.covers c.toNat

def trimStart (text : Text) : Text :=
  text.dropWhile isBlank

def trimEnd (text : Text) : Text :=
  (text.reverse.dropWhile isBlank).reverse

def trim (text : Text) : Text :=
  trimEnd (trimStart text)

/-- Each run of blanks as one space. The flag says whether a run has already been written. -/
def squeezeFrom (inRun : Bool) : Text → Text
  | [] => []
  | c :: rest =>
      if isBlank c then
        if inRun then squeezeFrom true rest else ' ' :: squeezeFrom true rest
      else c :: squeezeFrom false rest

def squeeze (text : Text) : Text :=
  squeezeFrom false text

end Reckoner.Text
