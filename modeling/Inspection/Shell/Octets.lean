import Inspection.Text.Octets

/-!
# Shell — Octets

A shell works on octets and gives a meaning to a few of them only.  An octet is held as the
character with its number, so that a script is a list of characters below 256.

* `spell`, `unspell`: octets as such characters and back.
-/

namespace Inspection.Shell

/-- The characters that stand for octets. -/
def spell (octets : List UInt8) : List Char := octets.map fun b => Char.ofNat b.toNat

/-- The octets that characters stand for. -/
def unspell (s : List Char) : List UInt8 := s.map fun c => UInt8.ofNat c.toNat

/-- A text by its octets. -/
def spellText (s : String) : List Char := spell (Text.encode s)

/-- What characters say between blanks of a script. -/
def isBlankOctet (c : Char) : Bool := c == ' ' || c == '\t'

/-- A character with which a name starts. -/
def isNameStart (c : Char) : Bool := c.isAlpha || c == '_'

/-- A character of a name. -/
def isNameChar (c : Char) : Bool := c.isAlphanum || c == '_'

/-- The text is the name of a variable. -/
def isName (s : List Char) : Bool := (s.head?.any isNameStart) && s.all isNameChar

end Inspection.Shell
