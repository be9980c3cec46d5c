import Inspection.Text.CodeRange
import Inspection.Text.Numeral

/-!
# View — Documents of XML 1.0

What XML 1.0 takes for a well-formed document, cut down to what a report has use for: a document
here has no document type, no comments, no processing instructions, no CDATA sections, and no white
space that it could do without.  Whatever is well-formed by these rules is a well-formed document.

* `isChar`: the characters that a document may have anywhere.
* `IsReference`, `IsValue`, `IsCharData`: texts inside attributes and between tags.
* `IsElement`, `IsContent`: tags that match, and what stands between them.
* `IsDocument`, `WellFormed`: one element under a declaration.
-/

namespace Inspection.Xml

/-! ### Characters and names -/

/-- The characters of a document: of the controls only tab, line feed and carriage return, and
neither surrogates nor the last two code points of the first plane. -/
def charRanges : List Text.CodeRange :=
  [⟨0x9, 0xA⟩, ⟨0xD, 0xD⟩, ⟨0x20, 0xD7FF⟩, ⟨0xE000, 0xFFFD⟩, ⟨0x10000, 0x10FFFF⟩]

/-- A character that may stand in a document. -/
def isChar (c : Char) : Bool := Text.CodeRange.mem charRanges c

/-- The characters that a name begins with. -/
def nameStartRanges : List Text.CodeRange :=
  [⟨0x3A, 0x3A⟩, ⟨0x41, 0x5A⟩, ⟨0x5F, 0x5F⟩, ⟨0x61, 0x7A⟩, ⟨0xC0, 0xD6⟩, ⟨0xD8, 0xF6⟩,
    ⟨0xF8, 0x2FF⟩, ⟨0x370, 0x37D⟩, ⟨0x37F, 0x1FFF⟩, ⟨0x200C, 0x200D⟩, ⟨0x2070, 0x218F⟩,
    ⟨0x2C00, 0x2FEF⟩, ⟨0x3001, 0xD7FF⟩, ⟨0xF900, 0xFDCF⟩, ⟨0xFDF0, 0xFFFD⟩, ⟨0x10000, 0xEFFFF⟩]

/-- The characters that a name goes on with, next to those it begins with. -/
def nameRestRanges : List Text.CodeRange :=
  [⟨0x2D, 0x2E⟩, ⟨0x30, 0x39⟩, ⟨0xB7, 0xB7⟩, ⟨0x300, 0x36F⟩, ⟨0x203F, 0x2040⟩]

/-- A character that a name begins with. -/
def isNameStart (c : Char) : Bool := Text.CodeRange.mem nameStartRanges c

/-- A character of a name. -/
def isNameChar (c : Char) : Bool := isNameStart c || Text.CodeRange.mem nameRestRanges c

/-- The name of an element, an attribute or an entity. -/
def isName : List Char → Bool
  | [] => false
  | c :: s => isNameStart c && s.all isNameChar

/-! ### Texts -/

/-- The entities that need no declaration. -/
def entities : List (List Char) :=
  ["amp".toList, "lt".toList, "gt".toList, "apos".toList, "quot".toList]

/-- What stands for a character: the name of an entity, or the number of the character. -/
inductive IsReference : List Char → Prop where
  | entity {name : List Char} (h : name ∈ entities) : IsReference (['&'] ++ name ++ [';'])
  | decimal {digits : List Char} {c : Char} (h : Text.ofDigits? digits = some c.toNat)
      (hc : isChar c = true) : IsReference (['&', '#'] ++ digits ++ [';'])
  | hexadecimal {digits : List Char} {c : Char} (h : Text.ofBaseDigits? 16 digits = some c.toNat)
      (hc : isChar c = true) : IsReference (['&', '#', 'x'] ++ digits ++ [';'])

/-- What an attribute has between its quotes. -/
inductive IsValue : List Char → Prop where
  | nil : IsValue []
  | char {c : Char} {s : List Char} (hc : c ∉ ['<', '&', '"']) (hs : IsValue s) : IsValue (c :: s)
  | reference {r s : List Char} (hr : IsReference r) (hs : IsValue s) : IsValue (r ++ s)

/-- A text between two tags or references. -/
def IsCharData (s : List Char) : Prop := '<' ∉ s ∧ '&' ∉ s ∧ ¬ [']', ']', '>'] <:+: s

/-! ### Elements -/

/-- The attributes of a tag, by their names; no two have the same. -/
inductive IsAttributes : List (List Char) → List Char → Prop where
  | nil : IsAttributes [] []
  | cons {name value s : List Char} {names : List (List Char)} (hname : isName name = true)
      (hfresh : name ∉ names) (hvalue : IsValue value) (hs : IsAttributes names s) :
      IsAttributes (name :: names) ([' '] ++ name ++ ['=', '"'] ++ value ++ ['"'] ++ s)

mutual

/-- An element: one tag, or two that have the same name with what stands between them. -/
inductive IsElement : List Char → Prop where
  | empty {name as : List Char} {names : List (List Char)} (hname : isName name = true)
      (has : IsAttributes names as) : IsElement (['<'] ++ name ++ as ++ ['/', '>'])
  | tagged {name as body : List Char} {names : List (List Char)} (hname : isName name = true)
      (has : IsAttributes names as) (hbody : IsContent body) :
      IsElement (['<'] ++ name ++ as ++ ['>'] ++ body ++ ['<', '/'] ++ name ++ ['>'])

/-- What stands between the tags of an element: texts, with an element or a reference between each
two. -/
inductive IsContent : List Char → Prop where
  | data {s : List Char} (hs : IsCharData s) : IsContent s
  | element {s e rest : List Char} (hs : IsCharData s) (he : IsElement e)
      (hrest : IsContent rest) : IsContent (s ++ e ++ rest)
  | reference {s r rest : List Char} (hs : IsCharData s) (hr : IsReference r)
      (hrest : IsContent rest) : IsContent (s ++ r ++ rest)

end

/-! ### Documents -/

/-- The characters between elements that are no text. -/
def isSpace (c : Char) : Bool := c ∈ [' ', '\t', '\n', '\r']

/-- The name of an encoding. -/
def isEncoding : List Char → Bool
  | [] => false
  | c :: s => c.isAlpha && s.all fun d => d.isAlphanum || d ∈ ['.', '_', '-']

/-- The declaration of a version and an encoding. -/
def declared (minor encoding : List Char) : List Char :=
  "<?xml version=\"1.".toList ++ minor ++ "\" encoding=\"".toList ++ encoding ++ "\"?>".toList

/-- A declaration and one element, with white space after each. -/
inductive IsDocument : List Char → Prop where
  | mk {minor encoding before root after : List Char}
      (hminor : (Text.ofDigits? minor).isSome = true) (hencoding : isEncoding encoding = true)
      (hbefore : before.all isSpace = true) (hroot : IsElement root)
      (hafter : after.all isSpace = true) :
      IsDocument (declared minor encoding ++ before ++ root ++ after)

/-- **A well-formed document**: the right characters in the right places. -/
structure WellFormed (doc : List Char) : Prop where
  chars : ∀ c ∈ doc, isChar c = true
  document : IsDocument doc

end Inspection.Xml
