import Inspection.Text.Numeral

/-!
# Cluster — Faults of the notation

A cluster file is written in a notation of nested tables and lists.  A text that is not written in
it has a fault: a place and a cause.

* `Fault.message`: the wording of a fault, with its place.
-/

namespace Inspection.Cluster.Notation

/-- A place in a text: the characters and the breaks before it, and its column. -/
structure Place where
  index : Nat := 0
  line : Nat := 1
  column : Nat := 0
deriving DecidableEq, Repr

/-- What is wrong at a place. -/
inductive Cause where
  | character (c : Char)
  | indentation
  | tabIndentation
  | gluedComment
  | keyWithoutColon
  | keyExpected
  | tooDeep
  | entryInFlow
  | misplacedEntry
  | misplacedKey
  | misplacedValue
  | anchorIndentation
  | tabAfterDash
  | tabAfterColon
  | tabAfterMark
  | markWithoutGap
  | brokenKey
  | afterDocument
  | directiveName
  | directiveNameEnd
  | directiveEnd
  | versionPoint
  | versionMissing
  | versionLong
  | handleStart
  | handleEnd
  | handleGap
  | tagCharacter
  | tagClosing
  | tagEmpty
  | tagGap
  | tagEscape
  | tagFirstOctet
  | tagNextOctet
  | tagCodePoint
  | anchorName
  | plainInFlow
  | plainDash
  | plainTab
  | plainEmpty
  | quotedMarker
  | quotedEnd
  | quotedIndentation
  | quotedTab
  | quotedTrail
  | escapeLetter
  | escapeDigits
  | escapeCode
  | blockZero
  | blockHeader
  | blockTab
  | blockIndentation
  | keyOrEnd
  | dashOrEnd
  | commaOrBrace
  | commaOrBracket
  | content
  | documentStart
  | directiveInside
  | secondVersion
  | unknownHandle
  | unknownAnchor
  | repeatedKey (shown : String)
deriving DecidableEq, Repr

/-- The wording of a cause. -/
def Cause.message : Cause → String
  | .character c => "unexpected character: \x60" ++ String.singleton c ++ "'"
  | .indentation => "invalid indentation"
  | .tabIndentation => "tabs disallowed within this context (block indentation)"
  | .gluedComment => "comments must be separated from other tokens by whitespace"
  | .keyWithoutColon => "simple key expect ':'"
  | .keyExpected => "simple key expected"
  | .tooDeep => "recursion limit exceeded"
  | .entryInFlow => "\"-\" is only valid inside a block"
  | .misplacedEntry => "block sequence entries are not allowed in this context"
  | .misplacedKey => "mapping keys are not allowed in this context"
  | .misplacedValue => "mapping values are not allowed in this context"
  | .anchorIndentation => "invalid indentation for anchor"
  | .tabAfterDash => "'-' must be followed by a valid YAML whitespace"
  | .tabAfterColon => "':' must be followed by a valid YAML whitespace"
  | .tabAfterMark => "tabs disallowed in this context"
  | .markWithoutGap => "expected whitespace"
  | .brokenKey => "illegal placement of ':' indicator"
  | .afterDocument => "invalid content after document end marker"
  | .directiveName => "while scanning a directive, could not find expected directive name"
  | .directiveNameEnd =>
    "while scanning a directive, found unexpected non-alphabetical character"
  | .directiveEnd =>
    "while scanning a directive, did not find expected comment or line break"
  | .versionPoint =>
    "while scanning a YAML directive, did not find expected digit or '.' character"
  | .versionMissing => "while scanning a YAML directive, did not find expected version number"
  | .versionLong => "while scanning a YAML directive, found extremely long version number"
  | .handleStart => "while scanning a tag, did not find expected '!'"
  | .handleEnd => "while parsing a tag directive, did not find expected '!'"
  | .handleGap => "while scanning TAG, did not find expected whitespace or line break"
  | .tagCharacter => "invalid global tag character"
  | .tagClosing => "while scanning a verbatim tag, did not find the expected '>'"
  | .tagEmpty => "while parsing a tag, did not find expected tag URI"
  | .tagGap => "while scanning a tag, did not find expected whitespace or line break"
  | .tagEscape => "while parsing a tag, found an invalid escape sequence"
  | .tagFirstOctet => "while parsing a tag, found an incorrect leading UTF-8 byte"
  | .tagNextOctet => "while parsing a tag, found an incorrect trailing UTF-8 byte"
  | .tagCodePoint => "while parsing a tag, found an invalid UTF-8 codepoint"
  | .anchorName =>
    "while scanning an anchor or alias, did not find expected alphabetic or numeric character"
  | .plainInFlow => "invalid indentation in flow construct"
  | .plainDash => "plain scalar cannot start with '-' followed by ,[]\x7b\x7d"
  | .plainTab => "while scanning a plain scalar, found a tab"
  | .plainEmpty => "unexpected end of plain scalar"
  | .quotedMarker => "while scanning a quoted scalar, found unexpected document indicator"
  | .quotedEnd => "while scanning a quoted scalar, found unexpected end of stream"
  | .quotedIndentation => "invalid indentation in quoted scalar"
  | .quotedTab => "tab cannot be used as indentation"
  | .quotedTrail => "invalid trailing content after double-quoted scalar"
  | .escapeLetter => "while parsing a quoted scalar, found unknown escape character"
  | .escapeDigits => "while parsing a quoted scalar, did not find expected hexadecimal number"
  | .escapeCode => "while parsing a quoted scalar, found invalid Unicode character escape code"
  | .blockZero => "while scanning a block scalar, found an indentation indicator equal to 0"
  | .blockHeader =>
    "while scanning a block scalar, did not find expected comment or line break"
  | .blockTab => "a block scalar content cannot start with a tab"
  | .blockIndentation => "wrongly indented line in block scalar"
  | .keyOrEnd => "while parsing a block mapping, did not find expected key"
  | .dashOrEnd => "while parsing a block collection, did not find expected '-' indicator"
  | .commaOrBrace => "while parsing a flow mapping, did not find expected ',' or '\x7d'"
  | .commaOrBracket => "while parsing a flow sequence, expected ',' or ']'"
  | .content => "while parsing a node, did not find expected node content"
  | .documentStart => "did not find expected <document start>"
  | .directiveInside => "missing explicit document end marker before directive"
  | .secondVersion => "duplicate version directive"
  | .unknownHandle => "the handle wasn't declared"
  | .unknownAnchor => "while parsing node, found unknown anchor"
  | .repeatedKey shown => shown ++ ": duplicated key in mapping"

/-- Why a text is not written in the notation. -/
structure Fault where
  place : Place
  cause : Cause
deriving DecidableEq, Repr

/-- The wording of a fault: its cause and its place, lines and columns counted from one. -/
def Fault.message (f : Fault) : String :=
  f.cause.message ++ " at byte " ++ Text.natText f.place.index ++ " line "
    ++ Text.natText f.place.line ++ " column " ++ Text.natText (f.place.column + 1)

end Inspection.Cluster.Notation
