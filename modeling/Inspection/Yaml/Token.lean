/-!
# Yaml — Tokens

The tokens of a document, in the order of the text.  Where indentation opens and closes a
collection, the tokens say so; a key that turns out to be one by the colon after it has its `key`
token in front of it.  A tag is a list of octets, since its escapes may spell any.
-/

namespace Inspection.Yaml

/-- How a scalar is written. -/
inductive ScalarStyle where
  | plain
  | singleQuoted
  | doubleQuoted
  | literal
  | folded
deriving DecidableEq, Repr

/-- A token. -/
inductive Token where
  | version (major minor : Nat)
  | tagHandle (handle : String) (stands : List UInt8)
  | documentStart
  | documentEnd
  | blockSequenceStart
  | blockMappingStart
  | blockEnd
  | flowSequenceStart
  | flowSequenceEnd
  | flowMappingStart
  | flowMappingEnd
  | blockEntry
  | flowEntry
  | key
  | value
  | alias (name : String)
  | anchor (name : String)
  | tag (handle : String) (suffix : List UInt8)
  | scalar (text : String) (style : ScalarStyle)
deriving DecidableEq, Repr

/-- Why a text is no document, or not the document that is asked for. -/
inductive Fault where
  | character (c : Char)
  | noToken (c : Char)
  | missingColon
  | misplaced (what : String)
  | unclosed (what : String)
  | indentation
  | directive
  | anchorName
  | tagName
  | escape
  | blockHeader
  | expected (what : String)
  | unknownAnchor (name : String)
  | manyDocuments
  | tooDeep
  | repetition
  | wrongType (wanted : String)
  | unknownField (name : String)
  | duplicateField (name : String)
  | missingField (name : String)
deriving DecidableEq, Repr

/-- The wording of a fault. -/
def Fault.message : Fault → String
  | .character _ => "control characters are not allowed"
  | .noToken _ => "found character that cannot start any token"
  | .missingColon => "could not find expected ':'"
  | .misplaced what => what ++ " are not allowed in this context"
  | .unclosed what => "found unexpected end of " ++ what
  | .indentation => "found a tab where indentation is expected"
  | .directive => "malformed directive"
  | .anchorName => "malformed anchor or alias"
  | .tagName => "malformed tag"
  | .escape => "malformed escape sequence"
  | .blockHeader => "malformed header of a block scalar"
  | .expected what => "did not find expected " ++ what
  | .unknownAnchor name => "unknown anchor '" ++ name ++ "'"
  | .manyDocuments => "more than one document"
  | .tooDeep => "recursion limit exceeded"
  | .repetition => "repetition limit exceeded"
  | .wrongType wanted => "invalid type, expected " ++ wanted
  | .unknownField name => "unknown field '" ++ name ++ "'"
  | .duplicateField name => "duplicate field '" ++ name ++ "'"
  | .missingField name => "missing field '" ++ name ++ "'"

end Inspection.Yaml
