import Inspection.Shell.Command

/-!
# Shell — Tokens of scripts

A script is read as words and marks.  Some words are keywords where a command may start.

* `SyntaxError`: why a line cannot be read.
-/

namespace Inspection.Shell

/-- Why a script cannot be read on, and the line where that shows. -/
structure SyntaxError where
  line : Nat
  message : String
deriving DecidableEq, Repr

/-- A word or a mark of a script. -/
inductive Token where
  | endOfScript
  | newline
  | redirect (descriptor : Option Nat) (mark : String)
  | word (w : Word)
  /-- One of the marks that separate commands. -/
  | mark (text : String)
  | keyword (text : String)

namespace Token

/-- What messages call the token. -/
def describe : Token → String
  | .endOfScript => "end of file"
  | .newline => "newline"
  | .redirect _ _ => "redirection"
  | .word _ => "word"
  | .mark text | .keyword text => "\"" ++ text ++ "\""

/-- The token is a mark or a keyword with this text. -/
def is (text : String) : Token → Bool
  | .mark t | .keyword t => t == text
  | _ => false

/-- The token ends a list of commands that may be empty. -/
def isEnd : Token → Bool
  | .endOfScript => true
  | .mark t => t == ")" || t == ";;"
  | .keyword t => closers.contains t
  | _ => false

/-- The word that the token is or was. -/
def asWord : Token → Word
  | .word w => w
  | .keyword t => [.text false t.toList]
  | _ => []

end Token

end Inspection.Shell
