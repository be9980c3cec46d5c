import Inspection.Shell.Reader.Surround

/-!
# Shell — Reading scripts

A script is read line by line: the commands of a line are known when the line ends outside of
quotes and constructs, and may run before the next line is read.  A text below a command is read
when the line of the command ends; until then the command knows it by a number.

* `Reading.next`: the commands of the next line; none at the end of the script.
-/

namespace Inspection.Shell

namespace Reader

mutual

/-- Reads parts of a word, in reverse, up to what ends them; within a sum, that many parentheses
are open. -/
def parts : Nat → Surround → Nat → List Part → Reader (List Part)
  | 0, _, _, _ => fail "Unterminated quoted string"
  | fuel + 1, w, depth, taken => do
    let literal (c : Char) (depth : Nat) : Reader (List Part) := do
      skip
      parts fuel w depth (.text w.isQuoted [c] :: taken)
    match ← peek with
    | none =>
      match w.unfinished? with
      | some message => failAtEnd message
      | none => return taken
    | some c =>
      if w.endsAt c then return taken
      else match c with
      | '\\' =>
        skip
        match ← peekRaw with
        | none => parts fuel w depth (.text true ['\\'] :: taken)
        | some d =>
          skip
          parts fuel w depth (.text true (if w.isEscapable d then [d] else ['\\', d]) :: taken)
      | '\'' =>
        if w.isQuoted then literal c depth
        else
          skip
          let text ← singleQuoted
          parts fuel w depth (.text true text :: taken)
      | '"' =>
        if w.manner == .sum || (w.manner == .body && !w.inBraces) then literal c depth
        else
          skip
          let inner ← parts fuel
            (if w.manner == .bare then { manner := .quoted, isStop := w.isStop }
              else { w with inQuotes := true }) 0 []
          skip
          let inner := Word.ofReversed inner
          let inner := if w.manner == .bare then quotedParts inner
            else if inner.isEmpty then [.text true []] else inner
          parts fuel w depth (inner.reverse ++ taken)
      | '$' =>
        skip
        let p ← dollar fuel w
        parts fuel w depth (p :: taken)
      | '\x60' =>
        if w.isStop then
          skip
          parts fuel w depth (.text true [c] :: taken)
        else
          skip
          let script ← backquoted (w.manner != .bare) (← measure) []
          let p ← marked fuel w script
          parts fuel w depth (p :: taken)
      | '(' =>
        if w.manner == .sum then literal c (depth + 1) else literal c depth
      | ')' =>
        if w.manner == .sum && depth == 0 then
          skip
          if ← accept ')' then return taken
          else parts fuel w depth (.text true [')'] :: taken)
        else literal c (depth - 1)
      | _ => literal c depth

/-- What a dollar sign starts, read from behind it. -/
def dollar : Nat → Surround → Reader Part
  | 0, _ => fail "Unterminated quoted string"
  | fuel + 1, w => do
    let name (s : List Char) : Part := .parameter w.isQuoted s .value
    match ← peek with
    | none => return .text w.isQuoted ['$']
    | some c =>
      if w.isStop then return .text w.isQuoted ['$']
      else if c == '(' then
        skip
        if ← accept '(' then
          let inner ← parts fuel { manner := .sum } 0 []
          return .sum w.isQuoted (Word.ofReversed inner)
        else substitution fuel w
      else if c == '\x7b' then
        skip
        braced fuel w
      else if isNameStart c then return name (← takeWhile isNameChar (← measure) [])
      else if isSpecialName c then
        skip
        return name [c]
      else return .text w.isQuoted ['$']

/-- The word of an operator, up to the brace that closes it. -/
def operand : Nat → Surround → Reader Word
  | 0, _ => fail "Missing '\x7d'"
  | fuel + 1, w => do
    let inner ← parts fuel w 0 []
    skip
    return Word.ofReversed inner

/-- A parameter between braces, read from behind the opening one. -/
def braced : Nat → Surround → Reader Part
  | 0, _ => fail "Missing '\x7d'"
  | fuel + 1, w => do
    let bad : Reader Part := do
      let _ ← operand fuel w.braces
      return .parameter w.isQuoted [] .bad
    let length (name : List Char) : Reader Part := do
      if ← accept '\x7d' then return .parameter w.isQuoted name .length else bad
    let named (name : List Char) : Reader Part := do
      return .parameter w.isQuoted name (← use fuel w)
    match ← peek with
    | none => bad
    | some c =>
      if isNameStart c then named (← takeWhile isNameChar (← measure) [])
      else if c.isDigit then named (← takeWhile Char.isDigit (← measure) [])
      else if c == '\x7d' then bad
      else if c == '#' then
        skip
        match ← peek with
        | none => bad
        | some d =>
          if isNameStart d then length (← takeWhile isNameChar (← measure) [])
          else if d.isDigit then length (← takeWhile Char.isDigit (← measure) [])
          else
            let start ← get
            skip
            if d != '\x7d' && (← peek) == some '\x7d' then
              if isSpecialName d then length [d] else bad
            else
              set start
              named ['#']
      else
        skipPlain
        if isSpecialName c then named [c] else bad

/-- What is made of a parameter, read from behind its name. -/
def use : Nat → Surround → Reader Use
  | 0, _ => fail "Missing '\x7d'"
  | fuel + 1, w => do
    let trim (c : Char) : Reader Use := do
      let isLongest ← accept c
      return .trim (c == '%') isLongest (← operand fuel { manner := .bare, inBraces := true })
    let other (emptyToo : Bool) : Reader Use := do
      match ← peek with
      | none =>
        let _ ← operand fuel w.braces
        return .bad
      | some '\x7d' =>
        skip
        if emptyToo then return .valueBefore (← operand fuel w.braces) else return .value
      | some c =>
        skipPlain
        let inner ← operand fuel w.braces
        return (useOf? emptyToo inner c).getD .bad
    match ← peek with
    | some ':' =>
      skip
      other true
    | some '%' =>
      skip
      trim '%'
    | some '#' =>
      skip
      trim '#'
    | _ => other false

/-- A command whose output stands for it, read from behind its parenthesis. -/
def substitution : Nat → Surround → Reader Part
  | 0, _ => fail "Unterminated quoted string"
  | fuel + 1, w => do
    let outer := (← get).awaited
    modify fun r => { r with awaited := [], ahead := none }
    let c ← list fuel false true none
    let t ← token fuel false false false
    if !t.is ")" then unexpectedFor (.mark ")") t
    let empty := (← get).awaited.map fun a => (a.id, ([] : Word))
    modify fun r => { r with awaited := outer, ahead := none, bodies := empty ++ r.bodies }
    return .command w.isQuoted (c.getD .nothing)

/-- A command between backward quotes.  What follows the end of a list in it does not count. -/
def marked : Nat → Surround → List Char → Reader Part
  | 0, _, _ => fail "EOF in backquote substitution"
  | fuel + 1, w, script => do
    let outer ← get
    let active := outer.insertions.filter (·.behind ≤ outer.rest.length)
    set { outer with
      rest := script, line := 1, awaited := [], ahead := none
      insertions := active.map fun (i : Insertion) => { i with behind := 0, endsInBlank := false } }
    let c ← list fuel false true none
    let inner ← get
    set { outer with bodies := inner.bodies, bodyCount := inner.bodyCount }
    return .command w.isQuoted (c.getD .nothing)

/-- The next token; ends of lines are passed over on demand, and a word may be a keyword or an
alias.  The word behind an alias that ends in a blank may be one anyway. -/
def token : Nat → Bool → Bool → Bool → Reader Token
  | 0, _, _, _ => fail "Unterminated quoted string"
  | fuel + 1, skipLines, findKeywords, findAliases => do
    let isBehind ← passInsertions
    match ← rawToken fuel false with
    | .newline =>
      if skipLines then
        readBodies fuel
        token fuel skipLines findKeywords findAliases
      else return .newline
    | .word w =>
      match if findKeywords then w.keyword? else none with
      | some k => return .keyword k
      | none =>
        let isInserted ← if findAliases || isBehind then insertAlias w else pure false
        if isInserted then token fuel skipLines findKeywords true else return .word w
    | t => return t

/-- The token that was read too early, or the next one. -/
def rawToken : Nat → Bool → Reader Token
  | 0, _ => fail "Unterminated quoted string"
  | fuel + 1, isStop => do
    match (← get).ahead with
    | some t =>
      modify fun r => { r with ahead := none }
      return t
    | none =>
      skipBlanks
      match ← peek with
      | none => return .endOfScript
      | some c =>
        match separator? c with
        | some read => read
        | none =>
          let w := Word.ofReversed (← parts fuel { manner := .bare, isStop } 0 [])
          match ← peek with
          | some c =>
            match descriptor? w with
            | some d =>
              if c == '<' || c == '>' then return .redirect d (← redirectMark)
              else return .word w
            | none => return .word w
          | none => return .word w

/-- Reads the texts below the commands of a line. -/
def readBodies : Nat → Reader Unit
  | 0 => return ()
  | fuel + 1 => do
    let r ← get
    match r.awaited with
    | [] => return ()
    | a :: rest =>
      let (text, after) := splitBody a (r.rest.length + 1) false r.rest
      let lines := countLines (r.rest.take (r.rest.length - after.length))
      let body ← if a.isLiteral then pure [Part.text true text] else do
        set { r with rest := text, awaited := [], linesBehind := lines - countLines text }
        let body ← parts fuel { manner := .body } 0 []
        pure (Word.ofReversed body)
      modify fun s => { s with rest := after, line := r.line + lines, awaited := rest
                               bodies := (a.id, body) :: s.bodies, linesBehind := r.linesBehind }
      readBodies fuel

/-- Reads a list of commands.  The list of a line ends with the line; another one goes on over the
lines up to a token that ends it, and must not be empty unless it may be. -/
def list : Nat → Bool → Bool → Option Command → Reader (Option Command)
  | 0, _, _, _ => fail "Unterminated quoted string"
  | fuel + 1, isLine, mayEnd, before => do
    let t ← token fuel (!isLine) true true
    match t with
    | .newline =>
      readBodies fuel
      return before
    | .endOfScript =>
      readBodies fuel
      pushBack t
      return before
    | _ =>
      pushBack t
      if !isLine && mayEnd && t.isEnd then return before
      else
        let c ← chain fuel
        let t ← token fuel false false false
        let c := if t.is "&" then .background c else c
        let c := (before.map fun b => Command.sequence b c).getD c
        match t with
        | .newline | .endOfScript =>
          pushBack t
          list fuel isLine true (some c)
        | _ =>
          if t.is "&" || t.is ";" then list fuel isLine true (some c)
          else if isLine then unexpected t
          else
            pushBack t
            return some c

/-- Pipelines that hang on one another's success. -/
def chain : Nat → Reader Command
  | 0 => fail "Unterminated quoted string"
  | fuel + 1 => do
    let c ← pipeline fuel false
    links fuel c

/-- What follows a pipeline in its chain. -/
def links : Nat → Command → Reader Command
  | 0, _ => fail "Unterminated quoted string"
  | fuel + 1, c => do
    let t ← token fuel false false false
    if t.is "&&" then
      let d ← pipeline fuel true
      links fuel (.both c d)
    else if t.is "||" then
      let d ← pipeline fuel true
      links fuel (.either c d)
    else
      pushBack t
      return c

/-- A pipeline; it may start on a line further down. -/
def pipeline : Nat → Bool → Reader Command
  | 0, _ => fail "Unterminated quoted string"
  | fuel + 1, skipLines => do
    let t ← token fuel skipLines true true
    if t.is "!" then return .negation (← piped fuel false)
    else
      pushBack t
      piped fuel false

/-- Commands that read one another's output. -/
def piped : Nat → Bool → Reader Command
  | 0, _ => fail "Unterminated quoted string"
  | fuel + 1, skipLines => do
    let c ← command fuel skipLines
    let t ← token fuel false false false
    if t.is "|" then return .pipe c (← piped fuel true)
    else
      pushBack t
      return c

/-- One command. -/
def command : Nat → Bool → Reader Command
  | 0, _ => fail "Unterminated quoted string"
  | fuel + 1, skipLines => do
    let line := (← get).line
    let t ← token fuel skipLines true true
    match t with
    | .word _ | .redirect _ _ =>
      pushBack t
      let line := (← get).line
      simple fuel line [] [] []
    | .mark "(" =>
      let c ← list fuel false false none
      expect fuel ")"
      let rs ← redirects fuel []
      return .nested line (c.getD .nothing) rs
    | .keyword k =>
      let c ← construct fuel line k
      let rs ← redirects fuel []
      return if rs.isEmpty then c else .redirected line c rs
    | _ => unexpected t

/-- Passes over a mark or a keyword that has to stand here. -/
def expect : Nat → String → Reader Unit
  | 0, _ => fail "Unterminated quoted string"
  | fuel + 1, text => do
    let t ← token fuel false false false
    if t.is text then return () else unexpectedFor (.mark text) t

/-- Passes over a keyword that has to stand here or further down. -/
def expectBelow : Nat → String → Reader Unit
  | 0, _ => fail "Unterminated quoted string"
  | fuel + 1, text => do
    let t ← token fuel true true true
    if t.is text then return () else unexpectedFor (.mark text) t

/-- A construct, read from behind its keyword. -/
def construct : Nat → Nat → String → Reader Command
  | 0, _, _ => fail "Unterminated quoted string"
  | fuel + 1, line, keyword => do
    match keyword with
    | "\x7b" =>
      let c ← list fuel false false none
      expect fuel "\x7d"
      return c.getD .nothing
    | "if" => choice fuel
    | "while" | "until" =>
      let condition ← list fuel false false none
      expect fuel "do"
      let body ← list fuel false false none
      expect fuel "done"
      return .loop (keyword == "until") (condition.getD .nothing) (body.getD .nothing)
    | "for" =>
      let t ← token fuel false false false
      match t with
      | .word w =>
        match w.bare?.filter isName with
        | none => fail "Bad for loop variable"
        | some name =>
          let t ← token fuel true true true
          let words ← if t.is "in" then items fuel []
            else do
              if !t.is ";" then pushBack t
              pure [[.parameter true ['@'] .value]]
          expectBelow fuel "do"
          let body ← list fuel false false none
          expect fuel "done"
          return .each line name words (body.getD .nothing)
      | _ => fail "Bad for loop variable"
    | "case" =>
      let t ← token fuel false false false
      match t with
      | .word w =>
        let t ← token fuel true true true
        if t.is "in" then return .select line w (← arms fuel) else unexpectedFor (.mark "in") t
      | _ => unexpectedFor (.word []) t
    | _ => unexpected (.keyword keyword)

/-- The words of a loop, up to the end of their line. -/
def items : Nat → List Word → Reader (List Word)
  | 0, _ => fail "Unterminated quoted string"
  | fuel + 1, taken => do
    let t ← token fuel false false false
    match t with
    | .word w => items fuel (w :: taken)
    | .newline => return taken.reverse
    | _ => if t.is ";" then return taken.reverse else unexpected t

/-- A choice, read from behind its first keyword. -/
def choice : Nat → Reader Command
  | 0 => fail "Unterminated quoted string"
  | fuel + 1 => do
    let condition ← list fuel false false none
    expect fuel "then"
    let yes ← list fuel false false none
    let whole (no : Command) : Command := .choice (condition.getD .nothing) (yes.getD .nothing) no
    let t ← token fuel false false false
    if t.is "elif" then return whole (← choice fuel)
    else if t.is "else" then
      let no ← list fuel false false none
      expect fuel "fi"
      return whole (no.getD .nothing)
    else
      pushBack t
      expect fuel "fi"
      return whole .success

/-- What to do for each kind of word, up to the keyword that closes the choice. -/
def arms : Nat → Reader Arms
  | 0 => fail "Unterminated quoted string"
  | fuel + 1 => do
    let t ← token fuel true true false
    if t.is "esac" then return .none
    else
      let t ← if t.is "(" then token fuel false false false else pure t
      let patterns ← alternatives fuel [t.asWord]
      let body ← list fuel false true none
      let t ← token fuel true true false
      if t.is "esac" then return .arm patterns (body.getD .nothing) .none
      else if t.is ";;" then return .arm patterns (body.getD .nothing) (← arms fuel)
      else unexpectedFor (.mark ";;") t

/-- The patterns of one kind of word, up to the parenthesis behind them. -/
def alternatives : Nat → List Word → Reader (List Word)
  | 0, _ => fail "Unterminated quoted string"
  | fuel + 1, taken => do
    let t ← token fuel false false false
    if t.is "|" then
      let t ← token fuel false false false
      alternatives fuel (t.asWord :: taken)
    else if t.is ")" then return taken.reverse
    else unexpectedFor (.mark ")") t

/-- The redirections behind a construct. -/
def redirects : Nat → List (Redirect Word) → Reader (List (Redirect Word))
  | 0, _ => fail "Unterminated quoted string"
  | fuel + 1, taken => do
    let t ← token fuel false true true
    match t with
    | .redirect d mark =>
      let r ← redirect fuel d mark
      redirects fuel (r :: taken)
    | _ =>
      pushBack t
      return taken.reverse

/-- A redirection, read from behind its mark. -/
def redirect : Nat → Option Nat → String → Reader (Redirect Word)
  | 0, _, _ => fail "Unterminated quoted string"
  | fuel + 1, d, mark => do
    let isBody := mark == "<<" || mark == "<<-"
    let t ← rawToken fuel isBody
    match t with
    | .word w =>
      let led (usual : Nat) (target : Target Word) : Reader (Redirect Word) :=
        return ⟨d.getD usual, target⟩
      match mark with
      | "<" | "<>" => led 0 (.file .reading w)
      | ">>" => led 1 (.file .appending w)
      | ">|" => led 1 (.file .overwriting w)
      | ">&" => led 1 (.copy w)
      | "<&" => led 0 (.copy w)
      | "<<" | "<<-" =>
        let r ← get
        let id := r.bodyCount
        let a : Awaited :=
          { id, stop := (w.literal?).getD [], noTabs := mark == "<<-", isLiteral := w.isQuoted }
        set { r with awaited := r.awaited ++ [a], bodyCount := id + 1 }
        led 0 (.body id)
      | _ => led 1 (.file .writing w)
    | _ => unexpected t

/-- A row of words with redirections and, in front of them, assignments; or the definition of a
function.  What has been read is in reverse. -/
def simple : Nat → Nat → List (List Char × Word) → List Word → List (Redirect Word) →
    Reader Command
  | 0, _, _, _, _ => fail "Unterminated quoted string"
  | fuel + 1, line, assignments, words, rs => do
    let t ← token fuel false false words.isEmpty
    let done : Reader Command := do
      pushBack t
      return .simple line assignments.reverse words.reverse rs.reverse
    match t with
    | .word w =>
      match if words.isEmpty then w.assignment? else none with
      | some pair => simple fuel line (pair :: assignments) words rs
      | none => simple fuel line assignments (w :: words) rs
    | .redirect d mark =>
      let r ← redirect fuel d mark
      simple fuel line assignments words (r :: rs)
    | .mark "(" =>
      match words, assignments, rs with
      | [w], [], [] =>
        let t ← token fuel false false false
        if !t.is ")" then unexpectedFor (.mark ")") t
        let isFree (name : List Char) : Bool :=
          isName name && !specialNames.contains (String.ofList name)
        match w.bare?.filter isFree with
        | none => fail "Bad function name"
        | some name =>
          let line := (← get).line
          return .define line name (← command fuel true)
      | _, _, _ => done
    | _ => done

end

end Reader

/-! ### Scripts -/

namespace Reading

/-- A script that is still to be read. -/
def ofScript (script : List Char) : Reading := { rest := script }

/-- The commands of the next line, and what is left; none at the end of the script. -/
def next (r : Reading) : Except SyntaxError (Option Command × Reading) := do
  let inserted := r.aliases.foldl (fun n (_, text) => n + text.length + 1) 1
  let (c, r) ←
    Reader.list ((16 * r.rest.length + 64) * inserted) true false none { r with ahead := none }
  match c, r.ahead with
  | none, some _ => return (none, r)
  | none, none => return (some .nothing, r)
  | some c, _ => return (some c, r)

end Reading

end Inspection.Shell
