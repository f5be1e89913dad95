import TracePlayer.Host.Shell.Token

/-!
# Readers of a shell script

The steps of which the reading of a script is made: they pass over characters, count lines, and tell what stands at the place that
has been reached. A backslash in front of a line break joins two lines. The text of a document that is given in a script stands
behind the line that asks for it, up to its delimiter.
-/

namespace TracePlayer.Host.Shell

namespace Reader

/-- Reports a fault on the line that has been reached. -/
def fail {α : Type} (fault : SyntaxFault) : Reader α := do throw ((← get).line, fault)

/-- Reports a token that cannot stand where it stands. -/
def unexpected {α : Type} (t : Token) (wanted : Option String) : Reader α := fail (.unexpected t.name wanted)

/-- The next character. -/
def peek : Reader (Option Char) := return (← get).rest.head?

/-- Passes over a character. -/
def skip : Reader Unit := modify fun c =>
  { c with rest := c.rest.tail, line := if c.rest.head? = some '\n' then c.line + 1 else c.line }

/-- The text without the line breaks at its start that a backslash takes away, and how many these are. -/
def dropJoins : Octets → Octets × Nat
  | '\\' :: '\n' :: rest => let (text, n) := dropJoins rest; (text, n + 1)
  | text => (text, 0)

/-- The next character that no backslash joins to the line before. -/
def peekJoined : Reader (Option Char) := do
  modify fun c => { c with rest := (dropJoins c.rest).1, line := c.line + (dropJoins c.rest).2 }
  peek

/-- Passes over the next character if it is this one. -/
def accept (c : Char) : Reader Bool := do
  if (← peekJoined) = some c then
    skip
    return true
  else return false

/-- Gives a token back. -/
def hold (t : Token) : Reader Unit := modify fun c => { c with held := some t }

/-- The characters from here on that satisfy a condition. -/
def takeWhile (p : Char → Bool) : Nat → Reader Octets
  | 0 => return []
  | n + 1 => do
    match ← peekJoined with
    | some c =>
      if p c then
        skip
        return c :: (← takeWhile p n)
      else return []
    | none => return []

/-- The characters up to a single quote, which is passed over. -/
def readSingle : Reader (List Piece) := do
  let text := (← get).rest.takeWhile (· != '\'')
  if (← get).rest.length = text.length then fail .openQuotes
  modify fun c => { c with rest := c.rest.drop (text.length + 1), line := c.line + text.count '\n' }
  return text.map (Piece.char · true)

/-- The text up to a backquote, in which a backslash stands in front of backslashes, dollar signs and backquotes. -/
def readBackquoted (quoted : Bool) : Nat → Reader Octets
  | 0 => fail .tooDeep
  | n + 1 => do
    match ← peekJoined with
    | none => fail .openBackquote
    | some '\x60' =>
      skip
      return []
    | some '\\' =>
      skip
      match ← peek with
      | none => fail .openBackquote
      | some c =>
        skip
        let escaped := c = '\\' ∨ c = '\x60' ∨ c = '$' ∨ (quoted ∧ c = '"')
        let rest ← readBackquoted quoted n
        return if escaped then c :: rest else '\\' :: c :: rest
    | some c =>
      skip
      return c :: (← readBackquoted quoted n)

/-- The name of a parameter that is no name: a digit or a mark. -/
def isSpecial (c : Char) : Bool := c.isDigit || ['@', '*', '#', '?', '-', '$', '!'].contains c

/-- The name of the parameter at the start of what stands between braces, whether its length is asked for, and the text behind
it. There may be no name. -/
def cutName (s : Octets) : Option Octets × Bool × Octets :=
  let named (s : Octets) : Option Octets × Octets :=
    match s with
    | [] => (none, s)
    | c :: rest =>
      if startsName c then (some (s.takeWhile isNameChar), s.dropWhile isNameChar)
      else if c.isDigit then (some (s.takeWhile Char.isDigit), s.dropWhile Char.isDigit)
      else if isSpecial c then (some [c], rest)
      else (none, s)
  match s with
  | '#' :: c :: rest =>
    if isNameChar c then ((named (c :: rest)).1, true, (named (c :: rest)).2)
    else if c ≠ '\x7d' ∧ rest.head? = some '\x7d' ∧ isSpecial c then (some [c], true, rest)
    else (some ['#'], false, c :: rest)
  | _ => ((named s).1, false, (named s).2)

/-- The form that stands behind the name of a parameter, and the text behind it. -/
def cutForm : Octets → Form × Octets
  | ':' :: '-' :: rest => (.fallback true, rest)
  | ':' :: '=' :: rest => (.assigned true, rest)
  | ':' :: '?' :: rest => (.required true, rest)
  | ':' :: '+' :: rest => (.instead true, rest)
  | '-' :: rest => (.fallback false, rest)
  | '=' :: rest => (.assigned false, rest)
  | '?' :: rest => (.required false, rest)
  | '+' :: rest => (.instead false, rest)
  | '#' :: '#' :: rest => (.trimStart true, rest)
  | '#' :: rest => (.trimStart false, rest)
  | '%' :: '%' :: rest => (.trimEnd true, rest)
  | '%' :: rest => (.trimEnd false, rest)
  | s => if s.head? = some '\x7d' then (.value, s) else (.unknown, s)

/-- Whether the word of a form is a pattern, in which quotes count even between double quotes. -/
def isPatternForm : Form → Bool
  | .trimStart _ => true
  | .trimEnd _ => true
  | _ => false

/-- Starts a line of the document that is being read, if there is one. When its delimiter stands there, the document ends. -/
def startLine : Reader Unit := do
  match (← get).reading with
  | none => return ()
  | some r =>
    if !r.document.quoted then
      let _ ← peekJoined
    let c ← get
    let rest := if r.document.strip then c.rest.dropWhile (· == '\t') else c.rest
    let line := rest.takeWhile (· != '\n')
    set (if line = r.document.delimiter then
        { c with rest := rest.drop (line.length + 1), line := c.line + 1, reading := some { r with ended := true } }
      else { c with rest := rest })

/-- The next character, unless the document that is being read has ended. -/
def peekInside : Reader (Option Char) := do
  if (← get).reading.any Reading.ended then return none else peek

/-- The text of a document that is taken as it is. -/
def readVerbatim : Nat → Reader Octets
  | 0 => return []
  | n + 1 => do
    startLine
    if (← peekInside).isNone then return []
    let text := (← get).rest.take ((← get).rest.takeWhile (· != '\n')).length.succ
    modify fun c => { c with rest := c.rest.drop text.length, line := c.line + text.count '\n' }
    return text ++ (← readVerbatim n)

/-- The text of a word without its quotes. -/
def unquoted (w : Word) : Octets := w.filterMap fun p => match p with
  | .char c _ => some c
  | _ => none

/-- Whether any part of a word is quoted. -/
def isQuoted (w : Word) : Bool := w.any fun p => match p with
  | .char _ quoted => quoted
  | .quotes => true
  | _ => false

/-- The descriptor that an arrow leads elsewhere when none stands in front of it. -/
def usualDescriptor (input : Bool) : Nat := if input then 0 else 1

/-- Reads the rest of an arrow behind its first character. A document is asked for under a new number. -/
def readArrow (input : Bool) (descriptor : Option Nat) : Reader Token := do
  let n := descriptor.getD (usualDescriptor input)
  if ← accept '&' then return .redirection n .copy
  if ¬input then
    if ← accept '>' then return .redirection n .append
    return .redirection n (.write (← accept '|'))
  if ← accept '>' then return .redirection n .readWrite
  if ← accept '<' then
    let strip ← accept '-'
    let c ← get
    set { c with asked := c.asked + 1, awaited := c.awaited ++ [Awaited.mk c.asked [] false strip] }
    return .redirection n (.document c.asked)
  return .redirection n .read

/-- Passes over blanks and a comment. -/
def skipBlanks : Reader Unit := do
  let _ ← takeWhile (fun c => c == ' ' || c == '\t') (← get).rest.length
  if (← peek) = some '#' then modify fun c => { c with rest := c.rest.dropWhile (· != '\n') }

/-- Reads a mark, if there is one. -/
def readMark : Reader (Option Token) := do
  match ← peekJoined with
  | none => return some .ended
  | some '\n' =>
    skip
    return some .newline
  | some '&' =>
    skip
    return some (.sign (if ← accept '&' then "&&" else "&"))
  | some '|' =>
    skip
    return some (.sign (if ← accept '|' then "||" else "|"))
  | some ';' =>
    skip
    return some (.sign (if ← accept ';' then ";;" else ";"))
  | some '(' =>
    skip
    return some (.sign "(")
  | some ')' =>
    skip
    return some (.sign ")")
  | some _ => return none

/-- Runs a reader on another text. -/
def within {α : Type} (text : Octets) (reader : Reader α) : Reader α := do
  let outer ← get
  set { outer with rest := text, held := none, awaited := [], reading := none }
  let result ← reader
  modify fun c => { c with rest := outer.rest, held := outer.held, awaited := outer.awaited, reading := outer.reading }
  return result

end Reader

end TracePlayer.Host.Shell
