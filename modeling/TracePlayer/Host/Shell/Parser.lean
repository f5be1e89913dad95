import TracePlayer.Host.Shell.Reader

/-!
# Reading scripts

A script is read one line of commands at a time, so that the commands before a fault can still be run.

The readers call each other in a circle. `fuel` bounds the depth of their calls; the length of the script is enough for it.
-/

namespace TracePlayer.Host.Shell

namespace Reader

/-- A list of commands may be a line of the script, or must not be empty, or may be. -/
inductive ListKind where
  | line
  | body
  | optional
  deriving DecidableEq, Repr

mutual

/-- Reads pieces up to the end of what encloses them. -/
def readPieces (fuel : Nat) (e : Enclosure) : Reader (List Piece) :=
  match fuel with
  | 0 => fail .tooDeep
  | fuel + 1 => do
    let more (pieces : List Piece) (e : Enclosure) : Reader (List Piece) := return pieces ++ (← readPieces fuel e)
    match ← peekInside with
    | none =>
      match e with
      | .bare => return []
      | .document => return []
      | .arithmetic _ => fail .openArithmetic
      | .braces false => fail .openBrace
      | _ => fail (if (← get).reading.isSome then .openBrace else .openQuotes)
    | some c =>
      if e = .bare ∧ isWordEnd c then return []
      skip
      if c = '\\' then
        match ← peek with
        | none => more [.char '\\' true] e
        | some '\n' =>
          skip
          more [] e
        | some d =>
          skip
          if e.isQuoted ∧ ¬e.escapes.contains d then more [.char '\\' true, .char d true] e
          else more [.char d true] e
      else if c = '$' then more (← readDollar fuel e) e
      else if c = '\x60' then
        let text ← readBackquoted e.isQuoted ((← get).rest.length + 1)
        let line := (← get).line
        modify fun c => { c with line := 1 }
        let script ← within text (readScript fuel)
        modify fun c => { c with line := line }
        more [.output e.isQuoted script] e
      else if c = '\'' ∧ ¬e.isQuoted then more (.quotes :: (← readSingle)) e
      else if c = '"' then
        match e with
        | .double => return []
        | .document => more [.char c true] e
        | .arithmetic _ => more [.char c true] e
        | .bare => more (quote (← readPieces fuel .double)) e
        | .braces _ => more (quote (← readPieces fuel .double)) e
      else
        match e, c with
        | .braces _, '\x7d' => return []
        | .arithmetic n, '(' => more [.char c true] (.arithmetic (n + 1))
        | .arithmetic 0, ')' => if ← accept ')' then return [] else more [.char c true] e
        | .arithmetic (n + 1), ')' => more [.char c true] (.arithmetic n)
        | _, _ =>
          if c = '\n' then startLine
          more [.char c e.isQuoted] e
where
  /-- What stands between double quotes. All the arguments alone may be none, and then make no word of nothing. -/
  quote (inner : List Piece) : List Piece :=
    match inner with
    | [.parameter _ ['@'] .value _] => inner
    | _ => .quotes :: inner

/-- Reads what stands behind a dollar sign. -/
def readDollar (fuel : Nat) (e : Enclosure) : Reader (List Piece) :=
  match fuel with
  | 0 => fail .tooDeep
  | fuel + 1 => do
    match ← peekJoined with
    | some '(' =>
      skip
      if ← accept '(' then return [.arithmetic e.isQuoted (← readPieces fuel (.arithmetic 0))]
      else
        let outer ← get
        set { outer with held := none, awaited := [], reading := none }
        let script ← readScript fuel
        match ← readToken fuel false false with
        | .sign ")" => pure ()
        | t => unexpected t "\")\""
        readDocuments fuel
        modify fun c => { c with held := outer.held, awaited := outer.awaited, reading := outer.reading }
        return [.output e.isQuoted script]
    | some '\x7b' =>
      skip
      let (name, length, rest) := cutName (dropJoins (← get).rest).1
      let (form, rest) := if length then
          if rest.head? = some '\x7d' then (Form.length, rest) else (Form.unknown, rest)
        else if name.isSome then cutForm rest
        else (Form.unknown, rest)
      modify fun c => { c with rest := rest }
      let word ← readPieces fuel (.braces (e.isQuoted && !isPatternForm form))
      return [.parameter e.isQuoted (name.getD []) form word]
    | some c =>
      if startsName c then
        return [.parameter e.isQuoted (← takeWhile isNameChar (← get).rest.length) .value []]
      else if isSpecial c then
        skip
        return [.parameter e.isQuoted [c] .value []]
      else return [.char '$' e.isQuoted]
    | none => return [.char '$' e.isQuoted]

/-- Reads a token as it stands. -/
def readRaw (fuel : Nat) : Reader Token :=
  match fuel with
  | 0 => fail .tooDeep
  | fuel + 1 => do
    match (← get).held with
    | some t =>
      modify fun c => { c with held := none }
      return t
    | none =>
      skipBlanks
      match ← readMark with
      | some t => return t
      | none =>
        let w ← readPieces fuel .bare
        match ← peek with
        | some c =>
          if c = '<' ∨ c = '>' then
            match Word.plain? w with
            | some [] =>
              skip
              readArrow (c == '<') none
            | some [d] =>
              if d.isDigit then
                skip
                readArrow (c == '<') (some (d.toNat - '0'.toNat))
              else return .word w
            | _ => return .word w
          else return .word w
        | none => return .word w

/-- Reads a token: behind line breaks, if these mean nothing here, and with a meaning of its own, if it can have one here. -/
def readToken (fuel : Nat) (breaks keys : Bool) : Reader Token :=
  match fuel with
  | 0 => fail .tooDeep
  | fuel + 1 => do
    let t ← readRaw fuel
    match t with
    | .newline =>
      if breaks then
        readDocuments fuel
        readToken fuel breaks keys
      else return t
    | t => return if keys then t.asKeyword else t

/-- Reads the documents that are awaited. -/
def readDocuments (fuel : Nat) : Reader Unit :=
  match fuel with
  | 0 => fail .tooDeep
  | fuel + 1 => do
    for a in (← get).awaited do
      modify fun c => { c with reading := some ⟨a, false⟩ }
      let word ← if a.quoted then
          pure ((← readVerbatim (← get).rest.length.succ).map (Piece.char · true))
        else do
          startLine
          readPieces fuel .document
      modify fun c => { c with reading := none, documents := c.documents ++ [(a.number, word)] }
    modify fun c => { c with awaited := [] }

/-- Reads a script that may be empty, up to the end of what encloses it. -/
def readScript (fuel : Nat) : Reader Script :=
  match fuel with
  | 0 => fail .tooDeep
  | fuel + 1 => return (← readList fuel .optional none).getD .nothing

/-- Reads a list of commands behind those that have been read. -/
def readList (fuel : Nat) (kind : ListKind) (before : Option Script) : Reader (Option Script) :=
  match fuel with
  | 0 => fail .tooDeep
  | fuel + 1 => do
    let t ← readToken fuel (kind != .line) true
    match t with
    | .newline =>
      readDocuments fuel
      return before
    | .ended =>
      readDocuments fuel
      hold .ended
      return before
    | _ =>
      hold t
      if t.isCloser ∧ (kind = .optional ∨ (kind = .body ∧ before.isSome)) then return before
      let command ← readAndOr fuel
      let t ← readToken fuel false false
      let command := if t.isSign "&" then .background command else command
      let all := match before with
        | none => command
        | some before => before.followedBy command
      match t with
      | .newline =>
        hold t
        readList fuel kind (some all)
      | .ended =>
        hold t
        readList fuel kind (some all)
      | .sign "&" => readList fuel kind (some all)
      | .sign ";" => readList fuel kind (some all)
      | _ =>
        if kind = .line then unexpected t none
        hold t
        return some all

/-- Reads a body that must not be empty. -/
def readBody (fuel : Nat) : Reader Script :=
  match fuel with
  | 0 => fail .tooDeep
  | fuel + 1 => return (← readList fuel .body none).getD .nothing

/-- Reads commands that depend on how the one before ended. -/
def readAndOr (fuel : Nat) : Reader Script :=
  match fuel with
  | 0 => fail .tooDeep
  | fuel + 1 => do readMore fuel (← readPipeline fuel)

/-- Reads on behind a command on which others may depend. -/
def readMore (fuel : Nat) (first : Script) : Reader Script :=
  match fuel with
  | 0 => fail .tooDeep
  | fuel + 1 => do
    match ← readToken fuel false false with
    | .sign "&&" => readMore fuel (.both first (← readPipelineBelow fuel))
    | .sign "||" => readMore fuel (.either first (← readPipelineBelow fuel))
    | t =>
      hold t
      return first

/-- Reads a pipeline that may start on a line below. -/
def readPipelineBelow (fuel : Nat) : Reader Script :=
  match fuel with
  | 0 => fail .tooDeep
  | fuel + 1 => do
    hold (← readToken fuel true true)
    readPipeline fuel

/-- Reads commands of which each reads what the one before prints. -/
def readPipeline (fuel : Nat) : Reader Script :=
  match fuel with
  | 0 => fail .tooDeep
  | fuel + 1 => do
    let t ← readToken fuel false false
    let negated := t.isSign "!"
    hold (← if negated then readToken fuel false true else pure t)
    let commands ← readCommands fuel
    let pipeline := match commands with
      | [command] => command
      | _ => .pipeline commands
    return if negated then .negation pipeline else pipeline

/-- Reads commands between pipe marks. -/
def readCommands (fuel : Nat) : Reader (List Script) :=
  match fuel with
  | 0 => fail .tooDeep
  | fuel + 1 => do
    let first ← readCommand fuel
    match ← readToken fuel false false with
    | .sign "|" =>
      hold (← readToken fuel true true)
      return first :: (← readCommands fuel)
    | t =>
      hold t
      return [first]

/-- Reads a token that must be there. -/
def expect (fuel : Nat) (keys : Bool) (text : String) : Reader Unit :=
  match fuel with
  | 0 => fail .tooDeep
  | fuel + 1 => do
    let t ← readToken fuel false keys
    if t.isSign text then return ()
    else unexpected t (some s!"\"{text}\"")

/-- Reads one command. -/
def readCommand (fuel : Nat) : Reader Script :=
  match fuel with
  | 0 => fail .tooDeep
  | fuel + 1 => do
    let line := (← get).line
    match ← readToken fuel false false with
    | .sign "if" => readRedirected fuel line (← readChoice fuel)
    | .sign "while" => readRedirected fuel line (← readLoop fuel true)
    | .sign "until" => readRedirected fuel line (← readLoop fuel false)
    | .sign "for" => readRedirected fuel line (← readEach fuel line)
    | .sign "case" => readRedirected fuel line (← readSelect fuel line)
    | .sign "(" =>
      let body ← readBody fuel
      expect fuel true ")"
      return .subshell line body (← readRedirections fuel)
    | .sign "\x7b" =>
      let body ← readBody fuel
      expect fuel true "\x7d"
      readRedirected fuel line body
    | .word w =>
      hold (.word w)
      readSimple fuel line true [] [] []
    | .redirection n arrow =>
      hold (.redirection n arrow)
      readSimple fuel line true [] [] []
    | t => unexpected t none

/-- Reads the redirections behind a command. -/
def readRedirected (fuel : Nat) (line : Nat) (body : Script) : Reader Script :=
  match fuel with
  | 0 => fail .tooDeep
  | fuel + 1 => do
    match ← readRedirections fuel with
    | [] => return body
    | redirections => return .redirected line body redirections

/-- Reads redirections as long as there are any. -/
def readRedirections (fuel : Nat) : Reader (List Redirection) :=
  match fuel with
  | 0 => fail .tooDeep
  | fuel + 1 => do
    match ← readToken fuel false true with
    | .redirection n arrow =>
      let first ← readTarget fuel n arrow
      return first :: (← readRedirections fuel)
    | t =>
      hold t
      return []

/-- Reads where an arrow leads. -/
def readTarget (fuel : Nat) (n : Nat) (arrow : Arrow) : Reader Redirection :=
  match fuel with
  | 0 => fail .tooDeep
  | fuel + 1 => do
    match ← readToken fuel false false with
    | .word w =>
      match arrow with
      | .document number =>
        modify fun c => { c with awaited := c.awaited.map fun a =>
          if a.number = number then { a with delimiter := unquoted w, quoted := isQuoted w } else a }
      | _ => pure ()
      return .lead n arrow w
    | t => unexpected t none

/-- Reads a command of words, given what has been read of it. Words in front may still give parameters values. -/
def readSimple (fuel : Nat) (line : Nat) (leading : Bool) (settings : List (Octets × Word)) (words : List Word)
    (redirections : List Redirection) : Reader Script :=
  match fuel with
  | 0 => fail .tooDeep
  | fuel + 1 => do
    match ← readToken fuel false false with
    | .word w =>
      match leading, Word.setting? w with
      | true, some s => readSimple fuel line true (settings ++ [s]) words redirections
      | _, _ => readSimple fuel line false settings (words ++ [w]) redirections
    | .redirection n arrow =>
      let r ← readTarget fuel n arrow
      readSimple fuel line leading settings words (redirections ++ [r])
    | .sign "(" =>
      match settings, words, redirections with
      | [], [w], [] =>
        expect fuel false ")"
        let name := (Word.plain? w).getD []
        if ¬isName name ∨ specialNames.contains (String.ofList name) then fail .badFunctionName
        hold (← readToken fuel true true)
        return .define name (← readCommand fuel)
      | _, _, _ =>
        hold (.sign "(")
        return .command line settings words redirections
    | t =>
      hold t
      return .command line settings words redirections

/-- Reads a choice behind its first word. -/
def readChoice (fuel : Nat) : Reader Script :=
  match fuel with
  | 0 => fail .tooDeep
  | fuel + 1 => do
    let test ← readBody fuel
    expect fuel true "then"
    let yes ← readBody fuel
    match ← readToken fuel false true with
    | .sign "elif" => return .choice test yes (← readChoice fuel)
    | .sign "else" =>
      let no ← readBody fuel
      expect fuel true "fi"
      return .choice test yes no
    | t =>
      hold t
      expect fuel true "fi"
      return .choice test yes .nothing

/-- Reads a loop behind its first word. -/
def readLoop (fuel : Nat) (wanted : Bool) : Reader Script :=
  match fuel with
  | 0 => fail .tooDeep
  | fuel + 1 => do
    let test ← readBody fuel
    expect fuel true "do"
    let body ← readBody fuel
    expect fuel true "done"
    return .loop wanted test body

/-- Reads a loop over words behind its first word. -/
def readEach (fuel : Nat) (line : Nat) : Reader Script :=
  match fuel with
  | 0 => fail .tooDeep
  | fuel + 1 => do
    let name ← match ← readToken fuel false false with
      | .word w =>
        match Word.plain? w with
        | some name => if isName name then pure name else fail .badLoopVariable
        | none => fail .badLoopVariable
      | _ => fail .badLoopVariable
    let words ← match ← readToken fuel true true with
      | .sign "in" => readWords fuel
      | .sign ";" => pure [[.parameter true ['@'] .value []]]
      | t =>
        hold t
        pure [[.parameter true ['@'] .value []]]
    let t ← readToken fuel true true
    if ¬t.isSign "do" then unexpected t "\"do\""
    let body ← readBody fuel
    expect fuel true "done"
    return .each line name words body

/-- Reads words up to the end of a line or a semicolon. -/
def readWords (fuel : Nat) : Reader (List Word) :=
  match fuel with
  | 0 => fail .tooDeep
  | fuel + 1 => do
    match ← readToken fuel false false with
    | .word w => return w :: (← readWords fuel)
    | .newline => return []
    | .sign ";" => return []
    | t => unexpected t none

/-- Reads a selection behind its first word. -/
def readSelect (fuel : Nat) (line : Nat) : Reader Script :=
  match fuel with
  | 0 => fail .tooDeep
  | fuel + 1 => do
    match ← readToken fuel false false with
    | .word w =>
      let t ← readToken fuel true true
      if ¬t.isSign "in" then unexpected t "\"in\""
      return .select line w (← readArms fuel)
    | t => unexpected t "word"

/-- Reads the arms of a selection. -/
def readArms (fuel : Nat) : Reader (List (List Word × Script)) :=
  match fuel with
  | 0 => fail .tooDeep
  | fuel + 1 => do
    match ← readToken fuel true true with
    | .sign "esac" => return []
    | t =>
      if ¬t.isSign "(" then hold t
      let patterns ← readPatterns fuel
      let body ← readScript fuel
      match ← readToken fuel true true with
      | .sign "esac" => return [(patterns, body)]
      | .sign ";;" => return (patterns, body) :: (← readArms fuel)
      | t => unexpected t "\";;\""

/-- Reads the patterns of an arm up to the parenthesis behind them. -/
def readPatterns (fuel : Nat) : Reader (List Word) :=
  match fuel with
  | 0 => fail .tooDeep
  | fuel + 1 => do
    let pattern := match ← readToken fuel false false with
      | .word w => w
      | .sign text => text.toList.map (Piece.char · false)
      | _ => []
    match ← readToken fuel false false with
    | .sign "|" => return pattern :: (← readPatterns fuel)
    | .sign ")" => return [pattern]
    | t => unexpected t "\")\""

end

/-- The depth that is enough to read a text. -/
def fuelFor (text : Octets) : Nat := 8 * text.length + 64

end Reader

/-- The word that a text stands for, all of it as if it were quoted. -/
def quotedWord? (text : Octets) : Option Word :=
  match (Reader.readPieces (Reader.fuelFor text) .document).run ⟨text, 1, none, [], none, [], 0⟩ with
  | .ok (w, _) => some w
  | .error _ => none

/-- A script that is being read. -/
structure Source where
  rest : Octets
  line : Nat

/-- The next line of commands of a script, its documents numbered from `asked` on, and the rest. There is none at the end. -/
def Source.next (s : Source) (asked : Nat) : Except (Nat × SyntaxFault) (Option (Script × List (Nat × Word) × Source)) :=
  let start : Cursor := ⟨s.rest, s.line, none, [], none, [], asked⟩
  match (Reader.readList (Reader.fuelFor s.rest) .line none).run start with
  | .error fault => .error fault
  | .ok (some script, c) => .ok (some (script, c.documents, ⟨c.rest, c.line⟩))
  | .ok (none, c) =>
    match c.held with
    | some _ => .ok none
    | none => .ok (some (.nothing, c.documents, ⟨c.rest, c.line⟩))

end TracePlayer.Host.Shell
