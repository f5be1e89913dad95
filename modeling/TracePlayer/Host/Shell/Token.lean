import TracePlayer.Host.Shell.Syntax

/-!
# Tokens of a shell script

A script is read as tokens: words, marks between commands, line breaks and arrows. What can be wrong with it is a fault with a line.
-/

namespace TracePlayer.Host.Shell

/-- A token. -/
inductive Token where
  | ended
  | newline
  | redirection (descriptor : Nat) (arrow : Arrow)
  | word (w : Word)
  /-- A mark between commands, or a word with a meaning of its own. -/
  | sign (text : String)

/-- The name of a token in a message. -/
def Token.name : Token → String
  | ended => "end of file"
  | newline => "newline"
  | redirection .. => "redirection"
  | word _ => "word"
  | sign text => s!"\"{text}\""

/-- What is wrong with a script. -/
inductive SyntaxFault where
  | unexpected (found : String) (wanted : Option String)
  | openQuotes
  | openBrace
  | openArithmetic
  | openBackquote
  | badLoopVariable
  | badFunctionName
  | badDescriptor
  | tooDeep
  deriving DecidableEq, Repr

/-- The message of a fault. -/
def SyntaxFault.message : SyntaxFault → String
  | unexpected found none => s!"{found} unexpected"
  | unexpected found (some wanted) => s!"{found} unexpected (expecting {wanted})"
  | openQuotes => "Unterminated quoted string"
  | openBrace => "Missing '\x7d'"
  | openArithmetic => "Missing '))'"
  | openBackquote => "EOF in backquote substitution"
  | badLoopVariable => "Bad for loop variable"
  | badFunctionName => "Bad function name"
  | badDescriptor => "Bad fd number"
  | tooDeep => "Maximum depth exceeded"

/-- A document whose text has not been reached. -/
structure Awaited where
  number : Nat
  delimiter : Octets
  /-- Whether the text is taken as it is. -/
  quoted : Bool
  /-- Whether tabs at the start of lines are dropped. -/
  strip : Bool

/-- A document whose text is being read. -/
structure Reading where
  document : Awaited
  /-- Whether its delimiter has been reached. -/
  ended : Bool

/-- Where the reading of a script stands. -/
structure Cursor where
  rest : Octets
  line : Nat
  /-- A token that has been read and given back. -/
  held : Option Token
  awaited : List Awaited
  reading : Option Reading
  /-- The documents that have been read, by their numbers. -/
  documents : List (Nat × Word)
  /-- How many documents have been asked for. -/
  asked : Nat

/-- Readers of a script. What goes wrong goes wrong on a line. -/
abbrev Reader := StateT Cursor (Except (Nat × SyntaxFault))

/-- What encloses a piece of text. -/
inductive Enclosure where
  | bare
  | double
  | braces (quoted : Bool)
  | document
  /-- An arithmetic expression, in which so many parentheses are open. -/
  | arithmetic (parentheses : Nat)
  deriving DecidableEq, Repr

/-- Whether quotes take away the meaning of the characters there. -/
def Enclosure.isQuoted : Enclosure → Bool
  | bare => false
  | double => true
  | braces quoted => quoted
  | document => true
  | arithmetic _ => true

/-- The characters that keep their backslash away from what they would mean there. -/
def Enclosure.escapes : Enclosure → List Char
  | bare => []
  | double => ['$', '\x60', '"', '\\']
  | braces _ => ['$', '\x60', '"', '\\', '\x7d']
  | document => ['$', '\x60', '\\']
  | arithmetic _ => ['$', '\x60', '"', '\\']

/-- The characters that end a bare word. -/
def isWordEnd (c : Char) : Bool := [' ', '\t', '\n', ';', '&', '|', '<', '>', '(', ')'].contains c

/-- The words with a meaning of their own. -/
def keywords : List String :=
  ["!", "case", "do", "done", "elif", "else", "esac", "fi", "for", "if", "in", "then", "until", "while", "\x7b", "\x7d"]

/-- Whether a list of commands ends before a token. -/
def Token.isCloser : Token → Bool
  | ended => true
  | sign text => [")", ";;", "do", "done", "elif", "else", "esac", "fi", "then", "\x7d"].contains text
  | _ => false

/-- A word that has a meaning of its own as a token of its own. -/
def Token.asKeyword : Token → Token
  | word w =>
    match (Word.plain? w).map String.ofList with
    | some text => if keywords.contains text then sign text else word w
    | none => word w
  | t => t

/-- Whether a token is a mark or a word with a meaning of its own. -/
def Token.isSign (t : Token) (text : String) : Bool :=
  match t with
  | sign s => s == text
  | _ => false

/-- Built-in commands whose names no function can have. -/
def specialNames : List String :=
  [".", ":", "break", "continue", "eval", "exec", "exit", "export", "readonly", "return", "set", "shift", "times", "trap",
    "unset"]

end TracePlayer.Host.Shell
