import TracePlayer.Host.Octets

/-!
# Shell scripts

The commands that a script is made of, and the words that commands are made of.
-/

namespace TracePlayer.Host.Shell

/-- What is made of the value of a parameter. A colon lets an empty value count as none. -/
inductive Form where
  | value
  | length
  /-- The word, when there is no value. -/
  | fallback (colon : Bool)
  /-- The word, when there is no value; then it becomes the value. -/
  | assigned (colon : Bool)
  /-- A fault, when there is no value. -/
  | required (colon : Bool)
  /-- The word, when there is a value. -/
  | instead (colon : Bool)
  /-- The value without what the word matches at its start. -/
  | trimStart (longest : Bool)
  /-- The value without what the word matches at its end. -/
  | trimEnd (longest : Bool)
  /-- No known form. -/
  | unknown
  deriving DecidableEq, Repr

/-- How a descriptor is led elsewhere. -/
inductive Arrow where
  | read
  /-- To a file, which may be full when that is insisted on. -/
  | write (insists : Bool)
  | append
  | readWrite
  /-- To where another descriptor leads. -/
  | copy
  /-- To the text of the document with this number. -/
  | document (number : Nat)
  deriving DecidableEq, Repr

mutual

/-- A piece of a word. -/
inductive Piece where
  | char (c : Char) (quoted : Bool)
  /-- A pair of quotes, which makes a word even of nothing. -/
  | quotes
  | parameter (quoted : Bool) (name : Octets) (form : Form) (word : List Piece)
  /-- What a script prints. -/
  | output (quoted : Bool) (script : Script)
  /-- The value of an arithmetic expression. -/
  | arithmetic (quoted : Bool) (expression : List Piece)

/-- A redirection of a descriptor. -/
inductive Redirection where
  | lead (descriptor : Nat) (arrow : Arrow) (word : List Piece)

/-- A script. Commands that report faults know their line. -/
inductive Script where
  | nothing
  | command (line : Nat) (settings : List (Octets × List Piece)) (words : List (List Piece))
    (redirections : List Redirection)
  /-- Commands one after the other. -/
  | sequence (commands : List Script)
  /-- A command that is not waited for. -/
  | background (body : Script)
  | both (first second : Script)
  | either (first second : Script)
  | negation (body : Script)
  /-- Commands of which each reads what the one before prints. -/
  | pipeline (commands : List Script)
  | choice (test yes no : Script)
  /-- A loop that runs as long as its test has the wanted answer. -/
  | loop (wanted : Bool) (test body : Script)
  | each (line : Nat) (name : Octets) (words : List (List Piece)) (body : Script)
  /-- The first body of which a pattern matches the word. -/
  | select (line : Nat) (word : List Piece) (arms : List (List (List Piece) × Script))
  /-- A script in a shell of its own. -/
  | subshell (line : Nat) (body : Script) (redirections : List Redirection)
  | redirected (line : Nat) (body : Script) (redirections : List Redirection)
  | define (name : Octets) (body : Script)

end

/-- A script with a command behind it. -/
def Script.followedBy : Script → Script → Script
  | .sequence commands, last => .sequence (commands ++ [last])
  | first, last => .sequence [first, last]

/-- A word, before anything in it is replaced. -/
abbrev Word := List Piece

/-- The character that a piece stands for, when it is not quoted. -/
def Piece.bare? : Piece → Option Char
  | .char c false => some c
  | _ => none

/-- The text of a word without quotes and without anything to be replaced. -/
def Word.plain? (w : Word) : Option Octets := w.mapM Piece.bare?

/-- Whether a character can start a name. -/
def startsName (c : Char) : Bool := c.isAlpha || c == '_'

/-- Whether a character can be part of a name. -/
def isNameChar (c : Char) : Bool := c.isAlphanum || c == '_'

/-- Whether a text is a name. -/
def isName : Octets → Bool
  | [] => false
  | c :: rest => startsName c && rest.all isNameChar

/-- The name and the value of a word that gives a parameter a value. -/
def Word.setting? (w : Word) : Option (Octets × Word) :=
  let letters := (w.takeWhile (fun p => p.bare?.any isNameChar)).filterMap Piece.bare?
  match w.drop letters.length with
  | .char '=' false :: value => if isName letters then some (letters, value) else none
  | _ => none

end TracePlayer.Host.Shell
