import TracePlayer.Host.Shell.Arithmetic
import TracePlayer.Host.Tree

/-!
# Tests

What `test` answers to its arguments: operators on texts, numbers and files, joined by `-a`, `-o` and `!`.
-/

namespace TracePlayer.Host.Shell

/-- Why a test has no answer. -/
inductive TestFault where
  | notNumber (text : Octets)
  | noArgument (operator : Octets)
  | unexpected (operator : Octets)
  | openParenthesis
  deriving DecidableEq, Repr

/-- The message of a fault. -/
def TestFault.message : TestFault → Octets
  | notNumber text => "Illegal number: ".toList ++ text
  | noArgument operator => operator ++ ": argument expected".toList
  | unexpected operator => operator ++ ": unexpected operator".toList
  | openParenthesis => "closing paren expected".toList

/-- A whole number in base ten, with white space at its ends. -/
def integer? (s : Octets) : Option Int := do
  let (negative, digits) := match s.dropWhile isSpace with
    | '-' :: rest => (true, rest)
    | '+' :: rest => (false, rest)
    | rest => (false, rest)
  let n ← (readDigits 10 digits).1
  let rest := (readDigits 10 digits).2
  let value : Int := if negative then -(n : Int) else n
  if rest.all isSpace ∧ Text.isSigned64 value then some value else none

/-- A whole number that is not negative and not too great for a status. -/
def natural? (s : Octets) : Option Nat := do
  let n ← integer? s
  if 0 ≤ n ∧ n < 2147483648 then some n.toNat else none

namespace Test

/-- The operators with one operand. -/
def unaryOperators : List String :=
  ["-r", "-w", "-x", "-e", "-f", "-d", "-c", "-b", "-p", "-u", "-g", "-k", "-s", "-t", "-z", "-n", "-h", "-O", "-G", "-L",
    "-S"]

/-- The operators with two operands. -/
def binaryOperators : List String :=
  ["=", "!=", "<", ">", "-eq", "-ne", "-ge", "-gt", "-le", "-lt", "-nt", "-ot", "-ef"]

/-- Whether an argument is one of these operators. -/
def isOneOf (operators : List String) (a : Octets) : Bool := operators.contains (String.ofList a)

/-- A token of a test. -/
inductive Token where
  | ended
  | operand
  | unary
  | binary
  | negation
  | conjunction
  | disjunction
  | opened
  | closed
  deriving DecidableEq, Repr

/-- What the first argument is, given those behind it. An operator that has nothing to work on is an operand. -/
def token : List Octets → Token
  | [] => .ended
  | a :: rest =>
    let isOperand := match rest with
      | [] => true
      | [_] => false
      | b :: _ => isOneOf binaryOperators b
    if isOneOf unaryOperators a then (if isOperand then .operand else .unary)
    else if isOneOf binaryOperators a then .binary
    else
      match String.ofList a with
      | "!" => .negation
      | "-a" => .conjunction
      | "-o" => .disjunction
      | "(" => if rest.isEmpty then .operand else .opened
      | ")" => .closed
      | _ => .operand

/-- What tests ask about. -/
structure Subject where
  tree : Tree
  /-- Whether a descriptor leads to a terminal. -/
  terminal : Nat → Bool

/-- An answer, and the arguments from the last one that was looked at on. -/
abbrev Answer := Except TestFault (Bool × List Octets)

/-- Whether a path leads to a link. -/
def isLink (path : Octets) : Bool := Tree.links.any (fun l => path == l.1.flatMap (fun name => '/' :: name.toList))

/-- The answer to a question about a file. -/
def ofFile (t : Tree) (operator : String) (path : Octets) : Bool :=
  match operator, t.find path with
  | "-h", _ => isLink path
  | "-L", _ => isLink path
  | _, .error _ => false
  | "-d", .ok .directory => true
  | "-x", .ok .directory => true
  | "-x", .ok (.program _) => true
  | "-f", .ok (.file _) => true
  | "-f", .ok (.program _) => true
  | "-s", .ok (.file contents) => !contents.isEmpty
  | "-s", .ok .void => false
  | "-c", .ok .void => true
  | operator, .ok _ => ["-e", "-r", "-w", "-s", "-O", "-G"].contains operator

/-- A number among the operands. -/
def number (a : Octets) : Except TestFault Int := (integer? a).elim (.error (.notNumber a)) .ok

/-- The answer to a question about two operands. -/
def ofPair (t : Tree) (a operator b : Octets) : Except TestFault Bool :=
  let numbers (f : Int → Int → Bool) : Except TestFault Bool := do
    let x ← number a
    return f x (← number b)
  match String.ofList operator with
  | "=" => .ok (a == b)
  | "!=" => .ok (a != b)
  | "<" => .ok (decide (a < b))
  | ">" => .ok (decide (b < a))
  | "-eq" => numbers (· == ·)
  | "-ne" => numbers (· != ·)
  | "-ge" => numbers (fun x y => decide (y ≤ x))
  | "-gt" => numbers (fun x y => decide (y < x))
  | "-le" => numbers (fun x y => decide (x ≤ y))
  | "-lt" => numbers (fun x y => decide (x < y))
  | "-ef" =>
    match t.walk a, t.walk b with
    | .ok x, .ok y => .ok (x.1 == y.1)
    | _, _ => .ok false
  | "-nt" => .ok ((t.find a).toBool && !(t.find b).toBool)
  | _ => .ok (!(t.find a).toBool && (t.find b).toBool)

/-- The answer of one question. -/
def ofSingle (s : Subject) (operator a : Octets) : Except TestFault Bool :=
  match String.ofList operator with
  | "-z" => .ok a.isEmpty
  | "-n" => .ok !a.isEmpty
  | "-t" => (number a).map (fun n => s.terminal n.toNat)
  | operator => .ok (ofFile s.tree operator a)

mutual

/-- Answers one question, which may stand between parentheses. -/
def primary (s : Subject) (fuel : Nat) (t : Token) (args : List Octets) : Answer :=
  match fuel, t, args with
  | _, .ended, _ => .ok (false, args)
  | fuel + 1, .opened, _ =>
    match token args.tail with
    | .closed => .ok (false, args.tail)
    | t => do
      let (answer, rest) ← disjunction s fuel t args.tail
      match token rest.tail with
      | .closed => return (answer, rest.tail)
      | _ => throw .openParenthesis
  | _, .unary, operator :: a :: rest => (ofSingle s operator a).map (·, a :: rest)
  | _, .unary, [operator] => .error (.noArgument operator)
  | _, _, a :: operator :: rest =>
    if token (operator :: rest) = .binary then
      match rest with
      | b :: rest => (ofPair s.tree a operator b).map (·, b :: rest)
      | [] => .error (.noArgument operator)
    else .ok (!a.isEmpty, args)
  | _, _, [a] => .ok (!a.isEmpty, args)
  | _, _, [] => .ok (false, [])

/-- Answers a question that may be turned around. -/
def negated (s : Subject) (fuel : Nat) (t : Token) (args : List Octets) : Answer :=
  match fuel, t with
  | fuel + 1, .negation => (negated s fuel (token args.tail) args.tail).map (fun a => (!a.1, a.2))
  | fuel, t => primary s fuel t args

/-- Answers questions that must all be answered with yes. -/
def conjunction (s : Subject) (fuel : Nat) (t : Token) (args : List Octets) : Answer :=
  match fuel with
  | 0 => .ok (false, args)
  | fuel + 1 => do
    let (a, rest) ← negated s fuel t args
    if token rest.tail = .conjunction then
      let rest := rest.tail.tail
      let (b, rest) ← conjunction s fuel (token rest) rest
      return (a && b, rest)
    else return (a, rest)

/-- Answers questions of which one must be answered with yes. -/
def disjunction (s : Subject) (fuel : Nat) (t : Token) (args : List Octets) : Answer :=
  match fuel with
  | 0 => .ok (false, args)
  | fuel + 1 => do
    let (a, rest) ← conjunction s fuel t args
    if token rest.tail = .disjunction then
      let rest := rest.tail.tail
      let (b, rest) ← disjunction s fuel (token rest) rest
      return (a || b, rest)
    else return (a, rest)

end

/-- Answers a test that starts with this token. -/
def start (s : Subject) (t : Token) (args : List Octets) : Except TestFault Bool := do
  let (answer, rest) ← disjunction s (4 * args.length + 8) t args
  match rest with
  | operator :: _ :: _ => throw (.unexpected operator)
  | _ => return answer

/-- The answer as it is, or turned around. -/
def turned (turns : Bool) (answer : Except TestFault Bool) : Except TestFault Bool := answer.map (· != turns)

/-- Answers a test. Three arguments with an operator in their middle ask about the two others. In front of three or four arguments an
exclamation mark turns the answer around, and a second one changes nothing. -/
def answer (s : Subject) (turns : Bool) : List Octets → Except TestFault Bool
  | [] => .ok false
  | [a, b, c] =>
    if isOneOf binaryOperators b then turned turns (start s .operand [a, b, c])
    else if a = ['('] ∧ c = [')'] then turned turns (start s (token [b]) [b])
    else if a = ['!'] then turned true (start s (token [b, c]) [b, c])
    else turned turns (start s (token [a, b, c]) [a, b, c])
  | [a, b, c, d] =>
    if a = ['('] ∧ d = [')'] then turned turns (start s (token [b, c]) [b, c])
    else if a = ['!'] then answer s true [b, c, d]
    else turned turns (start s (token [a, b, c, d]) [a, b, c, d])
  | args => turned turns (start s (token args) args)

end Test

end TracePlayer.Host.Shell
