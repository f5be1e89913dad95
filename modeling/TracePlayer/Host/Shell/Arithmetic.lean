import TracePlayer.Host.Shell.Syntax
import TracePlayer.Text.Numeral

/-!
# Arithmetic

Expressions over whole numbers of 64 bits, which wrap around. A name stands for the number that the value of its parameter is.
-/

namespace TracePlayer.Host.Shell

/-- What is wrong with an expression, or with what it is applied to. -/
inductive ArithmeticFault where
  /-- Something else is expected where the expression goes on. -/
  | expected (what : String)
  | divisionByZero
  | notNumber (text : Octets)
  deriving DecidableEq, Repr

/-- An operator between two operands. -/
inductive Operator where
  | times
  | divide
  | remainder
  | plus
  | minus
  | shiftLeft
  | shiftRight
  | less
  | lessEqual
  | greater
  | greaterEqual
  | equal
  | notEqual
  | bitAnd
  | bitXor
  | bitOr
  deriving DecidableEq, Repr

/-- An operator in front of its operand. -/
inductive SignOperator where
  | plus
  | minus
  | not
  | complement
  deriving DecidableEq, Repr

/-- An expression. -/
inductive Expression where
  | number (n : Int)
  | name (name : Octets)
  | sign (operator : SignOperator) (e : Expression)
  | binary (operator : Operator) (left right : Expression)
  | both (left right : Expression)
  | either (left right : Expression)
  | choice (test yes no : Expression)
  /-- Gives a parameter a value, which may be computed from its old one. -/
  | assign (name : Octets) (operator : Option Operator) (e : Expression)
  deriving Repr

/-- A number that wraps around at 64 bits. -/
def wrap (n : Int) : Int := Int.bmod n wordBound

/-- The number as it is kept in 64 bits without a sign. -/
def unsigned (n : Int) : Nat := (n % wordBound).toNat

/-! ## Numerals -/

/-- The value of a digit in a base of up to sixteen. -/
def digitIn? (base : Nat) (c : Char) : Option Nat :=
  let n := c.toLower.toNat
  let value := if '0' ≤ c ∧ c ≤ '9' then n - 48 else if 97 ≤ n ∧ n ≤ 102 then n - 87 else base
  if value < base then some value else none

/-- The number that the digits at the start of a text make, and the text behind them. -/
def readDigits (base : Nat) (s : Octets) : Option Nat × Octets :=
  let digits := s.takeWhile (fun c => (digitIn? base c).isSome)
  (if digits.isEmpty then none else some (digits.foldl (fun n c => base * n + (digitIn? base c).getD 0) 0),
    s.drop digits.length)

/-- The number at the start of a text, and the text behind it. A zero in front asks for base eight, and `0x` for base
sixteen. -/
def readBased : Octets → Option (Nat × Octets)
  | '0' :: x :: rest =>
    match (if x.toLower = 'x' then readDigits 16 rest else (none, [])) with
    | (some n, rest) => some (n, rest)
    | (none, _) => some (((readDigits 8 ('0' :: x :: rest)).1).getD 0, (readDigits 8 ('0' :: x :: rest)).2)
  | s => (readDigits 10 s).1.map (fun n => (n, (readDigits 10 s).2))

/-- Whether a character is white space. -/
def isSpace (c : Char) : Bool := c == ' ' || ('\t' ≤ c && c ≤ '\r')

/-- The number that the whole of a text is, white space at its ends aside; no text is zero. -/
def numberOf? (s : Octets) : Option Int :=
  let s := s.dropWhile isSpace
  let (negative, s) := match s with
    | '-' :: rest => (true, rest)
    | '+' :: rest => (false, rest)
    | _ => (false, s)
  if s.isEmpty then (if negative then none else some 0)
  else do
    let (n, rest) ← readBased s
    let value : Int := if negative then -(n : Int) else n
    if rest.all isSpace ∧ Text.isSigned64 value then some value else none

/-! ## Reading -/

/-- A token of an expression. -/
inductive ArithmeticToken where
  | number (n : Nat)
  | name (name : Octets)
  | mark (text : String)
  deriving DecidableEq, Repr

/-- The marks of expressions, longer ones before those that they start with. -/
def arithmeticMarks : List String :=
  ["<<=", ">>=", "&&", "||", "==", "!=", "<=", ">=", "<<", ">>", "+=", "-=", "*=", "/=", "%=", "&=", "^=", "|=", "+", "-",
    "*", "/", "%", "<", ">", "=", "!", "~", "&", "^", "|", "(", ")", "?", ":"]

/-- The tokens of an expression; a character that no token starts with is a mark of its own. -/
def arithmeticTokens : Nat → Octets → List ArithmeticToken
  | 0, _ => []
  | _, [] => []
  | n + 1, c :: rest =>
    if isSpace c then arithmeticTokens n rest
    else if startsName c then
      .name ((c :: rest).takeWhile isNameChar) :: arithmeticTokens n (rest.dropWhile isNameChar)
    else
      match (if c.isDigit then readBased (c :: rest) else none) with
      | some (number, rest) => .number number :: arithmeticTokens n rest
      | none =>
        match arithmeticMarks.find? (fun m => m.toList.isPrefixOf (c :: rest)) with
        | some m => .mark m :: arithmeticTokens n ((c :: rest).drop m.length)
        | none => .mark (String.ofList [c]) :: arithmeticTokens n rest

/-- The operator of a mark, and how strongly it binds: the lower the stronger. -/
def operator? (m : String) : Option (Operator × Nat) :=
  match m with
  | "*" => some (.times, 0)
  | "/" => some (.divide, 0)
  | "%" => some (.remainder, 0)
  | "+" => some (.plus, 1)
  | "-" => some (.minus, 1)
  | "<<" => some (.shiftLeft, 2)
  | ">>" => some (.shiftRight, 2)
  | "<" => some (.less, 3)
  | "<=" => some (.lessEqual, 3)
  | ">" => some (.greater, 3)
  | ">=" => some (.greaterEqual, 3)
  | "==" => some (.equal, 4)
  | "!=" => some (.notEqual, 4)
  | "&" => some (.bitAnd, 5)
  | "^" => some (.bitXor, 6)
  | "|" => some (.bitOr, 7)
  | _ => none

/-- The operator with which a mark gives a parameter a value, if the mark does. -/
def assignment? (m : String) : Option (Option Operator) :=
  match m with
  | "=" => some none
  | "*=" => some (some .times)
  | "/=" => some (some .divide)
  | "%=" => some (some .remainder)
  | "+=" => some (some .plus)
  | "-=" => some (some .minus)
  | "<<=" => some (some .shiftLeft)
  | ">>=" => some (some .shiftRight)
  | "&=" => some (some .bitAnd)
  | "^=" => some (some .bitXor)
  | "|=" => some (some .bitOr)
  | _ => none

/-- The operator that a mark is in front of an operand. -/
def signOperator? (m : String) : Option SignOperator :=
  match m with
  | "+" => some .plus
  | "-" => some .minus
  | "!" => some .not
  | "~" => some .complement
  | _ => none

/-- What has been read of an expression, and the tokens behind it. -/
abbrev ArithmeticReading := Except ArithmeticFault (Expression × List ArithmeticToken)

mutual

/-- Reads an operand. -/
def readOperand (fuel : Nat) (ts : List ArithmeticToken) : ArithmeticReading :=
  match fuel with
  | 0 => .error (.expected "primary")
  | fuel + 1 =>
    match ts with
    | .number n :: rest => .ok (.number (min n (signedBound - 1)), rest)
    | .name name :: rest => .ok (.name name, rest)
    | .mark "(" :: rest => do
      match ← readAssignment fuel rest with
      | (e, .mark ")" :: rest) => return (e, rest)
      | _ => throw (.expected "')'")
    | .mark m :: rest =>
      match signOperator? m with
      | some operator => do
        let (e, rest) ← readOperand fuel rest
        return (.sign operator e, rest)
      | none => .error (.expected "primary")
    | [] => .error (.expected "primary")

/-- Reads on behind an operand as long as operators bind at least so strongly. -/
def readOperators (fuel : Nat) (bound : Nat) (left : Expression) (ts : List ArithmeticToken) : ArithmeticReading :=
  match fuel with
  | 0 => .ok (left, ts)
  | fuel + 1 =>
    match ts with
    | .mark m :: rest =>
      match operator? m with
      | some (operator, strength) =>
        if strength ≤ bound then do
          let (right, rest) ← readOperand fuel rest
          let (right, rest) ← if strength = 0 then pure (right, rest) else readOperators fuel (strength - 1) right rest
          readOperators fuel bound (.binary operator left right) rest
        else .ok (left, ts)
      | none => .ok (left, ts)
    | _ => .ok (left, ts)

/-- Reads operands that must all hold. -/
def readBoth (fuel : Nat) (ts : List ArithmeticToken) : ArithmeticReading :=
  match fuel with
  | 0 => .error (.expected "primary")
  | fuel + 1 => do
    let (first, rest) ← readOperand fuel ts
    let (left, rest) ← readOperators fuel 7 first rest
    match rest with
    | .mark "&&" :: rest =>
      let (right, rest) ← readBoth fuel rest
      return (.both left right, rest)
    | _ => return (left, rest)

/-- Reads operands of which one must hold. -/
def readEither (fuel : Nat) (ts : List ArithmeticToken) : ArithmeticReading :=
  match fuel with
  | 0 => .error (.expected "primary")
  | fuel + 1 => do
    let (left, rest) ← readBoth fuel ts
    match rest with
    | .mark "||" :: rest =>
      let (right, rest) ← readEither fuel rest
      return (.either left right, rest)
    | _ => return (left, rest)

/-- Reads a choice between two operands. -/
def readChoice (fuel : Nat) (ts : List ArithmeticToken) : ArithmeticReading :=
  match fuel with
  | 0 => .error (.expected "primary")
  | fuel + 1 => do
    let (test, rest) ← readEither fuel ts
    match rest with
    | .mark "?" :: rest =>
      match ← readAssignment fuel rest with
      | (yes, .mark ":" :: rest) =>
        let (no, rest) ← readChoice fuel rest
        return (.choice test yes no, rest)
      | _ => throw (.expected "':'")
    | _ => return (test, rest)

/-- Reads an expression that may give a parameter a value. -/
def readAssignment (fuel : Nat) (ts : List ArithmeticToken) : ArithmeticReading :=
  match fuel with
  | 0 => .error (.expected "primary")
  | fuel + 1 =>
    match ts with
    | .name name :: .mark m :: rest =>
      match assignment? m with
      | some operator => do
        let (e, rest) ← readAssignment fuel rest
        return (.assign name operator e, rest)
      | none => readChoice fuel ts
    | _ => readChoice fuel ts

end

/-- Reads the whole of an expression. -/
def Expression.read (s : Octets) : Except ArithmeticFault Expression := do
  let tokens := arithmeticTokens s.length s
  match ← readAssignment (8 * tokens.length + 8) tokens with
  | (e, []) => return e
  | _ => throw (.expected "EOF")

/-! ## Values -/

/-- The number that stands for an answer. -/
def ofAnswer (b : Bool) : Int := if b then 1 else 0

/-- Combines bits. -/
def ofBits (f : Nat → Nat → Nat) (a b : Int) : Int := wrap (f (unsigned a) (unsigned b))

/-- Applies an operator. Shifts take their amount modulo the number of bits. -/
def Operator.apply (operator : Operator) (a b : Int) : Except ArithmeticFault Int :=
  match operator with
  | times => .ok (wrap (a * b))
  | divide => if b = 0 then .error .divisionByZero else .ok (wrap (Int.tdiv a b))
  | remainder => if b = 0 then .error .divisionByZero else .ok (Int.tmod a b)
  | plus => .ok (wrap (a + b))
  | minus => .ok (wrap (a - b))
  | shiftLeft => .ok (wrap (unsigned a <<< (unsigned b % 64)))
  | shiftRight => .ok (a >>> (unsigned b % 64))
  | less => .ok (ofAnswer (decide (a < b)))
  | lessEqual => .ok (ofAnswer (decide (a ≤ b)))
  | greater => .ok (ofAnswer (decide (b < a)))
  | greaterEqual => .ok (ofAnswer (decide (b ≤ a)))
  | equal => .ok (ofAnswer (a == b))
  | notEqual => .ok (ofAnswer (a != b))
  | bitAnd => .ok (ofBits Nat.land a b)
  | bitXor => .ok (ofBits Nat.xor a b)
  | bitOr => .ok (ofBits Nat.lor a b)

/-- Applies an operator that stands in front of its operand. -/
def SignOperator.apply (operator : SignOperator) (a : Int) : Int :=
  match operator with
  | plus => a
  | minus => wrap (-a)
  | not => ofAnswer (a == 0)
  | complement => -a - 1

/-- Evaluation of expressions: the state is what parameters have been given, the latest first. -/
abbrev Evaluation := StateT (List (Octets × Int)) (Except ArithmeticFault)

/-- The number that a name stands for, given the values that parameters had before. -/
def valueOf (value : Octets → Octets) (name : Octets) : Evaluation Int := do
  match (← get).find? (fun p => p.1 == name) with
  | some p => return p.2
  | none =>
    match numberOf? (value name) with
    | some n => return n
    | none => throw (.notNumber (value name))

/-- Evaluates an expression, given the values of parameters. What an answer does not depend on is not evaluated. -/
def Expression.eval (value : Octets → Octets) : Expression → Evaluation Int
  | .number n => return n
  | .name x => valueOf value x
  | .sign operator e => return operator.apply (← e.eval value)
  | .binary operator left right => do
    let a ← left.eval value
    let b ← right.eval value
    StateT.lift (operator.apply a b)
  | .both left right => do
    if (← left.eval value) = 0 then return 0
    else return ofAnswer ((← right.eval value) != 0)
  | .either left right => do
    if (← left.eval value) ≠ 0 then return 1
    else return ofAnswer ((← right.eval value) != 0)
  | .choice test yes no => do
    if (← test.eval value) ≠ 0 then yes.eval value
    else no.eval value
  | .assign x operator e => do
    let b ← e.eval value
    let n ← match operator with
      | none => pure b
      | some operator =>
        let a ← valueOf value x
        StateT.lift (operator.apply a b)
    modify fun given => (x, n) :: given
    return n

/-- The message of a fault in an expression. -/
def ArithmeticFault.message (expression : Octets) : ArithmeticFault → Octets
  | expected what => s!"arithmetic expression: expecting {what}: \"".toList ++ expression ++ ['"']
  | divisionByZero => "arithmetic expression: division by zero: \"".toList ++ expression ++ ['"']
  | notNumber text => "Illegal number: ".toList ++ text

end TracePlayer.Host.Shell
