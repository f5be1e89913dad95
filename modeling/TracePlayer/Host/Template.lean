import TracePlayer.Host.Shell.Arithmetic
import TracePlayer.Number.Places

/-!
# Printing with escapes and directives

`echo` prints its arguments, in which a backslash starts an escape. `printf` fills the directives of a format with its
arguments, and starts the format again as long as arguments are left. There are two of each, one inside the shell and one
outside; a `Dialect` says where they differ.
-/

namespace TracePlayer.Host

/-- What a kind of `printf` understands. -/
structure Dialect where
  /-- Whether bytes and characters may be given by hexadecimal digits. -/
  hexadecimal : Bool
  /-- Whether a format may end all printing. -/
  stopsInFormat : Bool
  /-- Whether a double quote needs no backslash. -/
  quoteEscape : Bool
  /-- Whether a directive may tell the size of its argument. -/
  sizes : Bool
  /-- Whether a directive with flags that mean nothing to it is refused. -/
  strict : Bool
  /-- How many bits the significand of a number has. -/
  bits : Nat
  /-- The least power of two that the significand is taken times. -/
  leastExponent : Int
  /-- The power of two that is too great for a number. -/
  bound : Nat

/-- The kind inside the shell. -/
def Dialect.inside : Dialect := ⟨false, false, false, false, false, 53, -1074, 1024⟩

/-- The kind outside the shell. -/
def Dialect.outside : Dialect := ⟨true, true, true, true, true, 64, -16445, 16384⟩

namespace Template

/-! ## Formats -/

/-- A width or a precision: written in the directive, or an argument. -/
inductive Extent where
  | fixed (n : Nat)
  | argument
  deriving DecidableEq, Repr

/-- A directive. -/
structure Directive where
  flags : List Char
  width : Extent
  precision : Option Extent
  conversion : Char
  deriving DecidableEq, Repr

/-- What goes wrong when something is printed. -/
inductive Fault where
  | notNumber (argument : Octets)
  /-- Only the start of an argument is a number. -/
  | partlyNumber (argument : Octets)
  | outOfRange (argument : Octets)
  /-- Characters behind the one that is asked for by its number. -/
  | surplus (rest : Octets)
  /-- Arguments that nothing asks for, given the first. -/
  | unasked (argument : Octets)
  | noConversion (directive : Octets)
  | badConversion (directive : Octets)
  | noDigits
  deriving DecidableEq, Repr

/-- Whether nothing can be printed after a fault. -/
def Fault.isFinal : Fault → Bool
  | noConversion _ => true
  | badConversion _ => true
  | noDigits => true
  | _ => false

/-- Whether a fault is only a warning. -/
def Fault.isWarning : Fault → Bool
  | surplus _ => true
  | unasked _ => true
  | _ => false

/-- An item of a format. -/
inductive Item where
  | octets (s : Octets)
  | directive (d : Directive)
  /-- The end of all printing. -/
  | stop
  | fault (f : Fault)
  deriving DecidableEq, Repr

/-- The character that an escape of one letter stands for. -/
def escape? (d : Dialect) : Char → Option Char
  | 'a' => some '\x07'
  | 'b' => some '\x08'
  | 'e' => some '\x1b'
  | 'f' => some '\x0c'
  | 'n' => some '\n'
  | 'r' => some '\r'
  | 't' => some '\t'
  | 'v' => some '\x0b'
  | '\\' => some '\\'
  | '"' => if d.quoteEscape then some '"' else none
  | _ => none

/-- The digits of a base at the start of a text, at most so many. -/
def digitsUpTo (base limit : Nat) (s : Octets) : Octets := (s.take limit).takeWhile (fun c => (Shell.digitIn? base c).isSome)

/-- The number that digits make. -/
def numberOf (base : Nat) (digits : Octets) : Nat := digits.foldl (fun n c => base * n + (Shell.digitIn? base c).getD 0) 0

/-- The octet of a number. -/
def octet (n : Nat) : Octets := [Char.ofNat (n % 256)]

/-- A character that is asked for by its number, in a place where only the characters of one byte can be written. -/
def numbered (letter : Char) (digits : Octets) : Octets :=
  let n := numberOf 16 digits
  if n < 128 then octet n
  else '\\' :: letter :: digits.map Char.toUpper

/-- Reads an escape behind its backslash: its item, and the text behind it. In an argument a zero may stand in front of octal
digits. -/
def readEscape (d : Dialect) (inFormat : Bool) (s : Octets) : Item × Octets :=
  match s with
  | [] => (.octets ['\\'], [])
  | c :: rest =>
    match escape? d c with
    | some e => (.octets [e], rest)
    | none =>
      if (Shell.digitIn? 8 c).isSome then
        let digits := if c = '0' ∧ ¬inFormat then c :: digitsUpTo 8 3 rest else digitsUpTo 8 3 s
        (.octets (octet (numberOf 8 digits)), s.drop digits.length)
      else if c = 'c' ∧ (d.stopsInFormat ∨ ¬inFormat) then (.stop, rest)
      else if d.hexadecimal ∧ c = 'x' then
        match digitsUpTo 16 2 rest with
        | [] => (.fault .noDigits, rest)
        | digits => (.octets (octet (numberOf 16 digits)), rest.drop digits.length)
      else if d.hexadecimal ∧ (c = 'u' ∨ c = 'U') then
        let length := if c = 'u' then 4 else 8
        let digits := digitsUpTo 16 length rest
        if digits.length < length then (.fault .noDigits, rest) else (.octets (numbered c digits), rest.drop length)
      else (.octets ['\\', c], rest)

/-- The letters of conversions that take a flag, a width or a precision. -/
def conversions : List Char := "diouxXcsfFeEgG".toList

/-- Whether a directive with these flags can have this conversion. -/
def allows (d : Dialect) (flags : List Char) (hasPrecision : Bool) (c : Char) : Bool :=
  !d.strict ||
    !((flags.contains '#' && ['c', 'd', 'i', 's', 'u'].contains c) || (flags.contains '0' && ['c', 's'].contains c) ||
      ((flags.contains '\'' || flags.contains 'I') && ['e', 'E', 'c', 'o', 's', 'x', 'X'].contains c) || (hasPrecision && c == 'c'))

/-- The flags of directives. -/
def flagChars (d : Dialect) : List Char := if d.strict then "-+ #0'I".toList else "-+ #0".toList

/-- Reads a width or a precision. -/
def readExtent (s : Octets) : Extent × Octets :=
  match s with
  | '*' :: rest => (.argument, rest)
  | _ => (.fixed (numberOf 10 (s.takeWhile Char.isDigit)), s.dropWhile Char.isDigit)

/-- Reads a directive behind its percent sign. -/
def readDirective (d : Dialect) (s : Octets) : Item × Octets :=
  let flags := s.takeWhile (flagChars d).contains
  let (width, rest) := readExtent (s.drop flags.length)
  let (precision, rest) := match rest with
    | '.' :: rest => (some (readExtent rest).1, (readExtent rest).2)
    | _ => (none, rest)
  let bare := rest.length == s.length
  let rest := if d.sizes ∧ ¬(bare ∧ rest.head? = some 'q') then rest.dropWhile "hlLqjtz".toList.contains else rest
  match rest with
  | [] => (.fault (.noConversion ('%' :: s)), [])
  | c :: rest' =>
    if (conversions.contains c && allows d flags precision.isSome c) || (c == 'b' && (!d.strict || bare)) ||
        (c == 'q' && d.strict && bare) then
      (.directive ⟨flags, width, precision, c⟩, rest')
    else (.fault (.badConversion ('%' :: s.take (s.length - rest'.length))), [])

/-- Reads a format, or an argument with escapes; every round reads a character. -/
def read (d : Dialect) (inFormat : Bool) : Nat → Octets → List Item
  | 0, _ => []
  | _, [] => []
  | n + 1, '\\' :: rest =>
    let (item, rest) := readEscape d inFormat rest
    item :: read d inFormat n rest
  | n + 1, '%' :: rest =>
    match inFormat, rest with
    | true, '%' :: rest => .octets ['%'] :: read d inFormat n rest
    | true, rest =>
      let (item, rest) := readDirective d rest
      item :: read d inFormat n rest
    | false, rest => .octets ['%'] :: read d inFormat n rest
  | n + 1, c :: rest => .octets [c] :: read d inFormat n rest

/-! ## Arguments -/

/-- A number that a directive prints. -/
inductive Quantity where
  | finite (negative : Bool) (num den : Nat)
  | infinite (negative : Bool)
  | notANumber
  deriving DecidableEq, Repr

/-- A sign, and the text behind it. -/
def cutSign (s : Octets) : Bool × Octets :=
  match s with
  | '-' :: rest => (true, rest)
  | '+' :: rest => (false, rest)
  | _ => (false, s)

/-- A whole number at the start of an argument, not bounded, and the text behind it; none when there is no number. -/
def readWhole (s : Octets) : Option (Int × Octets) :=
  let (negative, rest) := cutSign (s.dropWhile Shell.isSpace)
  (Shell.readBased rest).map (fun r => (if negative then -(r.1 : Int) else r.1, r.2))

/-- The digits of a number with a point, without the point, how many of them stand behind it, and the text behind them. -/
def readPointed (base : Nat) (s : Octets) : Octets × Nat × Octets :=
  let isDigit (c : Char) := (Shell.digitIn? base c).isSome
  let whole := s.takeWhile isDigit
  match s.drop whole.length with
  | '.' :: rest =>
    let places := rest.takeWhile isDigit
    if whole.isEmpty && places.isEmpty then ([], 0, s) else (whole ++ places, places.length, rest.drop places.length)
  | rest => (whole, 0, rest)

/-- The power that stands behind a mark, and the text behind it; no power when no digits follow. -/
def readPower (mark : Char) (s : Octets) : Int × Octets :=
  match s with
  | c :: rest =>
    let (negative, digits) := cutSign rest
    let power := digits.takeWhile Char.isDigit
    if c.toLower = mark ∧ power ≠ [] then
      let n : Int := numberOf 10 power
      (if negative then -n else n, digits.drop power.length)
    else (0, s)
  | [] => (0, s)

/-- A number at the start of an argument, and the text behind it; none when there is no number. -/
def readQuantity (s : Octets) : Option (Quantity × Octets) :=
  let (negative, rest) := cutSign (s.dropWhile Shell.isSpace)
  let lower := rest.map Char.toLower
  let scale (base : Nat) (digits : Octets) (power : Int) (factor : Nat) : Quantity :=
    let n := numberOf base digits
    if 0 ≤ power then .finite negative (n * Nat.pow factor power.toNat) 1 else .finite negative n (Nat.pow factor (-power).toNat)
  if "infinity".toList.isPrefixOf lower then some (.infinite negative, rest.drop 8)
  else if "inf".toList.isPrefixOf lower then some (.infinite negative, rest.drop 3)
  else if "nan".toList.isPrefixOf lower then some (.notANumber, rest.drop 3)
  else
    let (digits, places, behind) := readPointed 16 (rest.drop 2)
    if "0x".toList.isPrefixOf lower ∧ digits ≠ [] then
      let (power, behind) := readPower 'p' behind
      some (scale 16 digits (power - 4 * places) 2, behind)
    else
      let (digits, places, behind) := readPointed 10 rest
      if digits.isEmpty then none
      else
        let (power, behind) := readPower 'e' behind
        some (scale 10 digits (power - places) 10, behind)

/-! ## Printing -/

/-- What printing has come to. -/
structure Printed where
  output : Octets
  faults : List Fault
  /-- The arguments that have not been used. -/
  left : List Octets
  /-- Whether an argument was asked for. -/
  asked : Bool
  stopped : Bool
  deriving DecidableEq, Repr

namespace Printed

/-- Adds octets. -/
def push (p : Printed) (s : Octets) : Printed := { p with output := p.output ++ s }

/-- Notes a fault. -/
def note (p : Printed) (f : Fault) : Printed :=
  { p with faults := p.faults ++ [f], stopped := p.stopped || f.isFinal }

/-- The next argument, empty when there is none. -/
def next (p : Printed) : Octets × Printed := (p.left.headD [], { p with left := p.left.tail, asked := true })

/-- What comes of a number that was read from an argument: how far it was one is noted. -/
def judge {α : Type} (p : Printed) (argument : Octets) (none : α) (read : Option (α × Octets)) : α × Printed :=
  match read with
  | some (n, []) => (n, p)
  | some (n, _) => (n, p.note (.partlyNumber argument))
  | .none => (none, if argument.isEmpty then p else p.note (.notNumber argument))

/-- The number of the character behind a quote that starts an argument. -/
def quoted? (d : Dialect) (argument : Octets) : Option (Nat × List Fault) :=
  match argument with
  | '\'' :: c :: rest => some (c.toNat, if d.strict ∧ rest ≠ [] then [.surplus rest] else [])
  | '"' :: c :: rest => some (c.toNat, if d.strict ∧ rest ≠ [] then [.surplus rest] else [])
  | ['\''] => if d.strict then none else some (0, [])
  | ['"'] => if d.strict then none else some (0, [])
  | _ => none

/-- The next argument as a whole number between bounds. -/
def nextWhole (d : Dialect) (p : Printed) (least greatest : Int) : Int × Printed :=
  let (argument, p) := p.next
  match quoted? d argument with
  | some (n, faults) => (n, faults.foldl note p)
  | none =>
    let (n, p) := p.judge argument 0 (readWhole argument)
    if n < least then (least, p.note (.outOfRange argument))
    else if greatest < n then (greatest, p.note (.outOfRange argument))
    else (n, p)

/-- The next argument as a number with a sign. -/
def nextSigned (d : Dialect) (p : Printed) : Int × Printed := p.nextWhole d (-signedBound) (signedBound - 1)

/-- The next argument as a number without a sign; one below zero wraps around. -/
def nextUnsigned (d : Dialect) (p : Printed) : Nat × Printed :=
  let (n, p) := p.nextWhole d (-(wordBound - 1)) (wordBound - 1)
  (Shell.unsigned n, p)

/-- The next argument as a number, rounded to the bits that it can have. -/
def nextQuantity (d : Dialect) (p : Printed) : Quantity × Printed :=
  let (argument, p) := p.next
  match quoted? d argument with
  | some (n, faults) => (.finite false n 1, faults.foldl note p)
  | none =>
    match p.judge argument (.finite false 0 1) (readQuantity argument) with
    | (.finite negative num den, p) =>
      let (n, m) := Places.roundToBits d.bits d.leastExponent num den
      if n ≠ 0 ∧ (d.bound : Int) ≤ Binary64.floorLog2 n m then (.infinite negative, p.note (.outOfRange argument))
      else
        let tiny := num ≠ 0 ∧ (n = 0 ∨ Binary64.floorLog2 n m < d.leastExponent + d.bits - 1)
        (.finite negative n m, if tiny then p.note (.outOfRange argument) else p)
    | other => other

/-- How a text fills its place: at the left or at the right. -/
def fill (left : Bool) (width : Nat) (s : Octets) : Octets :=
  let gap := List.replicate (width - s.length) ' '
  if left then s ++ gap else gap ++ s

/-- A number in its place: zeros stand between its sign and its digits. -/
def fillNumber (flags : List Char) (left zeros : Bool) (width : Nat) (negative signed : Bool) (mark digits : Octets) : Octets :=
  let sign := if negative then ['-'] else if ¬signed then []
    else if flags.contains '+' then ['+'] else if flags.contains ' ' then [' '] else []
  let head := sign ++ mark
  let gap := if zeros ∧ ¬left then List.replicate (width - head.length - digits.length) '0' else []
  fill left width (head ++ gap ++ digits)

/-- The digits of a whole number, at least as many as the precision asks for. -/
def wholeDigits (base : Nat) (precision : Option Nat) (n : Nat) : Octets :=
  let digits := if n = 0 ∧ precision = some 0 then [] else Nat.toDigits base n
  List.replicate (precision.getD 0 - digits.length) '0' ++ digits

/-- Fills the place of a whole number without a sign. -/
def unsignedText (flags : List Char) (left : Bool) (width : Nat) (precision : Option Nat) (conversion : Char) (n : Nat) : Octets :=
  let zeros := flags.contains '0' && precision.isNone
  let marked := flags.contains '#'
  match conversion with
  | 'o' =>
    let digits := wholeDigits 8 precision n
    let digits := if marked ∧ digits.head? ≠ some '0' then '0' :: digits else digits
    fillNumber flags left zeros width false false [] digits
  | 'x' => fillNumber flags left zeros width false false (if marked ∧ n ≠ 0 then "0x".toList else []) (wholeDigits 16 precision n)
  | 'X' => fillNumber flags left zeros width false false (if marked ∧ n ≠ 0 then "0X".toList else [])
      ((wholeDigits 16 precision n).map Char.toUpper)
  | _ => fillNumber flags left zeros width false false [] (wholeDigits 10 precision n)

/-- Fills the place of a number. -/
def quantityText (flags : List Char) (left : Bool) (width : Nat) (precision : Option Nat) (conversion : Char) (q : Quantity) :
    Octets :=
  let upper := conversion.isUpper
  let cased (s : Octets) := if upper then s.map Char.toUpper else s
  match q with
  | .infinite negative => fillNumber flags left false width negative true [] (cased "inf".toList)
  | .notANumber => fillNumber flags left false width false true [] (cased "nan".toList)
  | .finite negative num den =>
    let marked := flags.contains '#'
    let places := precision.getD 6
    let digits := match conversion.toLower with
      | 'f' => Places.fixed marked places num den
      | 'e' => Places.scientific marked places num den
      | _ => Places.general marked places num den
    fillNumber flags left (flags.contains '0') width negative true [] (cased digits)

/-- The characters that need no quotes in a script. -/
def isPlainChar (c : Char) : Bool := c.isAlphanum || "%+,-./:@_]\x7b\x7d".toList.contains c

/-- A text as it can be written in a script. -/
def quotedText (s : Octets) : Octets :=
  if s ≠ [] ∧ s.all isPlainChar then s
  else if s.contains '\'' ∧ !s.any ("\"$\\\x60!".toList.contains ·) then '"' :: s ++ ['"']
  else '\'' :: s.flatMap (fun c => if c = '\'' then "'\\''".toList else [c]) ++ ['\'']

/-- Prints the items of an argument with escapes. -/
def plain : List Item → Octets × Bool
  | [] => ([], false)
  | .octets s :: rest => (s ++ (plain rest).1, (plain rest).2)
  | .stop :: _ => ([], true)
  | _ :: rest => plain rest

/-- A width or precision, taken from the arguments if it has to be. -/
def extent (d : Dialect) (p : Printed) : Extent → Int × Printed
  | .fixed n => (n, p)
  | .argument => p.nextSigned d

/-- Fills a directive. A width below zero asks for the left, and a precision below zero for none. -/
def directive (d : Dialect) (p : Printed) (x : Directive) : Printed :=
  let (width, p) := p.extent d x.width
  let (precision, p) := match x.precision with
    | none => (none, p)
    | some e =>
      let (n, p) := p.extent d e
      (if n < 0 then none else some n.toNat, p)
  let left := x.flags.contains '-' || width < 0
  let width := width.natAbs
  let clipped (s : Octets) := match precision with
    | some n => s.take n
    | none => s
  match x.conversion with
  | 's' => p.next.2.push (fill left width (clipped p.next.1))
  | 'q' => p.next.2.push (quotedText p.next.1)
  | 'b' =>
    let (argument, p) := p.next
    let items := read d false argument.length argument
    let (s, stopped) := plain items
    let p := p.push (fill left width (clipped s))
    { p with stopped := p.stopped || stopped }
  | 'c' => p.next.2.push (fill left width (if p.next.1.isEmpty then ['\x00'] else p.next.1.take 1))
  | c =>
    if c = 'd' ∨ c = 'i' then
      let (n, p) := p.nextSigned d
      let zeros := x.flags.contains '0' && precision.isNone
      p.push (fillNumber x.flags left zeros width (n < 0) true [] (wholeDigits 10 precision n.natAbs))
    else if ['o', 'u', 'x', 'X'].contains c then
      let (n, p) := p.nextUnsigned d
      p.push (unsignedText x.flags left width precision c n)
    else
      let (q, p) := p.nextQuantity d
      p.push (quantityText x.flags left width precision c q)

/-- Prints an item. -/
def item (d : Dialect) (p : Printed) (i : Item) : Printed :=
  if p.stopped then p
  else
    match i with
    | .octets s => p.push s
    | .directive x => p.directive d x
    | .stop => { p with stopped := true }
    | .fault f => p.note f

/-- Prints a format once, and again as long as it asks for arguments and some are left. -/
def rounds (d : Dialect) (items : List Item) : Nat → Printed → Printed
  | 0, p => p
  | n + 1, p =>
    let p := items.foldl (item d) { p with asked := false }
    if p.asked ∧ ¬p.stopped ∧ p.left ≠ [] then rounds d items n p else p

end Printed

/-- What `printf` prints. -/
def printf (d : Dialect) (format : Octets) (arguments : List Octets) : Printed :=
  let p := Printed.rounds d (read d true format.length format) (arguments.length + 1) ⟨[], [], arguments, false, false⟩
  match p.left with
  | a :: _ => if d.strict ∧ ¬p.stopped then p.note (.unasked a) else p
  | [] => p

/-- What `echo` prints inside the shell. Before anything else `-n` asks for no line feed at the end. -/
def echo (arguments : List Octets) : Octets :=
  let (quiet, arguments) := match arguments with
    | ['-', 'n'] :: rest => (true, rest)
    | _ => (false, arguments)
  let text := [' '].intercalate arguments
  let (s, stopped) := Printed.plain (read .inside false text.length text)
  if quiet ∨ stopped then s else s ++ ['\n']

/-- The message of a fault inside the shell. -/
def Fault.insideMessage : Fault → Octets
  | notNumber a => a ++ ": expected numeric value".toList
  | partlyNumber a => a ++ ": not completely converted".toList
  | outOfRange a => a ++ ": Numerical result out of range".toList
  | surplus _ => []
  | unasked _ => []
  | noConversion _ => "missing format character".toList
  | badConversion s => s ++ ": invalid directive".toList
  | noDigits => []

/-- A character between quotes, where only what can be seen stands for itself. -/
def shown (c : Char) : Octets :=
  let letters := [('\x07', 'a'), ('\x08', 'b'), ('\x0c', 'f'), ('\n', 'n'), ('\r', 'r'), ('\t', 't'), ('\x0b', 'v'),
    ('\\', '\\'), ('\'', '\'')]
  match letters.find? (fun l => l.1 == c) with
  | some l => ['\\', l.2]
  | none =>
    if 32 ≤ c.toNat ∧ c.toNat < 127 then [c]
    else '\\' :: (Nat.toDigits 8 c.toNat).leftpad 3 '0'

/-- An argument between quotes. -/
def inQuotes (a : Octets) : Octets := '\'' :: a.flatMap shown ++ ['\'']

/-- The message of a fault outside the shell. -/
def Fault.outsideMessage : Fault → Octets
  | notNumber a => inQuotes a ++ ": expected a numeric value".toList
  | partlyNumber a => inQuotes a ++ ": value not completely converted".toList
  | outOfRange a => inQuotes a ++ ": Numerical result out of range".toList
  | surplus s => "warning: ".toList ++ s ++ ": character(s) following character constant have been ignored".toList
  | unasked a => "warning: ignoring excess arguments, starting with ".toList ++ inQuotes a
  | noConversion s => s ++ ": invalid conversion specification".toList
  | badConversion s => s ++ ": invalid conversion specification".toList
  | noDigits => "missing hexadecimal number in escape".toList

end Template

end TracePlayer.Host
