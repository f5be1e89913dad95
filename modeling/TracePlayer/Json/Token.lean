import TracePlayer.Json.Basic
import TracePlayer.Text.Numeral

/-!
# JSON tokens

A text is read from left to right and the first problem met decides: the text ended, it is malformed, or what it holds is
not what the reader wants. Every reader takes the characters that are left and returns its result with the characters it
left.
-/

namespace TracePlayer.Json

/-- What was wrong where the reading of a JSON text stopped. -/
inductive Fault where
  /-- The text ended inside a value. -/
  | ended
  /-- The text is no JSON from here on, or nests too deep, or holds a number that is too large. -/
  | malformed
  /-- What stands here is JSON, but of another type, range or length than wanted, or an entry is missing or repeated. -/
  | mismatched
  deriving DecidableEq, Repr

/-- The result of reading: a value and the characters after it. -/
abbrev Reading (α : Type) := Except Fault (α × List Char)

/-- The text after white space. -/
def skipGap (s : List Char) : List Char :=
  s.dropWhile (fun c => c == ' ' || c == '\t' || c == '\n' || c == '\r')

/-- Reads the given characters. -/
def expect : List Char → List Char → Reading Unit
  | [], s => .ok ((), s)
  | _ :: _, [] => .error .ended
  | w :: word, c :: rest => if w = c then expect word rest else .error .malformed

/-! ## Strings -/

/-- The character that a one-letter escape stands for. -/
def shortEscape? (c : Char) : Option Char :=
  if c = '"' ∨ c = '\\' ∨ c = '/' then some c
  else if c = 'b' then some '\x08'
  else if c = 'f' then some '\x0c'
  else if c = 'n' then some '\n'
  else if c = 'r' then some '\r'
  else if c = 't' then some '\t'
  else none

/-- Whether four more bytes of UTF-8 follow, as every `\u` escape needs. -/
def holdsFourBytes (s : List Char) : Bool :=
  4 ≤ (s.take 4).foldl (fun n c => n + c.utf8Size) 0

/-- Where the reading of a string stands. -/
inductive Place where
  /-- Between characters. -/
  | plain
  /-- After a backslash. -/
  | escape
  /-- Inside a `\u` escape: the digits still to come, the value of those read, and the high surrogate that went before. -/
  | unit (left value : Nat) (high : Option Nat)
  /-- After a high surrogate, before the backslash of the low one. -/
  | pair (high : Nat)
  /-- After a high surrogate and a backslash. -/
  | pairEscape (high : Nat)
  deriving DecidableEq, Repr

/-- The place after a complete `\u` escape, with the character that it completes. A low surrogate must follow a high one, and
nothing else may. -/
def completeUnit (value : Nat) : Option Nat → Except Fault (Place × Option Char)
  | none =>
    if 0xDC00 ≤ value ∧ value ≤ 0xDFFF then .error .malformed
    else if 0xD800 ≤ value ∧ value ≤ 0xDBFF then .ok (.pair value, none)
    else .ok (.plain, some (Char.ofNat value))
  | some high =>
    if 0xDC00 ≤ value ∧ value ≤ 0xDFFF then
      .ok (.plain, some (Char.ofNat (0x10000 + (high - 0xD800) * 0x400 + (value - 0xDC00))))
    else .error .malformed

/-- Reads a string from the place given, whose opening quote has been read; `read` holds its characters so far, last first. -/
def readStringFrom (place : Place) (read : List Char) : List Char → Reading String
  | [] => .error .ended
  | c :: rest =>
    match place with
    | .plain =>
      if c = '"' then .ok (String.ofList read.reverse, rest)
      else if c = '\\' then readStringFrom .escape read rest
      else if c.toNat < 0x20 then .error .malformed
      else readStringFrom .plain (c :: read) rest
    | .escape =>
      if c = 'u' then
        if holdsFourBytes rest then readStringFrom (.unit 4 0 none) read rest else .error .ended
      else
        match shortEscape? c with
        | some e => readStringFrom .plain (e :: read) rest
        | none => .error .malformed
    | .unit left value high =>
      match Text.hexDigit? c with
      | none => .error .malformed
      | some d =>
        if left ≤ 1 then
          match completeUnit (16 * value + d) high with
          | .error fault => .error fault
          | .ok (next, some e) => readStringFrom next (e :: read) rest
          | .ok (next, none) => readStringFrom next read rest
        else
          readStringFrom (.unit (left - 1) (16 * value + d) high) read rest
    | .pair high => if c = '\\' then readStringFrom (.pairEscape high) read rest else .error .malformed
    | .pairEscape high =>
      if c = 'u' then
        if holdsFourBytes rest then readStringFrom (.unit 4 0 (some high)) read rest else .error .ended
      else .error .malformed

/-- Reads a string whose opening quote has been read. -/
def readString (s : List Char) : Reading String :=
  readStringFrom .plain [] s

/-- Passes over a string whose opening quote has been read. Its escapes must be well formed, but surrogates may stand alone. -/
def skipStringFrom (place : Place) : List Char → Reading Unit
  | [] => .error .ended
  | c :: rest =>
    match place with
    | .plain =>
      if c = '"' then .ok ((), rest)
      else if c = '\\' then skipStringFrom .escape rest
      else if c.toNat < 0x20 then .error .malformed
      else skipStringFrom .plain rest
    | .unit left _ _ =>
      if (Text.hexDigit? c).isNone then .error .malformed
      else if left ≤ 1 then skipStringFrom .plain rest
      else skipStringFrom (.unit (left - 1) 0 none) rest
    | _ =>
      if c = 'u' then
        if holdsFourBytes rest then skipStringFrom (.unit 4 0 none) rest else .error .ended
      else if (shortEscape? c).isNone then .error .malformed
      else skipStringFrom .plain rest

/-- Passes over a string whose opening quote has been read. -/
def skipString (s : List Char) : Reading Unit :=
  skipStringFrom .plain s

/-! ## Numbers -/

/-- The digits at the front of a text, and the text after them. -/
def spanDigits (s : List Char) : List Nat × List Char :=
  ((s.takeWhile (fun c => (Text.digit? c).isSome)).filterMap Text.digit?,
    s.dropWhile (fun c => (Text.digit? c).isSome))

/-- A significand of at most 64 bits: the number read so far and how many digits have been left out. Once a digit does
not fit, all later ones are left out too. -/
structure Significand where
  value : Nat
  leftOut : Nat

/-- Appends digits to a significand as long as they fit. -/
def Significand.append (m : Significand) (digits : List Nat) : Significand :=
  digits.foldl
    (fun m d =>
      if m.leftOut = 0 ∧ 10 * m.value + d < wordBound then ⟨10 * m.value + d, 0⟩ else ⟨m.value, m.leftOut + 1⟩)
    m

/-- A double from the parts of its numeral; one too large is malformed. -/
def finishDouble (negative : Bool) (significand : Nat) (exponent : Int) (rest : List Char) : Reading Number :=
  match Binary64.ofDecimal? negative significand exponent with
  | some x => .ok (.double x, rest)
  | none => .error .malformed

/-- Reads an exponent, whose letter has been read, and finishes the double that began with the significand and the power of
ten given. -/
def readExponent (negative : Bool) (significand : Nat) (exponent : Int) (s : List Char) : Reading Number :=
  let (down, s) := match s with
    | '+' :: rest => (false, rest)
    | '-' :: rest => (true, rest)
    | _ => (false, s)
  match spanDigits s with
  | ([], []) => .error .ended
  | ([], _ :: _) => .error .malformed
  | (digits, rest) =>
    let e : Nat := digits.foldl (fun n d => 10 * n + d) 0
    finishDouble negative significand (if down then exponent - (e : Int) else exponent + (e : Int)) rest

/-- Reads the fraction of a numeral, whose point has been read. The power of ten is that of the digits left out before it. -/
def readFraction (negative : Bool) (significand leftOut : Nat) (s : List Char) : Reading Number :=
  match spanDigits s with
  | ([], []) => .error .ended
  | ([], _ :: _) => .error .malformed
  | (digits, rest) =>
    let m := Significand.append ⟨significand, 0⟩ digits
    let exponent : Int := (leftOut : Int) - ((digits.length - m.leftOut : Nat) : Int)
    match rest with
    | 'e' :: rest => readExponent negative m.value exponent rest
    | 'E' :: rest => readExponent negative m.value exponent rest
    | _ => finishDouble negative m.value exponent rest

/-- Reads a numeral after its sign. A whole number that fits into 64 bits is an integer, but minus zero is a double. -/
def readMagnitude (negative : Bool) (s : List Char) : Reading Number :=
  match spanDigits s with
  | ([], []) => .error .ended
  | ([], _ :: _) => .error .malformed
  | (0 :: _ :: _, _) => .error .malformed
  | (digits, rest) =>
    let m := Significand.append ⟨0, 0⟩ digits
    match rest with
    | '.' :: rest => readFraction negative m.value m.leftOut rest
    | 'e' :: rest => readExponent negative m.value m.leftOut rest
    | 'E' :: rest => readExponent negative m.value m.leftOut rest
    | _ =>
      if m.leftOut ≠ 0 then finishDouble negative m.value m.leftOut rest
      else if !negative then .ok (.integer m.value, rest)
      else if 0 < m.value ∧ m.value ≤ signedBound then .ok (.integer (-(m.value : Int)), rest)
      else finishDouble negative m.value 0 rest

/-- Reads a number. -/
def readNumber : List Char → Reading Number
  | '-' :: rest => readMagnitude true rest
  | s => readMagnitude false s

/-- Passes over the digits that must stand here. -/
def skipDigits (s : List Char) : Reading Unit :=
  match spanDigits s with
  | ([], _) => .error .malformed
  | (_, rest) => .ok ((), rest)

/-- Passes over an exponent, if one stands here. -/
def skipExponent (s : List Char) : Reading Unit :=
  match s with
  | c :: rest =>
    if c = 'e' ∨ c = 'E' then
      match rest with
      | '+' :: rest => skipDigits rest
      | '-' :: rest => skipDigits rest
      | _ => skipDigits rest
    else .ok ((), s)
  | [] => .ok ((), s)

/-- Passes over a number, of any size. Where a digit is missing it is malformed, also at the end of the text. -/
def skipNumber (s : List Char) : Reading Unit :=
  let s := match s with
    | '-' :: rest => rest
    | _ => s
  match spanDigits s with
  | ([], _) => .error .malformed
  | (0 :: _ :: _, _) => .error .malformed
  | (_, '.' :: rest) => (skipDigits rest).bind (fun r => skipExponent r.2)
  | (_, rest) => skipExponent rest

end TracePlayer.Json
