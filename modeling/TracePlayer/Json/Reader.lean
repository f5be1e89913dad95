import TracePlayer.Json.Token

/-!
# Reading JSON values

Lists and objects nest at most `nestingLimit` deep, counting the outermost: the readers carry the number of levels that are
left and recur on it. The loops over items and entries recur on a number of rounds, for which the length of the whole text
is enough, since every round reads a character. A value that nobody asks for is passed over with no limit on its depth.
-/

namespace TracePlayer.Json

/-- The greatest number of lists and objects around a value, itself included. -/
def nestingLimit : Nat := 127

/-- The start of the next item of a list: `none` when the list is closed here instead. -/
def nextItem (first : Bool) (s : List Char) : Reading Bool :=
  match skipGap s with
  | [] => .error .ended
  | c :: rest =>
    if c = ']' then .ok (false, rest)
    else if first then .ok (true, c :: rest)
    else if c = ',' then
      match skipGap rest with
      | [] => .error .ended
      | d :: rest => if d = ']' then .error .malformed else .ok (true, d :: rest)
    else .error .malformed

/-- The start of the next key of an object, after its opening quote: `false` when the object is closed here instead. -/
def nextKey (first : Bool) (s : List Char) : Reading Bool :=
  match skipGap s with
  | [] => .error .ended
  | c :: rest =>
    if c = '\x7d' then .ok (false, rest)
    else if first then (if c = '"' then .ok (true, rest) else .error .malformed)
    else if c = ',' then
      match skipGap rest with
      | [] => .error .ended
      | d :: rest => if d = '"' then .ok (true, rest) else .error .malformed
    else .error .malformed

/-- Passes over the colon between a key and its value. -/
def skipColon (s : List Char) : Reading Unit :=
  match skipGap s with
  | [] => .error .ended
  | c :: rest => if c = ':' then .ok ((), rest) else .error .malformed

/-- Reads the items of a list, whose bracket has been read, and its closing bracket. -/
def readItems {α : Type} (item : List Char → Reading α) :
    Nat → Bool → List Char → Except Fault (List α × List Char)
  | 0, _, _ => .error .malformed
  | rounds + 1, first, s => do
    match ← nextItem first s with
    | (false, s) => return ([], s)
    | (true, s) =>
      let (v, s) ← item s
      let (vs, s) ← readItems item rounds false s
      return (v :: vs, s)

/-- Reads the entries of an object, whose brace has been read, and its closing brace. -/
def readEntries {κ α : Type} (key : List Char → Reading κ) (value : List Char → Reading α) :
    Nat → Bool → List Char → Except Fault (List (κ × α) × List Char)
  | 0, _, _ => .error .malformed
  | rounds + 1, first, s => do
    match ← nextKey first s with
    | (false, s) => return ([], s)
    | (true, s) =>
      let (k, s) ← key s
      let (_, s) ← skipColon s
      let (v, s) ← value s
      let (es, s) ← readEntries key value rounds false s
      return ((k, v) :: es, s)

/-- Reads a value that may hold `depth` levels of lists and objects. -/
def readValue (rounds : Nat) : Nat → List Char → Reading Json
  | depth, s =>
    match skipGap s with
    | [] => .error .ended
    | c :: rest =>
      if c = '"' then (readString rest).map (fun r => (.text r.1, r.2))
      else if c = '[' then
        match depth with
        | 0 => .error .malformed
        | depth + 1 => (readItems (readValue rounds depth) rounds true rest).map (fun r => (.list r.1, r.2))
      else if c = '\x7b' then
        match depth with
        | 0 => .error .malformed
        | depth + 1 =>
          (readEntries readString (readValue rounds depth) rounds true rest).map (fun r => (ofEntries r.1, r.2))
      else if c = 'n' then (expect ['u', 'l', 'l'] rest).map (fun r => (.null, r.2))
      else if c = 't' then (expect ['r', 'u', 'e'] rest).map (fun r => (.bool true, r.2))
      else if c = 'f' then (expect ['a', 'l', 's', 'e'] rest).map (fun r => (.bool false, r.2))
      else if c = '-' ∨ (Text.digit? c).isSome then (readNumber (c :: rest)).map (fun r => (.number r.1, r.2))
      else .error .malformed

/-- Passes over a value of any depth; `levels` is at least the number of characters left. -/
def skipValue (rounds : Nat) : Nat → List Char → Reading Unit
  | levels, s =>
    match skipGap s with
    | [] => .error .ended
    | c :: rest =>
      if c = '"' then skipString rest
      else if c = '[' then
        match levels with
        | 0 => .error .malformed
        | levels + 1 => (readItems (skipValue rounds levels) rounds true rest).map (fun r => ((), r.2))
      else if c = '\x7b' then
        match levels with
        | 0 => .error .malformed
        | levels + 1 =>
          (readEntries skipString (skipValue rounds levels) rounds true rest).map (fun r => ((), r.2))
      else if c = 'n' then expect ['u', 'l', 'l'] rest
      else if c = 't' then expect ['r', 'u', 'e'] rest
      else if c = 'f' then expect ['a', 'l', 's', 'e'] rest
      else if c = '-' ∨ (Text.digit? c).isSome then skipNumber (c :: rest)
      else .error .malformed

/-- Reads a whole text with a reader that is given enough rounds for it; only white space may follow the value. -/
def readAll {α : Type} (reader : Nat → List Char → Reading α) (s : List Char) : Except Fault α := do
  let (v, rest) ← reader (s.length + 1) s
  if (skipGap rest).isEmpty then return v else throw .malformed

/-- Reads a text that is one JSON value. -/
def parse (s : List Char) : Except Fault Json :=
  readAll (fun rounds => readValue rounds nestingLimit) s

end TracePlayer.Json
