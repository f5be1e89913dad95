import TracePlayer.Json.Reader

/-!
# Reading JSON into typed records

A record is written as an object, whose unknown keys are passed over and whose known keys may not repeat, or as a list that
holds its fields in order, neither more nor fewer. A value of the wrong type is read as far as its own form is concerned
before it is refused, so a malformed one is malformed first.
-/

namespace TracePlayer.Json

/-- The fault of a value that is not of the wanted type: a fault in the value's own text comes first. Lists and objects are
refused unread. -/
def refuse {α : Type} (s : List Char) : Reading α :=
  match skipGap s with
  | [] => .error .ended
  | c :: rest =>
    if c = '"' then (readString rest).bind (fun _ => .error .mismatched)
    else if c = '[' ∨ c = '\x7b' then .error .mismatched
    else if c = 'n' then (expect ['u', 'l', 'l'] rest).bind (fun _ => .error .mismatched)
    else if c = 't' then (expect ['r', 'u', 'e'] rest).bind (fun _ => .error .mismatched)
    else if c = 'f' then (expect ['a', 'l', 's', 'e'] rest).bind (fun _ => .error .mismatched)
    else if c = '-' ∨ (Text.digit? c).isSome then (readNumber (c :: rest)).bind (fun _ => .error .mismatched)
    else .error .malformed

/-- Reads an integer that passes the test. -/
def readInteger (admits : Int → Bool) (s : List Char) : Except Fault (Int × List Char) :=
  match skipGap s with
  | [] => .error .ended
  | c :: rest =>
    if c = '-' ∨ (Text.digit? c).isSome then do
      match ← readNumber (c :: rest) with
      | (.integer n, rest) => if admits n then return (n, rest) else throw .mismatched
      | (.double _, _) => throw .mismatched
    else refuse (c :: rest)

/-- Reads a 64-bit signed integer. -/
def readSigned64 (s : List Char) : Reading Int :=
  readInteger Text.isSigned64 s

/-- Reads a natural number below `limit`. -/
def readBelow (limit : Nat) (s : List Char) : Reading Nat :=
  (readInteger (fun n => decide (0 ≤ n ∧ n < limit)) s).map (fun r => (r.1.toNat, r.2))

/-- Reads a string. -/
def readText (s : List Char) : Reading String :=
  match skipGap s with
  | '"' :: rest => readString rest
  | _ => refuse s

/-- Reads a value that may be absent, written as null. -/
def readOptional {α : Type} (reader : List Char → Reading α) (s : List Char) : Reading (Option α) :=
  match skipGap s with
  | 'n' :: rest => (expect ['u', 'l', 'l'] rest).map (fun r => (none, r.2))
  | _ => (reader s).map (fun r => (some r.1, r.2))

/-- Reads a list of values of one type; it takes one of the levels left. -/
def readListOf {α : Type} (rounds depth : Nat) (item : List Char → Reading α) (s : List Char) : Reading (List α) :=
  match skipGap s with
  | '[' :: rest => if depth = 0 then .error .malformed else readItems item rounds true rest
  | _ => refuse s

/-- The closing bracket of a list that holds all it should. -/
def closeList (s : List Char) : Reading Unit :=
  match skipGap s with
  | [] => .error .ended
  | c :: rest => if c = ']' then .ok ((), rest) else .error .malformed

/-- A field of a record that is read into a draft of type `σ`: its key, whether the draft holds it, and its reader. -/
structure Slot (σ : Type) where
  key : String
  filled : σ → Bool
  fill : σ → List Char → Reading σ

/-- Reads the fields in order from a list whose bracket has been read. A list that is too short does not match. -/
def readInOrder {σ : Type} : List (Slot σ) → Bool → σ → List Char → Except Fault (σ × List Char)
  | [], _, draft, s => (closeList s).map (fun r => (draft, r.2))
  | slot :: slots, first, draft, s => do
    match ← nextItem first s with
    | (false, _) => throw .mismatched
    | (true, s) =>
      let (draft, s) ← slot.fill draft s
      readInOrder slots false draft s

/-- Reads the fields by key from an object whose brace has been read. -/
def readByKey {σ : Type} (slots : List (Slot σ)) (total : Nat) :
    Nat → Bool → σ → List Char → Except Fault (σ × List Char)
  | 0, _, _, _ => .error .malformed
  | rounds + 1, first, draft, s => do
    match ← nextKey first s with
    | (false, s) => return (draft, s)
    | (true, s) =>
      let (key, s) ← readString s
      match slots.find? (fun slot => slot.key == key) with
      | some slot =>
        if slot.filled draft then throw .mismatched
        let (_, s) ← skipColon s
        let (draft, s) ← slot.fill draft s
        readByKey slots total rounds false draft s
      | none =>
        let (_, s) ← skipColon s
        let (_, s) ← skipValue total total s
        readByKey slots total rounds false draft s

/-- Reads a record and completes its draft; it takes one of the levels left. A draft that cannot be completed lacks a
field. -/
def readRecord {σ α : Type} (rounds depth : Nat) (slots : List (Slot σ)) (empty : σ) (complete : σ → Option α)
    (s : List Char) : Reading α :=
  let finish (r : σ × List Char) : Reading α :=
    match complete r.1 with
    | some v => .ok (v, r.2)
    | none => .error .mismatched
  match skipGap s with
  | '[' :: rest => if depth = 0 then .error .malformed else (readInOrder slots true empty rest).bind finish
  | '\x7b' :: rest => if depth = 0 then .error .malformed else (readByKey slots rounds rounds true empty rest).bind finish
  | _ => refuse s

end TracePlayer.Json
