import TracePlayer.Number.Shortest

/-!
# JSON values

A number is an integer when it is written without fraction and exponent and fits into 64 bits, signed or unsigned; every
other number is a double. The entries of an object are kept in the order of their keys, one entry a key.
-/

namespace TracePlayer

/-- A number as a JSON text gives it. -/
inductive Number where
  | integer (value : Int)
  | double (value : Binary64)
  deriving DecidableEq, Repr

/-- A JSON value. -/
inductive Json where
  | null
  | bool (value : Bool)
  | number (value : Number)
  | text (value : String)
  | list (items : List Json)
  | object (entries : List (String × Json))
  deriving Repr

namespace Json

/-- Adds an entry in the order of the keys; an entry that has the key is replaced. -/
def insertEntry (key : String) (value : Json) : List (String × Json) → List (String × Json)
  | [] => [(key, value)]
  | (k, v) :: rest =>
    if key = k then (key, value) :: rest
    else if key < k then (key, value) :: (k, v) :: rest
    else (k, v) :: insertEntry key value rest

/-- The object with the given entries; of two with one key the later stays. -/
def ofEntries (entries : List (String × Json)) : Json :=
  .object (entries.foldl (fun sorted e => insertEntry e.1 e.2 sorted) [])

end Json

end TracePlayer
