import TracePlayer.Host.Shell.Arithmetic
import TracePlayer.Host.Shell.Pattern
import TracePlayer.Host.Shell.State

/-!
# Expansion

Words are replaced by fields: parameters by their values, scripts by what they print, expressions by their numbers. Then what has
been replaced is cut into fields, and patterns are replaced by the files that they match.

To run a script for what it prints is left to a function that the definitions here are given.
-/

namespace TracePlayer.Host.Shell

/-- What a word is replaced by, before it is cut. -/
inductive Atom where
  /-- A character; `splits` tells that a field may end at it. -/
  | char (c : Char) (quoted splits : Bool)
  /-- A pair of quotes. -/
  | quotes
  /-- The end of a field. -/
  | cut
  deriving DecidableEq, Repr

namespace Atom

/-- The atoms of a value. -/
def ofValue (quoted : Bool) (s : Octets) : List Atom := s.map (Atom.char · quoted !quoted)

/-- The character of an atom, with its quotes. -/
def mark? : Atom → Option Mark
  | char c quoted _ => some ⟨c, quoted⟩
  | _ => none

/-- The text of atoms. -/
def text (as : List Atom) : Octets := as.filterMap (fun a => a.mark?.map Mark.char)

/-- The pattern of atoms. -/
def pattern (as : List Atom) : Pattern := .ofMarks (as.filterMap mark?)

/-- The atoms of several values. A field ends between any two of them if there are to be fields, and else a separator stands
there. -/
def ofValues (separators : Octets) (fields quoted : Bool) (values : List Octets) : List Atom :=
  let between := if fields then [cut] else ofValue true (separators.take 1)
  between.intercalate (values.map fun v => if quoted ∧ fields then quotes :: ofValue true v else ofValue quoted v)

end Atom

/-! ## Parameters -/

/-- Whether a parameter stands for all arguments. -/
def isAllArguments (name : Octets) : Bool := name == ['@'] || name == ['*']

/-- The values of a parameter: none if it has none. -/
def valuesOf (s : State) (name : Octets) : List Octets :=
  if isAllArguments name then s.arguments else (s.value? name).toList

/-- Changes the last value. -/
def changeLast (f : Octets → Octets) : List Octets → List Octets
  | [] => []
  | [v] => [f v]
  | v :: rest => v :: changeLast f rest

/-- The atoms of values of a parameter. All arguments become fields of their own, unless they are asked for as one text. -/
def atomsOfValues (s : State) (fields quoted : Bool) (name : Octets) (values : List Octets) : List Atom :=
  Atom.ofValues s.separators (fields && isAllArguments name && !(quoted && name == ['*'])) quoted values

/-- Reports that a parameter has no value. -/
def missing {α : Type} (name word : Octets) (colon : Bool) : Act α :=
  let reason := if word ≠ [] then word else if colon then "parameter not set or null".toList else "parameter not set".toList
  Act.fail (name ++ ": ".toList ++ reason)

/-- The length of a parameter. -/
def lengthOf (s : State) (name : Octets) : Octets :=
  let values := valuesOf s name
  let text := if isAllArguments name then (s.separators.take 1).intercalate values else values.flatten
  (toString text.length).toList

/-- The pieces of a word up to a character that is not quoted, and those behind it. -/
def cutAt (p : Char → Bool) : Word → Word × Word
  | [] => ([], [])
  | .char c false :: rest =>
    if p c then ([], .char c false :: rest) else (.char c false :: (cutAt p rest).1, (cutAt p rest).2)
  | piece :: rest => (piece :: (cutAt p rest).1, (cutAt p rest).2)

/-- A word in which a tilde at the start, that no name follows, is replaced by the home directory. -/
def homeAtStart (s : State) (assigned : Bool) (w : Word) : Word :=
  match w with
  | .char '~' false :: rest =>
    let goesOn := match rest with
      | [] => true
      | .char c false :: _ => c == '/' || (assigned && c == ':')
      | _ => false
    match s.value? "HOME".toList with
    | some home => if goesOn then home.map (Piece.char · true) ++ rest else w
    | none => w
  | _ => w

/-- A word with its home directories; in a value that is assigned, they may stand behind colons. Every round passes a colon. -/
def homes (s : State) (assigned : Bool) : Nat → Word → Word
  | 0, w => w
  | n + 1, w =>
    if assigned then
      match cutAt (· == ':') w with
      | (first, colon :: rest) => homeAtStart s true first ++ colon :: homes s true n rest
      | (first, []) => homeAtStart s true first
    else homeAtStart s false w

section Atoms

variable (capture : Script → Act Octets)

/-- The value of an arithmetic expression. Parameters are given the values that it gives them. -/
def evaluate (expression : Octets) : Act Octets := do
  let s ← get
  let result := do
    let e ← Expression.read expression
    (e.eval (fun name => (s.value? name).getD [])).run []
  match result with
  | .ok (n, given) =>
    for (name, value) in given.reverse do
      Act.assign name (toString value).toList
    return (toString n).toList
  | .error fault => Act.fail (fault.message expression)

mutual

/-- The atoms of a piece of a word. `fields` tells whether the word becomes fields, and `loose` that fields may end at what is
written in it. -/
def atomsOf (fields loose : Bool) : Piece → Act (List Atom)
  | .char c quoted => return [.char c quoted (loose && !quoted)]
  | .quotes => return [.quotes]
  | .output quoted script => return Atom.ofValue quoted (← capture script)
  | .arithmetic quoted e => return Atom.ofValue quoted (← evaluate (Atom.text (← atomsOfAll false false e)))
  | .parameter quoted name form word => do
    let s ← get
    let values := valuesOf s name
    let isSet := isAllArguments name || !values.isEmpty
    let value := atomsOfValues s fields quoted name values
    let isGiven (colon : Bool) : Bool := isSet && !(colon && (Atom.text value).isEmpty)
    match form with
    | .value =>
      if !isSet && s.has 'u' then missing name [] false
      return value
    | .length =>
      if !isSet && s.has 'u' then missing name [] false
      return Atom.ofValue quoted (lengthOf s name)
    | .fallback colon => if isGiven colon then return value else atomsOfAll fields (!quoted) word
    | .instead colon => if isGiven colon then atomsOfAll fields (!quoted) word else return []
    | .required colon =>
      if isGiven colon then return value
      else
        let text := Atom.text (← atomsOfAll false false word)
        missing name text colon
    | .assigned colon =>
      if isGiven colon then return value
      else
        let text := Atom.text (← atomsOfAll false false word)
        if !isName name then Act.fail (name ++ ": bad variable name".toList)
        Act.assign name text
        return Atom.ofValue quoted text
    | .trimStart longest =>
      if !isSet && s.has 'u' then missing name [] false
      let pattern := Atom.pattern (← atomsOfAll false false word)
      return atomsOfValues s fields quoted name (values.modifyHead (Pattern.trimStart pattern longest))
    | .trimEnd longest =>
      if !isSet && s.has 'u' then missing name [] false
      let pattern := Atom.pattern (← atomsOfAll false false word)
      return atomsOfValues s fields quoted name (changeLast (Pattern.trimEnd pattern longest) values)
    | .unknown => Act.fail "Bad substitution".toList

/-- The atoms of a word. -/
def atomsOfAll (fields loose : Bool) : List Piece → Act (List Atom)
  | [] => return []
  | piece :: rest => do
    let first ← atomsOf fields loose piece
    return first ++ (← atomsOfAll fields loose rest)

end

end Atoms

/-! ## Fields -/

/-- Fields that are being made. -/
structure Fields where
  /-- The fields that have ended, the last one first. -/
  complete : List (List Mark)
  /-- The characters of the field that has been started, the last one first. -/
  current : Option (List Mark)
  /-- Whether blanks ended the last field, so that a separator behind them ends no other. -/
  blank : Bool
  deriving DecidableEq, Repr

namespace Fields

/-- Ends the field that has been started. -/
def cut (f : Fields) (blank : Bool) : Fields :=
  match f.current with
  | some field => ⟨field :: f.complete, none, blank⟩
  | none => { f with blank := f.blank && blank }

/-- Adds an atom. -/
def take (separators : Octets) (f : Fields) : Atom → Fields
  | .quotes => { f with current := some (f.current.getD []), blank := false }
  | .cut => f.cut false
  | .char c quoted splits =>
    if splits ∧ separators.contains c then
      if c = ' ' ∨ c = '\t' ∨ c = '\n' then { f.cut true with blank := f.blank || f.current.isSome }
      else if f.current.isSome ∨ f.blank then f.cut false
      else ⟨[] :: f.complete, none, false⟩
    else ⟨f.complete, some (⟨c, quoted⟩ :: f.current.getD []), false⟩

/-- The fields of atoms. -/
def ofAtoms (separators : Octets) (as : List Atom) : List (List Mark) :=
  ((as.foldl (take separators) ⟨[], none, false⟩).cut false).complete.reverse.map List.reverse

end Fields

/-! ## Files that match a pattern -/

/-- The marks between slashes. -/
def splitMarks : List Mark → List (List Mark)
  | [] => [[]]
  | m :: rest =>
    match splitMarks rest with
    | [] => [[m]]
    | first :: others => if m.char = '/' then [] :: first :: others else (m :: first) :: others

/-- Whether marks hold anything that stands for other characters. -/
def isPattern (ms : List Mark) : Bool := ms.any (fun m => !m.quoted && ['*', '?', '['].contains m.char)

/-- The paths that lead on from a path, by the marks of a name. A name that starts with a dot is matched only by a dot. -/
def matchName (t : Tree) (path : Octets) (ms : List Mark) : List Octets :=
  if isPattern ms then
    match t.walk (if path.isEmpty then ['.'] else path) with
    | .ok (place, .directory) =>
      let names := (if ms.head?.any (·.char == '.') then [['.'], ['.', '.']] else []) ++ t.namesIn place
      let kept := names.filter fun n =>
        (n.head? != some '.' || ms.head?.any (·.char == '.')) && Pattern.isMatch (.ofMarks ms) n
      (kept.mergeSort Octets.precedes).map (path ++ ·)
    | _ => []
  else [path ++ ms.map Mark.char]

/-- The paths that names lead to. -/
def matchNames (t : Tree) : List Octets → List (List Mark) → List Octets
  | paths, [] => paths
  | paths, [last] => paths.flatMap (matchName t · last)
  | paths, name :: rest => matchNames t ((paths.flatMap (matchName t · name)).map (· ++ ['/'])) rest

/-- The paths of the files that a field matches, or else the field itself. -/
def matchField (t : Tree) (ms : List Mark) : List Octets :=
  let text := ms.map Mark.char
  if isPattern ms then
    match (matchNames t [[]] (splitMarks ms)).filter (fun p => (t.find p).toBool) with
    | [] => [text]
    | paths => paths
  else [text]

/-! ## Words -/

/-- The fields that a word is replaced by. -/
def expand (capture : Script → Act Octets) (w : Word) : Act (List Octets) := do
  let atoms ← atomsOfAll capture true false (homes (← get) false 1 w)
  let s ← get
  let fields := Fields.ofAtoms s.separators atoms
  return if s.has 'f' then fields.map (fun f => f.map Mark.char) else fields.flatMap (matchField s.world.tree)

/-- The fields that words are replaced by. -/
def expandAll (capture : Script → Act Octets) (ws : List Word) : Act (List Octets) := do
  let mut fields := []
  for w in ws do
    fields := fields ++ (← expand capture w)
  return fields

/-- The text that a word is replaced by where it is not cut into fields. -/
def expandText (capture : Script → Act Octets) (assigned : Bool) (w : Word) : Act Octets := do
  return Atom.text (← atomsOfAll capture false false (homes (← get) assigned (w.length + 1) w))

/-- The pattern that a word is replaced by. -/
def expandPattern (capture : Script → Act Octets) (w : Word) : Act Pattern := do
  return Atom.pattern (← atomsOfAll capture false false (homes (← get) false 1 w))

end TracePlayer.Host.Shell
