import TracePlayer.Host.Shell.Pattern
import TracePlayer.Host.Template
import TracePlayer.Host.World

/-!
# Small programs

The programs that a host has beside its shell: what each makes of its arguments, of what it reads, and of the files that it opens.
-/

namespace TracePlayer.Host

/-- What a program does: it has its descriptors, and changes the world. -/
abbrev Task := ReaderT Descriptors (StateM World)

namespace Utility

/-- Writes to a descriptor. -/
def write (descriptor : Nat) (text : Octets) : Task (Except Fault Unit) := do
  let world ← get
  match ((← read).get? descriptor).elim (.error .badDescriptor) (fun f => world.write f text) with
  | .ok world =>
    set world
    return .ok ()
  | .error fault => return .error fault

/-- Reports what went wrong. -/
def report (name : Octets) (message : Octets) : Task Unit := do
  let _ ← write 2 (name ++ ": ".toList ++ message ++ ['\n'])

/-- Prints; the status tells whether that worked. -/
def print (name : Octets) (text : Octets) : Task Nat := do
  if text.isEmpty then return 0
  match ← write 1 text with
  | .ok () => return 0
  | .error fault =>
    report name s!"write error: {fault.reason}".toList
    return 1

/-- Reports what is wrong with the arguments; the status. -/
def refuse (name : Octets) (message : Octets) : Task Nat := do
  report name (message ++ "\nTry '".toList ++ name ++ " --help' for more information.".toList)
  return 1

/-- Reports that there are not enough arguments. -/
def lacking (name : Octets) : Task Nat := refuse name "missing operand".toList

/-- Reports that there are too many arguments. -/
def surplus (name operand : Octets) : Task Nat := refuse name ("extra operand ".toList ++ Template.inQuotes operand)

/-- All that is left of the input. -/
def input : Task (Except Fault Octets) := do
  match (← read).get? 0 with
  | none => return .error .badDescriptor
  | some file =>
    match (← get).readAll file with
    | .ok (text, world) =>
      set world
      return .ok text
    | .error fault => return .error fault

/-- The text of a file; a dash asks for the input. -/
def fetch (path : Octets) : Task (Except Fault Octets) := do
  if path = ['-'] then input
  else
    match (← get).openAt (← read) path World.reading false with
    | .error fault => return .error fault
    | .ok (file, world) =>
      match world.readAll file with
      | .ok (text, world) =>
        set world
        return .ok text
      | .error fault => return .error fault

/-- The files that are named, or the input. -/
def orInput (operands : List Octets) : List Octets := if operands.isEmpty then [['-']] else operands

/-! ## Options -/

/-- Options that have been read, with their values, and the other arguments. -/
structure Request where
  options : List (Char × Octets)
  operands : List Octets

/-- What is wrong with an option. -/
inductive OptionFault where
  | invalid (letter : Char)
  | unrecognized (word : Octets)
  | ambiguous (word : Octets) (names : List String)
  | noArgument (letter : Char)
  deriving DecidableEq, Repr

/-- The message of a fault. -/
def OptionFault.message : OptionFault → Octets
  | invalid letter => "invalid option -- '".toList ++ [letter, '\'']
  | unrecognized word => "unrecognized option '".toList ++ word ++ ['\'']
  | ambiguous word names => "option '".toList ++ word ++ "' is ambiguous; possibilities:".toList ++
      names.flatMap (fun n => s!" '--{n}'".toList)
  | noArgument letter => "option requires an argument -- '".toList ++ [letter, '\'']

/-- The letters of an argument, given the arguments behind it, which may hold the value of the last one. A colon stands behind
letters that have a value. -/
def readLetters (letters : String) (rest : List Octets) : Octets → Except OptionFault (List (Char × Octets) × List Octets)
  | [] => .ok ([], rest)
  | c :: cs =>
    let behind := letters.toList.dropWhile (· != c)
    if behind.isEmpty ∨ c = ':' then .error (.invalid c)
    else if behind.tail.head? = some ':' then
      match cs, rest with
      | [], [] => .error (.noArgument c)
      | [], a :: rest => .ok ([(c, a)], rest)
      | cs, rest => .ok ([(c, cs)], rest)
    else (readLetters letters rest cs).map (fun r => ((c, []) :: r.1, r.2))

/-- The letter of an option that is written out, or begun so that it can be no other. -/
def letterOf (names : List (String × Char)) (word : Octets) : Except OptionFault Char :=
  let name := word.drop 2
  match names.find? (fun n => n.1.toList == name), names.filter (fun n => name.isPrefixOf n.1.toList) with
  | some n, _ => .ok n.2
  | none, [n] => .ok n.2
  | none, [] => .error (.unrecognized word)
  | none, several => .error (.ambiguous word (several.map Prod.fst))

/-- Reads options, which may stand behind other arguments. -/
def readRequest (letters : String) (names : List (String × Char)) : Nat → List Octets → Except OptionFault Request
  | 0, args => .ok ⟨[], args⟩
  | _, [] => .ok ⟨[], []⟩
  | n + 1, a :: rest =>
    match a with
    | ['-', '-'] => .ok ⟨[], rest⟩
    | '-' :: '-' :: _ => do
      let letter ← letterOf names a
      let r ← readRequest letters names n rest
      return { r with options := (letter, []) :: r.options }
    | '-' :: c :: cs => do
      let (given, rest) ← readLetters letters rest (c :: cs)
      let r ← readRequest letters names n rest
      return { r with options := given ++ r.options }
    | _ => (readRequest letters names n rest).map (fun r => { r with operands := a :: r.operands })

/-- A program: the status that it makes of its name and its arguments. -/
abbrev Body := Octets → List Octets → Task Nat

/-- A program whose arguments have options. -/
def withOptions (letters : String) (names : List (String × Char)) (body : Octets → Request → Task Nat) : Body := fun name args =>
  match readRequest letters names args.length args with
  | .ok r => body name r
  | .error fault => refuse name fault.message

/-- Whether an option is given. -/
def Request.has (r : Request) (letter : Char) : Bool := r.options.any (fun o => o.1 == letter)

/-- The value of an option. -/
def Request.value? (r : Request) (letter : Char) : Option Octets :=
  ((r.options.filter (fun o => o.1 == letter)).getLast?).map Prod.snd

/-! ## Copying -/

/-- How text is shown. -/
structure Showing where
  numbers : Bool
  /-- Only lines with something in them are counted. -/
  numbersFull : Bool
  squeezes : Bool
  ends : Bool
  tabs : Bool
  hidden : Bool

/-- What is known of the text that has been shown. -/
structure Shown where
  /-- The pieces of output, the last one first. -/
  pieces : List Octets
  line : Nat
  /-- How many line feeds stand at the end. -/
  breaks : Nat

/-- A character that cannot be seen, in characters that can. -/
def visible (c : Char) : Octets :=
  let low (n : Nat) : Octets := if n < 32 then ['^', Char.ofNat (n + 64)] else if n = 127 then ['^', '?'] else [Char.ofNat n]
  if c.toNat < 128 then low c.toNat else 'M' :: '-' :: low (c.toNat - 128)

/-- Shows a character. -/
def Showing.step (s : Showing) (shown : Shown) (c : Char) : Shown :=
  let number (n : Nat) : Octets := (toString n).toList.leftpad 6 ' ' ++ ['\t']
  let starts := 0 < shown.breaks
  if c = '\n' then
    if s.squeezes ∧ 2 ≤ shown.breaks then shown
    else
      let counts := starts ∧ s.numbers ∧ ¬s.numbersFull
      let head := if counts then number (shown.line + 1) else []
      ⟨(head ++ if s.ends then ['$', '\n'] else ['\n']) :: shown.pieces, if counts then shown.line + 1 else shown.line,
        shown.breaks + 1⟩
  else
    let counts := starts ∧ (s.numbers ∨ s.numbersFull)
    let text := if c = '\t' then (if s.tabs then ['^', 'I'] else [c]) else if s.hidden then visible c else [c]
    ⟨((if counts then number (shown.line + 1) else []) ++ text) :: shown.pieces,
      if counts then shown.line + 1 else shown.line, 0⟩

/-- Copies files, or the input, to the output. -/
def cat : Body := withOptions "AbeEnstTuv"
    [("number-nonblank", 'b'), ("number", 'n'), ("squeeze-blank", 's'), ("show-nonprinting", 'v'), ("show-ends", 'E'),
      ("show-tabs", 'T'), ("show-all", 'A')] fun name r => do
  let any (letters : String) := letters.toList.any r.has
  let showing : Showing := ⟨r.has 'n', r.has 'b', r.has 's', any "eEA", any "tTA", any "vetA"⟩
  let plain := ¬any "AbeEnstTv"
  if ((← read).get? 1).isNone then
    report name "standard output: Bad file descriptor".toList
    return 1
  let mut status := 0
  let mut shown : Shown := ⟨[], 0, 1⟩
  for path in orInput r.operands do
    match ← fetch path with
    | .error fault =>
      report name (path ++ ": ".toList ++ fault.reason.toList)
      status := 1
    | .ok text =>
      if plain then status := max status (← print name text)
      else
        shown := text.foldl showing.step { shown with pieces := [] }
        status := max status (← print name shown.pieces.reverse.flatten)
  if (orInput r.operands).contains ['-'] ∧ ((← read).get? 0).isNone then
    report name "closing standard input: Bad file descriptor".toList
    status := 1
  return status

/-- Copies the input to the output and to files. -/
def tee : Body := withOptions "aip" [("append", 'a'), ("ignore-interrupts", 'i')] fun name r => do
  let mut files := []
  let mut status := 0
  for path in r.operands do
    match (← get).openAt (← read) path ⟨false, true, r.has 'a'⟩ (!r.has 'a') with
    | .ok (file, world) =>
      set world
      files := files ++ [file]
    | .error fault =>
      report name (path ++ ": ".toList ++ fault.reason.toList)
      status := 1
  let text ← input
  let text := text.toOption.getD []
  status := max status (← print name text)
  for file in files do
    match (← get).write file text with
    | .ok world => set world
    | .error _ => status := 1
  return status

/-! ## Printing -/

/-- The letters with which options of `echo` are made. -/
def echoLetters : List Char := ['e', 'E', 'n']

/-- Prints its arguments. -/
def echo : Body := fun name args => do
  let isOption (a : Octets) := a.head? == some '-' && a.tail != [] && a.tail.all echoLetters.contains
  let given := (args.takeWhile isOption).flatMap List.tail
  let text := [' '].intercalate (args.dropWhile isOption)
  let escapes := (given.filter (· != 'n')).getLast? == some 'e'
  let (text, stopped) := if escapes then Template.Printed.plain (Template.read .outside false text.length text) else (text, false)
  print name (text ++ if given.contains 'n' ∨ stopped then [] else ['\n'])

/-- Prints its arguments in the way that the first one says. -/
def printf : Body := fun name args => do
  match if args.head? = some ['-', '-'] then args.tail else args with
  | [] => lacking name
  | format :: args =>
    let p := Template.printf .outside format args
    for f in p.faults do
      report name f.outsideMessage
    let status ← print name p.output
    return if p.faults.all Template.Fault.isWarning then status else 1

/-- Prints one line over and over, as long as it is read. -/
def yes : Body := fun name args => do
  let line := (if args.isEmpty then ['y'] else [' '].intercalate args) ++ ['\n']
  let _ ← print name ((List.replicate 8192 line).flatten)
  return 1

/-- A number with a point in it: the number without the point, and how many digits are behind it. -/
def decimal? (s : Octets) : Option (Int × Nat) :=
  let (negative, digits) := Template.cutSign s
  let whole := digits.takeWhile Char.isDigit
  let places := match digits.drop whole.length with
    | '.' :: rest => some rest
    | [] => some []
    | _ => none
  match places with
  | none => none
  | some places =>
    if places.all Char.isDigit ∧ whole ++ places ≠ [] then
      let n : Int := Template.numberOf 10 (whole ++ places)
      some (if negative then -n else n, places.length)
    else none

/-- Prints the numbers from one to another. -/
def seq : Body := fun name args => do
  let isNegative (a : Octets) := a.head? == some '-' && (decimal? a).isSome
  let rec cut (separator : Octets) (width : Bool) : List Octets → Octets × Bool × List Octets
    | a :: rest =>
      match a with
      | ['-', 'w'] => cut separator true rest
      | '-' :: 's' :: c :: cs => cut (c :: cs) width rest
      | ['-', 's'] => cut (rest.headD []) width rest.tail
      | _ => (separator, width, a :: rest)
    | [] => (separator, width, [])
  termination_by args => args.length
  let (separator, width, args) := cut ['\n'] false args
  match args.find? (fun a => a.head? == some '-' && !isNegative a), args.find? (fun a => (decimal? a).isNone) with
  | some ('-' :: c :: _), _ => refuse name (OptionFault.invalid c).message
  | _, some a => refuse name ("invalid floating point argument: ".toList ++ Template.inQuotes a)
  | _, none =>
    match args.filterMap decimal? with
    | [] => lacking name
    | [last] => go name separator width (1, 0) (1, 0) last
    | [first, last] => go name separator width first (1, 0) last
    | [first, step, last] =>
      if step.1 = 0 then refuse name ("invalid Zero increment value: ".toList ++ Template.inQuotes (args.getD 1 []))
      else go name separator width first step last
    | _ => surplus name (args.getD 3 [])
where
  /-- Prints numbers with equal distances. -/
  go (name separator : Octets) (width : Bool) (first step last : Int × Nat) : Task Nat := do
    let places := max first.2 step.2
    let scale := max places last.2
    let scaled (x : Int × Nat) : Int := x.1 * (Nat.pow 10 (scale - x.2) : Nat)
    let (a, d, b) := (scaled first, scaled step, scaled last)
    let count := if 0 < d then (if a ≤ b then ((b - a) / d).toNat + 1 else 0) else if b ≤ a then ((a - b) / (-d)).toNat + 1 else 0
    let text (n : Int) : Octets :=
      (if n < 0 then ['-'] else []) ++ Places.fixed false places n.natAbs (Nat.pow 10 scale)
    let texts := (List.range count).map (fun (i : Nat) => text (a + d * i))
    let most := (texts.map List.length).foldl max 0
    let padded := if width then texts.map (fun t =>
        let sign := t.takeWhile (· == '-')
        sign ++ (t.drop sign.length).leftpad (most - sign.length) '0') else texts
    print name (if padded.isEmpty then [] else separator.intercalate padded ++ ['\n'])

/-! ## Parts of files -/

/-- The lines of a text, with their line feeds. -/
def fullLines (s : Octets) : List Octets :=
  match (Text.splitAt '\n' s).reverse with
  | [] :: rest => rest.reverse.map (· ++ ['\n'])
  | last :: rest => rest.reverse.map (· ++ ['\n']) ++ [last]
  | [] => []

/-- How much is wanted of a file. -/
structure Share where
  bytes : Bool
  sign : Option Char
  count : Nat

/-- The part of a text at its start; with a dash, all but so much at its end. -/
def Share.start (s : Share) (text : Octets) : Octets :=
  let cut {α : Type} (xs : List α) : List α := if s.sign = some '-' then xs.take (xs.length - s.count) else xs.take s.count
  if s.bytes then cut text else (cut (fullLines text)).flatten

/-- The part of a text at its end; with a plus sign, all from so far on. -/
def Share.finish (s : Share) (text : Octets) : Octets :=
  let cut {α : Type} (xs : List α) : List α := if s.sign = some '+' then xs.drop (s.count - 1) else xs.drop (xs.length - s.count)
  if s.bytes then cut text else (cut (fullLines text)).flatten

/-- The share that options ask for. -/
def shareOf (r : Request) : Except Octets Share :=
  match r.options.filter (fun o => o.1 == 'n' || o.1 == 'c') |>.getLast? with
  | none => .ok ⟨false, none, 10⟩
  | some (letter, value) =>
    let sign := value.head?.filter (fun c => c == '-' || c == '+')
    let digits := if sign.isSome then value.tail else value
    if digits ≠ [] ∧ digits.all Char.isDigit then .ok ⟨letter == 'c', sign, Template.numberOf 10 digits⟩
    else
      let unit := if letter = 'c' then "bytes" else "lines"
      .error (s!"invalid number of {unit}: ".toList ++ Template.inQuotes value)

/-- Arguments in which a number behind a dash asks for so many lines. -/
def withCount : List Octets → List Octets
  | ('-' :: c :: cs) :: rest => if c.isDigit then ['-', 'n'] :: (c :: cs) :: rest else ('-' :: c :: cs) :: rest
  | args => args

/-- Shows parts of files. -/
def parts (part : Share → Octets → Octets) : Body := fun name args =>
  withOptions "n:c:qvzfF" [("quiet", 'q'), ("silent", 'q'), ("verbose", 'v'), ("zero-terminated", 'z')] (fun name r => do
    match shareOf r with
    | .error message =>
      report name message
      return 1
    | .ok share =>
      let paths := orInput r.operands
      let headed := r.has 'v' || (1 < paths.length && !r.has 'q')
      let mut status := 0
      let mut first := true
      for path in paths do
        match ← fetch path with
        | .error .isDirectory =>
          report name ("error reading ".toList ++ Template.inQuotes path ++ ": Is a directory".toList)
          status := 1
        | .error fault =>
          report name ("cannot open ".toList ++ Template.inQuotes path ++ s!" for reading: {fault.reason}".toList)
          status := 1
        | .ok text =>
          let shown := if path = ['-'] then "standard input".toList else path
          let head := if headed then (if first then [] else ['\n']) ++ "==> ".toList ++ shown ++ " <==\n".toList else []
          status := max status (← print name (head ++ part share text))
          first := false
      return status) name (withCount args)

/-- The number of words in a text. -/
def wordCount (s : Octets) : Nat :=
  (s.foldl (fun (n, inWord) c =>
    if Shell.isSpace c then (n, false) else if inWord then (n, true) else (n + 1, true)) (0, false)).1

/-- Counts lines, words and bytes. -/
def wc : Body := withOptions "clmLw" [("bytes", 'c'), ("lines", 'l'), ("words", 'w'), ("chars", 'm')] fun name r => do
  let wanted := ["l", "w", "c"].filter (fun o => r.options.isEmpty || o.toList.any r.has || (o == "c" && r.has 'm'))
  let counts (text : Octets) : List Nat := wanted.map fun o =>
    if o = "l" then text.count '\n' else if o = "w" then wordCount text else text.length
  let paths := orInput r.operands
  let mut rows : List (List Nat × Octets × Bool) := []
  let mut status := 0
  let mut size := 0
  for path in paths do
    match ← fetch path with
    | .ok text =>
      rows := rows ++ [(counts text, if r.operands.isEmpty then [] else path, true)]
      size := size + text.length
    | .error fault =>
      report name (path ++ s!": {fault.reason}".toList)
      status := 1
      if fault = .isDirectory then rows := rows ++ [(wanted.map (fun _ => 0), path, true)]
  let total := (rows.map Prod.fst).foldl (List.zipWith (· + ·)) (wanted.map (fun _ => 0))
  if 1 < paths.length then rows := rows ++ [(total, "total".toList, true)]
  let width := if wanted.length = 1 ∧ paths.length = 1 then 1 else if paths.contains ['-'] then 7 else (toString size).length
  let line (row : List Nat × Octets × Bool) : Octets :=
    [' '].intercalate (row.1.map (fun n => (toString n).toList.leftpad width ' ')) ++
      (if row.2.1.isEmpty then [] else ' ' :: row.2.1) ++ ['\n']
  return max status (← print name (rows.flatMap line))

/-! ## Lines turned around -/

/-- Turns around what is between line feeds. -/
def rev : Body := fun name args => do
  let mut status := 0
  for path in orInput args do
    match ← fetch path with
    | .ok text => status := max status (← print name (['\n'].intercalate ((Text.splitAt '\n' text).map List.reverse)))
    | .error fault =>
      report name ("cannot open ".toList ++ path ++ s!": {fault.reason}".toList)
      status := 1
  return status

/-- Shows the last line first. -/
def tac : Body := fun name args => do
  let mut status := 0
  for path in orInput args do
    match ← fetch path with
    | .ok text => status := max status (← print name (fullLines text).reverse.flatten)
    | .error fault =>
      report name ("failed to open ".toList ++ Template.inQuotes path ++ s!" for reading: {fault.reason}".toList)
      status := 1
  return status

/-! ## Paths -/

/-- A path without the slashes at its end. -/
def dropSlashes (path : Octets) : Octets := (path.reverse.dropWhile (· == '/')).reverse

/-- The last name of a path. -/
def lastName (path : Octets) : Octets :=
  if path ≠ [] ∧ dropSlashes path = [] then ['/'] else ((dropSlashes path).reverse.takeWhile (· != '/')).reverse

/-- The path of the directory of a path. -/
def directoryName (path : Octets) : Octets :=
  let above := ((dropSlashes path).reverse.dropWhile (· != '/')).reverse
  if above.isEmpty then (if path.head? = some '/' then ['/'] else ['.'])
  else if dropSlashes above = [] then ['/'] else dropSlashes above

/-- Prints the last name of a path, without the ending that is given. -/
def basename : Body := withOptions "as:z" [("multiple", 'a'), ("zero", 'z')] fun name r => do
  let without (ending text : Octets) : Octets :=
    if ending ≠ text ∧ ending.isSuffixOf text then text.take (text.length - ending.length) else text
  let each (ending : Octets) (paths : List Octets) : Task Nat :=
    print name (paths.flatMap (fun p => without ending (lastName p) ++ ['\n']))
  if r.has 'a' || r.has 's' then (if r.operands.isEmpty then lacking name else each ((r.value? 's').getD []) r.operands)
  else
    match r.operands with
    | [] => lacking name
    | [path] => each [] [path]
    | [path, ending] => each ending [path]
    | _ :: _ :: a :: _ => surplus name a

/-- Prints the paths of the directories of paths. -/
def dirname : Body := withOptions "z" [("zero", 'z')] fun name r =>
  if r.operands.isEmpty then lacking name else print name (r.operands.flatMap (fun p => directoryName p ++ ['\n']))

/-! ## Characters -/

/-- The characters that a set stands for. -/
def charsOf : Nat → Octets → List Char
  | 0, _ => []
  | _, [] => []
  | n + 1, s =>
    let classes := ["alpha", "digit", "alnum", "upper", "lower", "space", "blank", "punct", "print", "graph", "cntrl", "xdigit"]
    match classes.find? (fun c => s!"[:{c}:]".toList.isPrefixOf s) with
    | some c => (List.range 256).map Char.ofNat |>.filter (Shell.isInClass c) |> (· ++ charsOf n (s.drop (c.length + 4)))
    | none =>
      let (first, rest) := one s
      match rest with
      | '-' :: d :: rest' =>
        let (last, rest') := one (d :: rest')
        (List.range' first.toNat (last.toNat + 1 - first.toNat)).map Char.ofNat ++ charsOf n rest'
      | _ => first :: charsOf n rest
where
  /-- The character at the start of a set, which may be written with a backslash. -/
  one : Octets → Char × Octets
    | '\\' :: rest =>
      match Template.readEscape .inside true rest with
      | (.octets [c], rest) => (c, rest)
      | _ => (rest.headD '\\', rest.tail)
    | c :: rest => (c, rest)
    | [] => ('\x00', [])

/-- A text in which characters that follow each other and are alike stand once. -/
def squeeze (set : List Char) : Octets → Octets
  | a :: b :: rest => if a = b ∧ set.contains a then squeeze set (b :: rest) else a :: squeeze set (b :: rest)
  | s => s

/-- Replaces, drops or squeezes characters of the input. -/
def tr : Body := withOptions "cCdst" [("delete", 'd'), ("squeeze-repeats", 's'), ("complement", 'c')] fun name r => do
  let (drops, squeezes) := (r.has 'd', r.has 's')
  let complement := r.has 'c' || r.has 'C'
  let sets := r.operands.map (fun a => charsOf a.length a)
  let first := sets.headD []
  let first := if complement then (List.range 256).map Char.ofNat |>.filter (!first.contains ·) else first
  let run (f : Octets → Octets) : Task Nat := do
    let text ← input
    print name (f (text.toOption.getD []))
  match sets, r.operands with
  | [], _ => lacking name
  | [_], operands =>
    if drops then run (·.filter (!first.contains ·))
    else if squeezes then run (squeeze first)
    else refuse name ("missing operand after ".toList ++ Template.inQuotes (operands.headD []) ++
      "\nTwo strings must be given when translating.".toList)
  | [_, second], operands =>
    if drops ∧ ¬squeezes then refuse name ("extra operand ".toList ++ Template.inQuotes (operands.getD 1 []) ++
      "\nOnly one string may be given when deleting without squeezing repeats.".toList)
    else if drops then run (fun s => squeeze second (s.filter (!first.contains ·)))
    else if second.isEmpty then do
      report name "when not truncating set1, string2 must be non-empty".toList
      return 1
    else
      let replace (c : Char) : Char :=
        match first.reverse.idxOf? c with
        | some i => second.getD (first.length - 1 - i) (second.getLastD c)
        | none => c
      run (fun s => if squeezes then squeeze second (s.map replace) else s.map replace)
  | _, operands => surplus name (operands.getD 2 [])

/-! ## Time -/

/-- Whether a text tells a time: a number, and a letter for its unit. -/
def isInterval (s : Octets) : Bool :=
  let number := if ['s', 'm', 'h', 'd'].any (fun c => s.getLast? == some c) then s.dropLast else s
  ((decimal? number).any (fun x => 0 ≤ x.1))

/-- Waits. -/
def sleep : Body := withOptions "" [] fun name r => do
  match r.operands, r.operands.find? (!isInterval ·) with
  | [], _ => lacking name
  | _, some a => refuse name ("invalid time interval ".toList ++ Template.inQuotes a)
  | _, none => return 0

/-- The program of a name. -/
def find? (program : String) : Option Body :=
  match program with
  | "cat" => some cat
  | "tee" => some tee
  | "echo" => some echo
  | "printf" => some printf
  | "yes" => some yes
  | "seq" => some seq
  | "head" => some (parts Share.start)
  | "tail" => some (parts Share.finish)
  | "wc" => some wc
  | "rev" => some rev
  | "tac" => some tac
  | "basename" => some basename
  | "dirname" => some dirname
  | "tr" => some tr
  | "sleep" => some sleep
  | "true" => some (fun _ _ => return 0)
  | "false" => some (fun _ _ => return 1)
  | _ => none

end Utility

end TracePlayer.Host
