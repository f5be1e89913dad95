import TracePlayer.Regex.Reader

/-!
# Judging a regular expression

Whether a matcher can be built for a pattern is told from its parts, in the order in which they stand, under the flags that hold
there. A pattern speaks of characters unless a flag makes it speak of bytes. Of characters beyond ASCII nothing is known but their
numbers: there are no tables of their properties, of their case, or of the words that they make.
-/

namespace TracePlayer.Regex

/-- The flags that decide what can be matched. -/
structure Flags where
  caseless : Bool
  /-- Whether characters are meant, and not bytes. -/
  unicode : Bool
  deriving DecidableEq, Repr

/-- The flags under a list of flags. -/
def Flags.under (f : Flags) (marks : List FlagMark) : Flags :=
  ⟨(flagState marks 'i').getD f.caseless, (flagState marks 'u').getD f.unicode⟩

/-- Whether tables of case would be needed. -/
def Flags.needsCase (f : Flags) : Bool := f.caseless && f.unicode

/-- A set of letters that is being read: the stretch of its letters, if there are any. -/
abbrev Letters := Option Span

/-- A class that is being read. -/
structure OpenClass where
  /-- The set in front of the last mark between sets, if there is a mark. -/
  left : Option Letters
  letters : Letters

/-- What has been learned from the parts of a pattern. -/
structure Judging where
  flags : Flags
  /-- The flags around the groups that are open, the innermost first. -/
  outer : List Flags
  /-- The classes that are open, the innermost first. -/
  classes : List OpenClass
  /-- Whether there is a boundary of words that are not only of ASCII letters. -/
  wideBoundary : Bool

namespace Judging

/-- What is known in front of the first part. -/
def initial : Judging := ⟨⟨false, true⟩, [], [], false⟩

/-- Refuses a part on a condition. -/
def refuseIf (condition : Bool) (cause : MeaningCause) (span : Span) : Except Fault Unit :=
  if condition then .error (.unmatchable cause span) else .ok ()

/-- Refuses a letter that is meant as a byte and is no text. -/
def judgeByte (f : Flags) (l : Letter) : Except Fault Unit :=
  refuseIf (!f.unicode && l.isByte && 0x80 ≤ l.value.toNat) .invalidText l.span

/-- Judges a letter outside classes. -/
def judgeLetter (f : Flags) (l : Letter) : Except Fault Unit := do
  judgeByte f l
  refuseIf f.needsCase .caseUnavailable l.span
  refuseIf (f.caseless && 0x80 ≤ l.value.toNat) .notAscii l.span

/-- Judges a letter of a class, which is a byte where bytes are meant. -/
def judgeMember (f : Flags) (l : Letter) : Except Fault Unit := do
  judgeByte f l
  refuseIf (!f.unicode && 0x80 ≤ l.value.toNat) .notAscii l.span

/-- Judges what can stand both in a class and outside. -/
def judgeItem (f : Flags) : Item → Except Fault Unit
  | .letter l => judgeLetter f l
  | .shorthand negated span => do
    refuseIf f.unicode .shorthandNotFound span
    refuseIf negated .invalidText span
  | .property span => refuseIf true (if f.unicode then .propertyNotFound else .notAscii) span
  | .condition _ _ => .ok ()

/-- Judges a set of letters whose case would matter. -/
def judgeCase (f : Flags) (letters : Letters) : Except Fault Unit :=
  match letters with
  | some span => refuseIf f.needsCase .caseUnavailable span
  | none => .ok ()

/-- The set that two sets make, of which the right one is judged first. -/
def settle (f : Flags) (c : OpenClass) : Except Fault Letters :=
  match c.left with
  | none => .ok c.letters
  | some left => do
    judgeCase f c.letters
    judgeCase f left
    return none

/-- Judges a class that ends, given the set of its letters. -/
def judgeClass (f : Flags) (letters : Letters) (negated : Bool) (span : Span) : Except Fault Unit := do
  judgeCase f (letters.map (fun _ => span))
  refuseIf (!f.unicode && negated) .invalidText span

/-- Takes in a stretch of letters. -/
def extend (letters : Letters) (span : Span) : Letters := some ((letters.getD span).through span)

/-- Changes the innermost class. -/
def withClass (j : Judging) (change : OpenClass → Except Fault OpenClass) : Except Fault Judging :=
  match j.classes with
  | [] => .ok j
  | c :: outer => (change c).map (fun c => { j with classes := c :: outer })

/-- Takes in a part. -/
def take (j : Judging) (part : Part) : Except Fault Judging :=
  match part with
  | .item i => do
    judgeItem j.flags i
    match i with
    | .condition true _ => return { j with wideBoundary := j.wideBoundary || j.flags.unicode }
    | _ => return j
  | .any span => (refuseIf (!j.flags.unicode) .invalidText span).map (fun _ => j)
  | .flags marks => .ok { j with flags := j.flags.under marks }
  | .groupStart marks => .ok { j with flags := j.flags.under marks, outer := j.flags :: j.outer }
  | .groupEnd => .ok { j with flags := j.outer.head?.getD j.flags, outer := j.outer.tail }
  | .classStart => .ok { j with classes := ⟨none, none⟩ :: j.classes }
  | .range first last => do
    judgeMember j.flags first
    judgeMember j.flags last
    j.withClass fun c => .ok { c with letters := extend c.letters (first.span.through last.span) }
  | .named negated span => do
    judgeClass j.flags (some span) negated span
    return j
  | .operator => j.withClass fun c => (settle j.flags c).map (fun letters => ⟨some letters, none⟩)
  | .classEnd negated span =>
    match j.classes with
    | [] => .ok j
    | c :: outer => do
      judgeClass j.flags (← settle j.flags c) negated span
      return { j with classes := outer }

end Judging

/-- Judges a pattern. Boundaries of words are left to the end, when all else can be matched. -/
def judge (pattern : List Char) : Except Fault Unit := do
  let j ← (← parts pattern).foldlM Judging.take Judging.initial
  if j.wideBoundary then .error .wideBoundary else .ok ()

end TracePlayer.Regex
