import TracePlayer.Trace.Line

/-!
# Decoding a chunk of a trace

The interpreter's output arrives in chunks of whole lines. Every line that is not blank is counted: decoded, ignored because
nothing here knows its tag or operation, or malformed. Only the decoded ones tell an event.
-/

namespace TracePlayer.Trace

/-- How many lines have been decoded, ignored, and dropped as malformed. -/
structure Tally where
  decoded : Nat
  ignored : Nat
  malformed : Nat
  deriving DecidableEq, Repr

/-- Nothing counted. -/
def Tally.zero : Tally := ⟨0, 0, 0⟩

/-- What becomes of one line of a chunk. -/
inductive Verdict where
  | blank
  | decoded (event : Event)
  | ignored
  | malformed (fault : LineFault)
  deriving Repr

/-- Judges a line of a chunk, from which carriage returns at the end have not been taken off yet. -/
def judge (line : List Char) : Verdict :=
  let line := Text.dropReturns line
  if (Text.trim line).isEmpty then .blank
  else
    match decodeLine line with
    | .ok (some event) => .decoded event
    | .ok none => .ignored
    | .error fault => .malformed fault

/-- The event that a line tells, if any. -/
def Verdict.event? : Verdict → Option Event
  | decoded event => some event
  | _ => none

/-- The tally with one more line. -/
def Tally.count (t : Tally) : Verdict → Tally
  | .blank => t
  | .decoded _ => { t with decoded := t.decoded + 1 }
  | .ignored => { t with ignored := t.ignored + 1 }
  | .malformed _ => { t with malformed := t.malformed + 1 }

/-- The verdicts on the lines of a chunk. -/
def verdicts (chunk : String) : List Verdict :=
  (Text.pieces chunk.toList).map judge

/-- Decodes a chunk: its events in order, and the tally that goes on from the one given. -/
def decode (tally : Tally) (chunk : String) : List Event × Tally :=
  ((verdicts chunk).filterMap Verdict.event?, (verdicts chunk).foldl Tally.count tally)

end TracePlayer.Trace
