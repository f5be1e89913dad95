import TracePlayer.Playback.Prompter
import TracePlayer.Screen.Palette

/-!
# The status line

On its left half how many steps have been played, how many wait, and a message; on its right half the keys, and a sign that
tells what the player is doing.
-/

namespace TracePlayer

/-- What the status line shows. -/
structure StatusLine where
  message : String
  stepsPlayed : Nat
  queued : Nat
  readiness : Readiness
  playing : Bool
  deriving DecidableEq, Repr

namespace StatusLine

/-- Text of ordinary weight. -/
def ordinary : Style := .on Palette.text Palette.ground

/-- Text in the background. -/
def quiet : Style := .on Palette.quiet Palette.ground

/-- The name of a key. -/
def keyCap : Style := .on .black Palette.quiet

/-- A sign on a ground of its own. -/
def sign (ground : Color) : Style := (Style.on .black ground).inBold

/-- The style where nothing is written. -/
def ground : Style := { Style.plain with background := some Palette.ground }

/-- The left half. -/
def left (s : StatusLine) : Row :=
  Row.ofText (sign (if s.readiness = .stopped then Palette.ended else Palette.primary)) s!" Step {s.stepsPlayed} " ++
    Row.ofText quiet s!" {s.queued} queued " ++ Row.ofText quiet " | " ++ Row.ofText ordinary s!" {s.message} "

/-- The line between two parts of the right half. -/
def bar : Row := Row.ofText quiet "│"

/-- The keys and what they do. -/
def keys : Row :=
  Row.ofText keyCap " → " ++ Row.ofText ordinary " step " ++ bar ++
    Row.ofText ordinary " " ++ Row.ofText keyCap " ⎵ " ++ Row.ofText ordinary " play " ++ bar ++
    Row.ofText ordinary " " ++ Row.ofText keyCap " ⇥ " ++ Row.ofText ordinary " focus " ++ bar ++
    Row.ofText ordinary " " ++ Row.ofText keyCap "q" ++ Row.ofText ordinary " quit "

/-- What the player is doing: an ended interpreter counts before playing, and that before waiting. -/
def activity? (s : StatusLine) : Option (String × Color) :=
  if s.readiness = .stopped then some (" STOPPED ", Palette.ended)
  else if s.playing then some (" ▶ PLAYING ", Palette.secondary)
  else if s.readiness = .awaiting then some (" WAITING ", Palette.success)
  else none

/-- The right half. -/
def right (s : StatusLine) : Row :=
  match s.activity? with
  | some (text, color) => keys ++ bar ++ Row.ofText (sign color) text
  | none => keys

/-- The width of the left half: of an odd width it has the greater part. -/
def leftWidth (width : Nat) : Nat := (width + 1) / 2

/-- Draws the status line; below its first row an area has its ground only. -/
def draw (s : StatusLine) (width height : Nat) : Picture :=
  .fit ground width height
    [Row.fit ground (leftWidth width) s.left ++ Row.fitRight ground (width - leftWidth width) s.right]

end StatusLine

end TracePlayer
