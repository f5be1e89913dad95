import TracePlayer.Screen.Palette
import TracePlayer.Screen.Wrap

/-!
# The pane of the registers

The registers of the fetch cycle, the general registers and the flags, under three headings. Lines that are too long are
broken.
-/

namespace TracePlayer.RegisterPane

/-- A heading. -/
def heading (text : String) : Row := .ofText (Style.ofColor Palette.quiet).inItalic text

/-- The line of a register: its name and its text. -/
def registerLine (stage : Stage) (r : Register) : Row :=
  Row.ofText (.ofColor Palette.name) (Text.padLeft 4 r.name ++ " ") ++
    Row.ofText (Palette.value stage (.register r)) (stage.register r)

/-- The style of a flag's text. -/
def flagStyle (text : String) : Style :=
  if text = "1" then (Style.ofColor Palette.success).inBold else .ofColor Palette.text

/-- The line of the flags: the letter and the text of each. -/
def flagLine (stage : Stage) : Row :=
  Flag.all.flatMap (fun f =>
    Row.ofText (.ofColor Palette.name) s!" {f.code}=" ++ Row.ofText (flagStyle (stage.flag f)) (stage.flag f))

/-- The lines of the pane, before they are broken. -/
def lines (stage : Stage) : List Row :=
  heading "control" :: Register.control.map (registerLine stage) ++
    [] :: heading "general" :: Register.general.map (registerLine stage) ++
    [[], heading "compare", flagLine stage]

/-- Draws the pane. -/
def draw (stage : Stage) (focused : Bool) (width height : Nat) : Picture :=
  .framed (Palette.frame focused) " Registers " width height
    (.fit .plain (width - 2) (height - 2) ((lines stage).flatMap (Row.wrap (width - 2))))

end TracePlayer.RegisterPane
