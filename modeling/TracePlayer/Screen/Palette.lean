import TracePlayer.Display.Stage
import TracePlayer.Screen.Picture

/-!
# The palette

The colours of the screen by what they are for, and the styles that several panes share.
-/

namespace TracePlayer.Palette

/-- Ordinary text. -/
def text : Color := .rgb 0xcd 0xd6 0xf4

/-- The newest line of the commentary, and the step counter. -/
def primary : Color := .rgb 0x89 0xb4 0xfa

/-- The sign that the animation plays. -/
def secondary : Color := .rgb 0xfa 0xb3 0x87

/-- Headings and all that stays in the background. -/
def quiet : Color := .rgb 0x6c 0x70 0x86

/-- A raised flag, and the sign that an answer is awaited. -/
def success : Color := .rgb 0xa6 0xe3 0xa1

/-- The sign that the interpreter has ended. -/
def ended : Color := .rgb 0xf3 0x8b 0xa8

/-- The frame of the pane that has the focus. -/
def focus : Color := .rgb 0xf9 0xe2 0xaf

/-- The ground of the status line. -/
def ground : Color := .rgb 0x32 0x32 0x46

/-- The names of registers and flags. -/
def name : Color := .rgb 0xf9 0xe2 0xaf

/-- What the last step touched. -/
def flash : Color := .rgb 0xfa 0xb3 0x87

/-- What is held in bold. -/
def bold : Color := .rgb 0xf5 0xc2 0xe7

/-- The numbers of the rows and columns of the grid. -/
def address : Color := .rgb 0x94 0xe2 0xd5

/-- The style of the frame around a pane. -/
def frame (focused : Bool) : Style := if focused then (Style.ofColor focus).inBold else .ofColor quiet

/-- The style of a value: flashing counts before bold. -/
def value (stage : Stage) (element : Element) : Style :=
  if stage.isFlashing element then (Style.ofColor flash).inBold
  else if stage.isBold element then (Style.ofColor bold).inBold
  else .ofColor text

end TracePlayer.Palette
