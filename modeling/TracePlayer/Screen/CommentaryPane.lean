import TracePlayer.Screen.Palette
import TracePlayer.Text.Lines

/-!
# The pane of the commentary

The entries of the commentary from one on, the newest of them set off. An entry may have several lines; it is shown with all
of them or not at all.
-/

namespace TracePlayer.CommentaryPane

/-- How many entries a pane of some height shows when each has one line, its frame taken off. It counts as one at least. -/
def visibleEntries (height : Nat) : Nat := max (height - 2) 1

/-- The entry from which a pane is drawn. Without any entries the wish stands. -/
def settle (wish count height : Nat) : Nat :=
  if count = 0 then wish
  else if visibleEntries height < count then min wish (count - visibleEntries height)
  else 0

/-- The rows of an entry, in its style. -/
def entryRows (style : Style) (width : Nat) (entry : String) : Picture :=
  let rows := Text.lines entry.toList
  (if rows.isEmpty then [[]] else rows).map (fun r => Row.fit style width (.ofText style (String.ofList r)))

/-- The style of the entry that has `later` entries behind it. -/
def entryStyle (later : Nat) : Style :=
  if later = 0 then (Style.ofColor Palette.primary).inBold else .ofColor Palette.text

/-- The rows of the last entries of a commentary, in a room of some rows. From the first entry on that does not fit as a whole
none is shown. -/
def stack (width room : Nat) : List String → Picture
  | [] => []
  | entry :: rest =>
    let rows := entryRows (entryStyle rest.length) width entry
    if rows.length ≤ room then rows ++ stack width (room - rows.length) rest else []

/-- What the pane says when there are no entries. -/
def placeholder : String := "(waiting for the interpreter)"

/-- The inside of a pane with entries: a blank column, and the entries beside it. -/
def inside (entries : List String) (first width height : Nat) : Picture :=
  let entries := entries.drop first
  let rows := stack (width - 1) height entries
  .fit .plain width height (rows.map (fun r => Row.fit .plain (min width 1) [] ++ r))

/-- Draws the pane from a settled entry on. -/
def draw (entries : List String) (focused : Bool) (first width height : Nat) : Picture :=
  .framed (Palette.frame focused) " Commentary " width height
    (if entries.isEmpty then
      let style := Style.ofColor Palette.quiet
      .fit style (width - 2) (height - 2) [.ofText style placeholder]
    else inside entries first (width - 2) (height - 2))

end TracePlayer.CommentaryPane
