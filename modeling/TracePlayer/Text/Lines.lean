/-!
# Lines

A text is cut into lines at its line feeds. A carriage return right before a line feed belongs to the break, and a line feed
at the end of the text starts no further line. `splitAt` cuts a text at every mark of another kind.
-/

namespace TracePlayer.Text

/-- A line that has been read, given its letters last letter first, without the carriage return at its end. -/
def closeLine : List Char → List Char
  | '\r' :: letters => letters.reverse
  | letters => letters.reverse

/-- The lines of a text, given the letters of the line that is being read, last letter first. -/
def linesFrom (line : List Char) : List Char → List (List Char)
  | [] => if line.isEmpty then [] else [line.reverse]
  | c :: rest => if c = '\n' then closeLine line :: linesFrom [] rest else linesFrom (c :: line) rest

/-- The lines of a text. -/
def lines (s : List Char) : List (List Char) := linesFrom [] s

/-- The pieces of a text between its marks: one more than there are marks. -/
def splitAt (mark : Char) (s : List Char) : List (List Char) :=
  let (piece, rest) := s.foldr
    (fun c (piece, rest) => if c = mark then ([], piece :: rest) else (c :: piece, rest)) ([], [])
  piece :: rest

end TracePlayer.Text
