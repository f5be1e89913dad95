/-!
# White space

The Unicode property `White_Space`, and the ways a trace line is cut along it: trimming its two ends, taking off its first
word, and splitting it into words. A text is handled as its list of characters, so that every cut is a recursion on it.
-/

namespace TracePlayer.Text

/-- The characters that have the Unicode property `White_Space`. -/
def isBlank (c : Char) : Bool :=
  let n := c.toNat
  (9 ≤ n && n ≤ 13) || n == 0x20 || n == 0x85 || n == 0xA0 || n == 0x1680 || (0x2000 ≤ n && n ≤ 0x200A) ||
    n == 0x2028 || n == 0x2029 || n == 0x202F || n == 0x205F || n == 0x3000

/-- The text without the white space at its end. -/
def trimEnd (s : List Char) : List Char :=
  (s.reverse.dropWhile isBlank).reverse

/-- The text without the white space at its two ends. -/
def trim (s : List Char) : List Char :=
  trimEnd (s.dropWhile isBlank)

/-- What stands before the first white space character and what stands after it; the whole text and nothing when there is
none. -/
def cutAtBlank (s : List Char) : List Char × List Char :=
  (s.takeWhile (!isBlank ·), (s.dropWhile (!isBlank ·)).tail)

/-- The words of a text, given the letters of the word that is being read, last letter first. -/
def wordsFrom (word : List Char) : List Char → List (List Char)
  | [] => if word.isEmpty then [] else [word.reverse]
  | c :: rest =>
    if isBlank c then
      if word.isEmpty then wordsFrom [] rest else word.reverse :: wordsFrom [] rest
    else
      wordsFrom (c :: word) rest

/-- The maximal runs of characters that are not white space, in order. -/
def words (s : List Char) : List (List Char) :=
  wordsFrom [] s

/-- The pieces of a text between its line feeds: one more than there are line feeds. -/
def piecesFrom (piece : List Char) : List Char → List (List Char)
  | [] => [piece.reverse]
  | c :: rest => if c = '\n' then piece.reverse :: piecesFrom [] rest else piecesFrom (c :: piece) rest

/-- The text cut at every line feed. -/
def pieces (s : List Char) : List (List Char) :=
  piecesFrom [] s

/-- The text without the carriage returns at its end. -/
def dropReturns (s : List Char) : List Char :=
  (s.reverse.dropWhile (· == '\r')).reverse

end TracePlayer.Text
