import Translit.Text.Basic

/-
  Documents and their lines.

  A line ends at a line feed, and a carriage return directly
  before that line feed belongs to the line end.  The last
  line needs no line feed, and text that ends with one has no
  empty line after it.

  Key definitions include:
    * `Text.chomped`
    * `Text.lines`
    * `Text.joinLines`
-/

------------------------------------------------------------
-- Splitting
------------------------------------------------------------

namespace Translit

namespace Text

/- The line without one carriage return at its end. -/
def chomped
    (line : Text) : Text :=
  if line.getLast? = some '\r' then line.dropLast else line

/-
  The part after the last line feed.  It is a line only if it
  is not empty, and no line end belongs to it.
-/
def lastLine
    (piece : Text) : List Text :=
  if piece.isEmpty then [] else [piece]

/- The lines of a document, without their line ends. -/
def lines
    (document : Text) : List Text :=
  let pieces := document.splitOn '\n'
  pieces.dropLast.map chomped ++
    (pieces.getLast?.map lastLine).getD []

end Text

end Translit

------------------------------------------------------------
-- Joining
------------------------------------------------------------

namespace Translit

namespace Text

/- Write the entries with one line feed between them. -/
def joinLines
    (entries : List Text) : Text :=
  List.intercalate ['\n'] entries

end Text

end Translit
